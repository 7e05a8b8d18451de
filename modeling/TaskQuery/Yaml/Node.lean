import TaskQuery.Yaml.Plain

/-!
# The structure of a YAML document

A document is first read as a tree of nodes, and the tree then becomes a value.
What a plain scalar means is decided in the second step, so a document whose
structure is wrong is never reported for an impossible date in it.  Of several
scalars without meaning, the one nearest to the root is reported, and of those at
the same depth the first.
-/

namespace TaskQuery.Yaml

/-- A piece of a document. -/
inductive Node where
  /-- A scalar; a plain one is written without quotes. -/
  | scalar (plain : Bool) (text : List Char)
  | sequence (items : List Node)
  | mapping (entries : List (Node × Node))

namespace Node

/-- The node of a place where nothing is written. -/
def empty : Node :=
  .scalar true []

/-! ## Scalars and keys -/

/-- The meaning of a scalar. -/
def meaning (plain : Bool) (text : List Char) : Except YamlFault Scalar :=
  if plain then resolvePlain text else .ok (.string (String.ofList text))

/-- The meaning of a key.  Only scalars can be keys, and an equals sign is one. -/
def key : Node → Except YamlFault Scalar
  | .scalar true ['='] => .ok (.string "=")
  | .scalar plain text => meaning plain text
  | _ => .error .malformed

/-! ## The fault nearest to the root -/

/-- The fault of a failed step, at depth zero. -/
def faultOf {α : Type} : Except YamlFault α → Option (Nat × YamlFault)
  | .ok _ => none
  | .error fault => some (0, fault)

/-- The one of two faults that is nearer to the root, or else the first. -/
def nearer : Option (Nat × YamlFault) → Option (Nat × YamlFault) → Option (Nat × YamlFault)
  | none, second => second
  | first, none => first
  | some (depth, fault), some (other, later) =>
    if other < depth then some (other, later) else some (depth, fault)

/-- A fault seen from one step further up. -/
def deeper (fault : Option (Nat × YamlFault)) : Option (Nat × YamlFault) :=
  fault.map fun (depth, cause) => (depth + 1, cause)

mutual

/-- The first of the faults nearest to the root, and its depth. -/
def fault? : Node → Option (Nat × YamlFault)
  | .scalar plain text => faultOf (meaning plain text)
  | .sequence items => deeper (itemsFault? items)
  | .mapping entries => deeper (entriesFault? entries)

/-- The fault of the items of a sequence. -/
def itemsFault? : List Node → Option (Nat × YamlFault)
  | [] => none
  | item :: items => nearer (fault? item) (itemsFault? items)

/-- The fault of the entries of a mapping. -/
def entriesFault? : List (Node × Node) → Option (Nat × YamlFault)
  | [] => none
  | (key, value) :: entries =>
    nearer (nearer (faultOf key.key) (fault? value)) (entriesFault? entries)

end

/-! ## Values -/

/-- The scalar of a successful step, and null for one that has failed. -/
def scalarOf : Except YamlFault Scalar → Scalar
  | .ok value => value
  | .error _ => .null

mutual

/-- The value of a node without faults. -/
def value : Node → Value
  | .scalar plain text => .scalar (scalarOf (meaning plain text))
  | .sequence items => .sequence (itemValues items)
  | .mapping entries => .mapping (Entries.ofList (entryValues entries))

/-- The values of the items of a sequence. -/
def itemValues : List Node → List Value
  | [] => []
  | item :: items => value item :: itemValues items

/-- The keys and values of the entries of a mapping. -/
def entryValues : List (Node × Node) → List (Scalar × Value)
  | [] => []
  | (key, item) :: entries => (scalarOf key.key, value item) :: entryValues entries

end

/-- The value of a node, or its fault. -/
def toValue (node : Node) : Except YamlFault Value :=
  match node.fault? with
  | some (_, fault) => .error fault
  | none => .ok node.value

end Node

end TaskQuery.Yaml
