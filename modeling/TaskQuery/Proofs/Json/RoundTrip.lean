import Mathlib.Data.List.Nodup
import TaskQuery.Proofs.Json.Numeral
import TaskQuery.Proofs.Outcome

/-!
# Documents read back

What is written of a document is read as the document again (`read_toText`).  Two things have
to hold of it: its whole numbers are not long, and no object has a key twice (`Faithful`).
Nothing is asked of strings and floating-point numbers.

## Strategy

Strings go character by character: each is written as it is or as an escape, and is read back
from both (`printChar_spec`).  A document is read back at every depth and in front of everything
that ends a number (`ReadsBack`), since a number is the only kind of document that does not show
its own end.  That is proved along `Faithful`, for the items of an array and the members of an
object by induction on the list.  Fuel is counted in characters: the readers call each other at
most twice for every character of the text, so fuel for a text is fuel for its parts.
-/

namespace TaskQuery.Json

open Number

/-! ## Strings -/

theorem takeHex?_append {digits tail : List Char} {code : ℕ}
    (hdigits : takeHex? digits = some (code, [])) :
    takeHex? (digits ++ tail) = some (code, tail) := by
  unfold takeHex? at hdigits
  split at hdigits
  · simp only [Option.bind_eq_bind, Option.bind_eq_some_iff] at hdigits
    obtain ⟨first, hfirst, second, hsecond, third, hthird, fourth, hfourth, hfound⟩ := hdigits
    cases hfound
    simp [takeHex?, hfirst, hsecond, hthird, hfourth]
  · cases hdigits

/-- The four hexadecimal digits of every control character. -/
theorem takeHex?_control : ∀ code < 0x20,
    takeHex? (List.replicate (4 - (Nat.toDigits 16 code).length) '0' ++ Nat.toDigits 16 code) =
      some (code, []) := by
  decide

theorem takeCode?_control {c : Char} (hc : c.toNat < 0x20) (tail : List Char) :
    takeCode? ((List.replicate (4 - (Nat.toDigits 16 c.toNat).length) '0' ++
      Nat.toDigits 16 c.toNat) ++ tail) = some (c, tail) := by
  unfold takeCode?
  rw [takeHex?_append (takeHex?_control c.toNat hc), Option.bind_eq_bind, Option.bind_some]
  dsimp only
  rw [if_neg (by omega), if_neg (by omega), Char.ofNat_toNat]

/-- A character is written as it is or as an escape, and the escape is read as the character. -/
theorem printChar_spec (c : Char) :
    printChar c = [c] ∧ c ≠ '"' ∧ c ≠ '\\' ∧ ¬ c.toNat < 0x20 ∨
      ∃ escape, printChar c = '\\' :: escape ∧
        ∀ tail, takeEscape? (escape ++ tail) = some (c, tail) := by
  unfold printChar
  split_ifs with hquote hbackslash hfeed hreturn htab hback hform hcontrol
  · exact Or.inr ⟨['"'], rfl, fun tail => by rw [hquote]; rfl⟩
  · exact Or.inr ⟨['\\'], rfl, fun tail => by rw [hbackslash]; rfl⟩
  · exact Or.inr ⟨['n'], rfl, fun tail => by rw [hfeed]; rfl⟩
  · exact Or.inr ⟨['r'], rfl, fun tail => by rw [hreturn]; rfl⟩
  · exact Or.inr ⟨['t'], rfl, fun tail => by rw [htab]; rfl⟩
  · exact Or.inr ⟨['b'], rfl, fun tail => by rw [hback]; rfl⟩
  · exact Or.inr ⟨['f'], rfl, fun tail => by rw [hform]; rfl⟩
  · refine Or.inr ⟨_, rfl, fun tail => ?_⟩
    exact takeCode?_control hcontrol tail
  · exact Or.inl ⟨rfl, hquote, hbackslash, hcontrol⟩

theorem readString?_printChar (c : Char) (fuel : ℕ) (tail : List Char) :
    readString? (fuel + 1) (printChar c ++ tail) =
      (readString? fuel tail).map fun found => (c :: found.1, found.2) := by
  rcases printChar_spec c with ⟨hsame, hquote, hbackslash, hcontrol⟩ | ⟨escape, hescape, hread⟩
  · rw [hsame, List.singleton_append, readString?, if_neg hquote, if_neg hbackslash,
      if_neg hcontrol]
    cases readString? fuel tail <;> rfl
  · rw [hescape, List.cons_append, readString?, if_neg (by decide), if_pos rfl, hread,
      Option.bind_eq_bind, Option.bind_some]
    dsimp only
    cases readString? fuel tail <;> rfl

/-- A string is read back, with fuel for its characters. -/
theorem readString?_flatMap_printChar (text rest : List Char) :
    ∀ fuel, text.length < fuel →
      readString? fuel (text.flatMap printChar ++ '"' :: rest) = some (text, rest) := by
  induction text with
  | nil =>
      intro fuel hfuel
      obtain ⟨fuel, rfl⟩ := Nat.exists_eq_succ_of_ne_zero hfuel.ne'
      rfl
  | cons c text ih =>
      intro fuel hfuel
      obtain ⟨fuel, rfl⟩ := Nat.exists_eq_succ_of_ne_zero (Nat.ne_zero_of_lt hfuel)
      rw [List.flatMap_cons, List.append_assoc, readString?_printChar,
        ih fuel (Nat.lt_of_succ_lt_succ hfuel)]
      rfl

theorem length_le_length_flatMap_printChar (text : List Char) :
    text.length ≤ (text.flatMap printChar).length := by
  induction text with
  | nil => exact Nat.zero_le _
  | cons c text ih =>
      have hpositive : 0 < (printChar c).length := by
        rcases printChar_spec c with ⟨hsame, -⟩ | ⟨escape, hescape, -⟩
        · simp [hsame]
        · simp [hescape]
      rw [List.flatMap_cons, List.length_append, List.length_cons]
      omega

/-- A string is written with its quotes around it. -/
theorem printString_append (text : String) (rest : List Char) :
    printString text ++ rest = '"' :: (text.toList.flatMap printChar ++ '"' :: rest) := by
  simp [printString]

theorem readText_append (text : String) (rest : List Char) {fuel : ℕ}
    (hfuel : (printString text).length ≤ fuel) :
    readText fuel (text.toList.flatMap printChar ++ '"' :: rest) = .ok (text, rest) := by
  have hlength := length_le_length_flatMap_printChar text.toList
  have hprinted : (printString text).length = (text.toList.flatMap printChar).length + 2 := by
    simp [printString]
  unfold readText
  rw [readString?_flatMap_printChar text.toList rest fuel (by omega)]
  simp

/-! ## Objects without repeated keys -/

theorem insertMember_of_not_mem {members : List (String × Json)} {key : String}
    (hkey : key ∉ members.map Prod.fst) (value : Json) :
    insertMember members key value = members ++ [(key, value)] := by
  induction members with
  | nil => rfl
  | cons member members ih =>
      obtain ⟨hother, hrest⟩ := not_or.mp (mt List.mem_cons.mpr hkey)
      rw [insertMember, if_neg (Ne.symm hother), ih hrest]
      rfl

theorem ofMembers_of_nodup {members : List (String × Json)}
    (hdistinct : (members.map Prod.fst).Nodup) : ofMembers members = .object members := by
  suffices hfold : ∀ found : List (String × Json), ((found ++ members).map Prod.fst).Nodup →
      members.foldl (fun found member => insertMember found member.1 member.2) found =
        found ++ members by
    exact congrArg Json.object (hfold [] hdistinct)
  clear hdistinct
  induction members with
  | nil => intro found _; simp
  | cons member members ih =>
      intro found hfound
      have hnew : member.1 ∉ found.map Prod.fst := by
        rw [List.map_append, List.map_cons] at hfound
        intro hmem
        exact (List.nodup_append.mp hfound).2.2 _ hmem _ (List.mem_cons_self ..) rfl
      rw [List.foldl_cons, insertMember_of_not_mem hnew, ih _ (by simpa using hfound)]
      simp

/-! ## Documents -/

/-- A document that can be read: its whole numbers are not long, and no object has a key
twice. -/
inductive Faithful : Json → Prop
  | null : Faithful .null
  | bool (value : Bool) : Faithful (.bool value)
  | int {value : ℤ} (hshort : isLong value = false) : Faithful (.int value)
  | float (value : Binary64) : Faithful (.float value)
  | string (value : String) : Faithful (.string value)
  | array {items : List Json} (hitems : ∀ item ∈ items, Faithful item) : Faithful (.array items)
  | object {members : List (String × Json)} (hdistinct : (members.map Prod.fst).Nodup)
      (hmembers : ∀ member ∈ members, Faithful member.2) : Faithful (.object members)

/-- Whether a document is read back from its text, at every depth, in front of everything that
ends a number, and with fuel for its length. -/
def ReadsBack (document : Json) : Prop :=
  ∀ depth fuel rest, EndsNumber rest → 2 * (document.print depth).length ≤ fuel + 1 →
    readValue fuel (document.print depth ++ rest) = .ok (document, rest)

/-! ### Spaces between the pieces -/

theorem skipSpaces_newLine (depth : ℕ) (text : List Char) :
    skipSpaces (newLine depth ++ text) = skipSpaces text := by
  have hspaces : ∀ c ∈ newLine depth, isSpace c = true := by
    intro c hc
    rcases List.mem_cons.mp hc with rfl | hc
    · rfl
    · rw [List.eq_of_mem_replicate hc]
      rfl
  exact List.dropWhile_append_of_pos hspaces

theorem skipSpaces_cons {c : Char} (hc : isSpace c = false) (text : List Char) :
    skipSpaces (c :: text) = c :: text :=
  List.dropWhile_cons_of_neg (by simp [hc])

/-- No value starts with a space or with the end of an array. -/
theorem start_of_readValue {fuel : ℕ} {text : List Char} {found : Json × List Char}
    (hread : readValue fuel text = .ok found) :
    ∃ c more, text = c :: more ∧ isSpace c = false ∧ c ≠ ']' := by
  cases fuel with
  | zero => cases hread
  | succ fuel =>
      cases text with
      | nil => cases hread
      | cons c more =>
          refine ⟨c, more, rfl, Bool.eq_false_iff.mpr fun hspace => ?_, ?_⟩
          · simp only [isSpace, Bool.or_eq_true, beq_iff_eq] at hspace
            rcases hspace with ((rfl | rfl) | rfl) | rfl <;> cases hread
          · rintro rfl
            cases hread

theorem ReadsBack.exists_print_eq_cons {document : Json} (hreads : ReadsBack document)
    (depth : ℕ) : ∃ c more, document.print depth = c :: more ∧ isSpace c = false := by
  have hread := hreads depth _ [] endsNumber_nil (Nat.le_succ _)
  obtain ⟨c, more, hcons, hspace, -⟩ := start_of_readValue hread
  rw [List.append_nil] at hcons
  exact ⟨c, more, hcons, hspace⟩

theorem ReadsBack.length_pos {document : Json} (hreads : ReadsBack document) (depth : ℕ) :
    0 < (document.print depth).length := by
  obtain ⟨c, more, hcons, -⟩ := hreads.exists_print_eq_cons depth
  rw [hcons]
  exact Nat.succ_pos _

theorem ReadsBack.skipSpaces_append {document : Json} (hreads : ReadsBack document) (depth : ℕ)
    (rest : List Char) :
    skipSpaces (document.print depth ++ rest) = document.print depth ++ rest := by
  obtain ⟨c, more, hcons, hspace⟩ := hreads.exists_print_eq_cons depth
  rw [hcons, List.cons_append, skipSpaces_cons hspace]

/-! ### Values without brackets -/

/-- A number or a word is read by a reader of its own. -/
theorem readValue_of_readPlain {text : List Char} {found : Json × List Char}
    (hread : readPlain text = .ok found) (fuel : ℕ) : readValue (fuel + 1) text = .ok found := by
  cases text with
  | nil => cases hread
  | cons c more =>
      have hquote : c ≠ '"' := by
        rintro rfl
        cases hread
      have hbracket : c ≠ '[' := by
        rintro rfl
        cases hread
      have hbrace : c ≠ '{' := by
        rintro rfl
        cases hread
      simp [readValue, hquote, hbracket, hbrace, hread]

theorem readsBack_of_readPlain {document : Json}
    (hread : ∀ depth rest, EndsNumber rest →
      readPlain (document.print depth ++ rest) = .ok (document, rest)) : ReadsBack document := by
  intro depth fuel rest hends hfuel
  have hpositive : 0 < fuel := by
    by_contra hzero
    have hempty : document.print depth = [] := List.eq_nil_of_length_eq_zero (by omega)
    have halone := hread depth [] endsNumber_nil
    rw [hempty] at halone
    cases halone
  obtain ⟨fuel, rfl⟩ := Nat.exists_eq_succ_of_ne_zero hpositive.ne'
  exact readValue_of_readPlain (hread depth rest hends) fuel

theorem readsBack_string (value : String) : ReadsBack (.string value) := by
  intro depth fuel rest hends hfuel
  change 2 * (printString value).length ≤ fuel + 1 at hfuel
  change readValue fuel (printString value ++ rest) = _
  have hlength : 2 ≤ (printString value).length := by simp [printString]
  obtain ⟨fuel, rfl⟩ := Nat.exists_eq_succ_of_ne_zero (show fuel ≠ 0 by omega)
  rw [printString_append]
  exact bind_eq_ok_iff.mpr ⟨_, readText_append value rest (by omega), rfl⟩

/-! ### Arrays -/

section Items

variable {fuel : ℕ} {text after more rest : List Char} {item : Json} {items : List Json}

theorem readItems_last (hitem : readValue fuel text = .ok (item, after))
    (hend : skipSpaces after = ']' :: rest) : readItems (fuel + 1) text = .ok ([item], rest) := by
  refine bind_eq_ok_iff.mpr ⟨_, hitem, ?_⟩
  dsimp only
  rw [hend]
  rfl

theorem readItems_more (hitem : readValue fuel text = .ok (item, after))
    (hcomma : skipSpaces after = ',' :: more)
    (hitems : readItems fuel (skipSpaces more) = .ok (items, rest)) :
    readItems (fuel + 1) text = .ok (item :: items, rest) := by
  refine bind_eq_ok_iff.mpr ⟨_, hitem, ?_⟩
  dsimp only
  rw [hcomma]
  exact bind_eq_ok_iff.mpr ⟨_, hitems, rfl⟩

theorem start_of_readItems (hitems : readItems fuel text = .ok (items, rest)) :
    ∃ c more, text = c :: more ∧ c ≠ ']' := by
  cases fuel with
  | zero => cases hitems
  | succ fuel =>
      obtain ⟨found, hread, -⟩ := bind_eq_ok_iff.mp hitems
      obtain ⟨c, more, hstart, -, hbracket⟩ := start_of_readValue hread
      exact ⟨c, more, hstart, hbracket⟩

theorem readValue_array (hitems : readItems fuel (skipSpaces text) = .ok (items, rest)) :
    readValue (fuel + 1) ('[' :: text) = .ok (.array items, rest) := by
  obtain ⟨c, more, hstart, hbracket⟩ := start_of_readItems hitems
  rw [hstart] at hitems
  rw [readValue, hstart]
  split
  · rename_i heq
    exact absurd (List.cons.inj heq).1 hbracket
  · exact bind_eq_ok_iff.mpr ⟨_, hitems, rfl⟩

end Items

/-- The items of an array, with what stands between them. -/
def itemsText (depth : ℕ) : List Json → List Char
  | [] => []
  | item :: items => item.print depth ++ printItems depth items

theorem printItems_cons (depth : ℕ) (item : Json) (items : List Json) :
    printItems depth (item :: items) =
      ',' :: (newLine depth ++ itemsText depth (item :: items)) :=
  List.append_assoc (',' :: newLine depth) (item.print depth) (printItems depth items)

theorem print_array_cons (depth : ℕ) (item : Json) (items : List Json) :
    (Json.array (item :: items)).print depth = '[' :: (newLine (depth + 1) ++
      (itemsText (depth + 1) (item :: items) ++ (newLine depth ++ [']']))) := by
  change '[' :: newLine (depth + 1) ++ item.print (depth + 1) ++ printItems (depth + 1) items ++
    newLine depth ++ [']'] = _
  simp [itemsText]

theorem skipSpaces_itemsText {items : List Json} (hne : items ≠ [])
    (hitems : ∀ item ∈ items, ReadsBack item) (depth : ℕ) (rest : List Char) :
    skipSpaces (newLine depth ++ (itemsText depth items ++ rest)) =
      itemsText depth items ++ rest := by
  obtain ⟨item, items, rfl⟩ := List.exists_cons_of_ne_nil hne
  rw [skipSpaces_newLine, itemsText, List.append_assoc,
    (hitems item (List.mem_cons_self ..)).skipSpaces_append]

theorem readItems_itemsText (depth closing : ℕ) (rest : List Char) {items : List Json}
    (hne : items ≠ []) (hitems : ∀ item ∈ items, ReadsBack item) :
    ∀ fuel, 2 * (itemsText depth items).length ≤ fuel →
      readItems fuel (itemsText depth items ++ (newLine closing ++ ']' :: rest)) =
        .ok (items, rest) := by
  induction items with
  | nil => exact absurd rfl hne
  | cons item items ih =>
      intro fuel hfuel
      obtain ⟨hitem, hlater⟩ := List.forall_mem_cons.mp hitems
      have hpositive := hitem.length_pos depth
      rw [itemsText, List.length_append] at hfuel
      obtain ⟨fuel, rfl⟩ := Nat.exists_eq_succ_of_ne_zero (show fuel ≠ 0 by omega)
      rw [itemsText, List.append_assoc]
      cases items with
      | nil =>
          refine readItems_last (hitem depth fuel _ (endsNumber_newLine _ _) (by omega)) ?_
          exact (skipSpaces_newLine closing _).trans (skipSpaces_cons rfl _)
      | cons next items =>
          rw [printItems_cons] at hfuel ⊢
          rw [List.length_cons, List.length_append] at hfuel
          rw [List.cons_append, List.append_assoc]
          refine readItems_more (hitem depth fuel _ (endsNumber_comma _) (by omega))
            (skipSpaces_cons rfl _) ?_
          rw [skipSpaces_itemsText (List.cons_ne_nil _ _) hlater]
          exact ih (List.cons_ne_nil _ _) hlater fuel (by omega)

/-- An array is read back if its items are. -/
theorem readsBack_array {items : List Json} (hitems : ∀ item ∈ items, ReadsBack item) :
    ReadsBack (.array items) := by
  intro depth fuel rest hends hfuel
  cases items with
  | nil =>
      change 2 * 2 ≤ fuel + 1 at hfuel
      obtain ⟨fuel, rfl⟩ := Nat.exists_eq_succ_of_ne_zero (show fuel ≠ 0 by omega)
      rfl
  | cons item items =>
      rw [print_array_cons] at hfuel ⊢
      simp only [List.length_cons, List.length_append] at hfuel
      obtain ⟨fuel, rfl⟩ := Nat.exists_eq_succ_of_ne_zero (show fuel ≠ 0 by omega)
      have htext : newLine (depth + 1) ++ (itemsText (depth + 1) (item :: items) ++
          (newLine depth ++ [']'])) ++ rest = newLine (depth + 1) ++
            (itemsText (depth + 1) (item :: items) ++ (newLine depth ++ ']' :: rest)) := by
        simp
      rw [List.cons_append, htext]
      refine readValue_array ?_
      rw [skipSpaces_itemsText (List.cons_ne_nil _ _) hitems]
      exact readItems_itemsText (depth + 1) depth rest (List.cons_ne_nil _ _) hitems fuel (by omega)

/-! ### Objects -/

section Members

variable {fuel : ℕ} {text after more rest : List Char} {key : String} {value : Json}
  {members : List (String × Json)}

theorem readMembers_last (hkey : (printString key).length ≤ fuel + 1)
    (hvalue : readValue fuel (skipSpaces text) = .ok (value, after))
    (hend : skipSpaces after = '}' :: rest) :
    readMembers (fuel + 1) (printString key ++ ':' :: text) = .ok ([(key, value)], rest) := by
  rw [printString_append]
  refine bind_eq_ok_iff.mpr ⟨_, readText_append key _ hkey, ?_⟩
  dsimp only
  rw [skipSpaces_cons rfl]
  refine bind_eq_ok_iff.mpr ⟨_, hvalue, ?_⟩
  dsimp only
  rw [hend]
  rfl

theorem readMembers_more (hkey : (printString key).length ≤ fuel + 1)
    (hvalue : readValue fuel (skipSpaces text) = .ok (value, after))
    (hcomma : skipSpaces after = ',' :: more)
    (hmembers : readMembers fuel (skipSpaces more) = .ok (members, rest)) :
    readMembers (fuel + 1) (printString key ++ ':' :: text) =
      .ok ((key, value) :: members, rest) := by
  rw [printString_append]
  refine bind_eq_ok_iff.mpr ⟨_, readText_append key _ hkey, ?_⟩
  dsimp only
  rw [skipSpaces_cons rfl]
  refine bind_eq_ok_iff.mpr ⟨_, hvalue, ?_⟩
  dsimp only
  rw [hcomma]
  exact bind_eq_ok_iff.mpr ⟨_, hmembers, rfl⟩

theorem readValue_object
    (hmembers : readMembers fuel (skipSpaces text) = .ok (members, rest)) :
    readValue (fuel + 1) ('{' :: text) = .ok (ofMembers members, rest) := by
  have hbrace : ∀ more, skipSpaces text ≠ '}' :: more := by
    intro more hstart
    rw [hstart] at hmembers
    cases fuel <;> cases hmembers
  rw [readValue]
  split
  · rename_i hstart
    exact absurd hstart (hbrace _)
  · exact bind_eq_ok_iff.mpr ⟨_, hmembers, rfl⟩

end Members

/-- The members of an object, with what stands between them. -/
def membersText (depth : ℕ) : List (String × Json) → List Char
  | [] => []
  | (key, value) :: members =>
    printString key ++ ':' :: ' ' :: (value.print depth ++ printMembers depth members)

theorem printMembers_cons (depth : ℕ) (member : String × Json) (members : List (String × Json)) :
    printMembers depth (member :: members) =
      ',' :: (newLine depth ++ membersText depth (member :: members)) := by
  obtain ⟨key, value⟩ := member
  change ',' :: newLine depth ++ printString key ++ ':' :: ' ' :: value.print depth ++
    printMembers depth members = _
  simp [membersText]

theorem print_object_cons (depth : ℕ) (member : String × Json)
    (members : List (String × Json)) :
    (Json.object (member :: members)).print depth = '{' :: (newLine (depth + 1) ++
      (membersText (depth + 1) (member :: members) ++ (newLine depth ++ ['}']))) := by
  obtain ⟨key, value⟩ := member
  change '{' :: newLine (depth + 1) ++ printString key ++ ':' :: ' ' :: value.print (depth + 1) ++
    printMembers (depth + 1) members ++ newLine depth ++ ['}'] = _
  simp [membersText]

theorem skipSpaces_membersText {members : List (String × Json)} (hne : members ≠ [])
    (depth : ℕ) (rest : List Char) :
    skipSpaces (newLine depth ++ (membersText depth members ++ rest)) =
      membersText depth members ++ rest := by
  obtain ⟨⟨key, value⟩, members, rfl⟩ := List.exists_cons_of_ne_nil hne
  rw [skipSpaces_newLine]
  exact skipSpaces_cons rfl _

theorem readMembers_membersText (depth closing : ℕ) (rest : List Char)
    {members : List (String × Json)} (hne : members ≠ [])
    (hmembers : ∀ member ∈ members, ReadsBack member.2) :
    ∀ fuel, 2 * (membersText depth members).length ≤ fuel →
      readMembers fuel (membersText depth members ++ (newLine closing ++ '}' :: rest)) =
        .ok (members, rest) := by
  induction members with
  | nil => exact absurd rfl hne
  | cons member members ih =>
      intro fuel hfuel
      obtain ⟨key, value⟩ := member
      have hvalue : ReadsBack value := hmembers (key, value) (List.mem_cons_self ..)
      have hlater := fun member hmem => hmembers member (List.mem_cons_of_mem _ hmem)
      simp only [membersText, List.length_append, List.length_cons] at hfuel
      obtain ⟨fuel, rfl⟩ := Nat.exists_eq_succ_of_ne_zero (show fuel ≠ 0 by omega)
      have hread : ∀ tail, EndsNumber tail →
          readValue fuel (skipSpaces (' ' :: (value.print depth ++ tail))) = .ok (value, tail) := by
        intro tail htail
        have hspace : skipSpaces (' ' :: (value.print depth ++ tail)) = value.print depth ++ tail :=
          hvalue.skipSpaces_append depth tail
        rw [hspace]
        exact hvalue depth fuel tail htail (by omega)
      simp only [membersText, List.append_assoc, List.cons_append]
      cases members with
      | nil =>
          refine readMembers_last (by omega) (hread _ (endsNumber_newLine _ _)) ?_
          exact (skipSpaces_newLine closing _).trans (skipSpaces_cons rfl _)
      | cons next members =>
          rw [printMembers_cons] at hfuel ⊢
          rw [List.length_cons, List.length_append] at hfuel
          rw [List.cons_append, List.append_assoc]
          refine readMembers_more (by omega) (hread _ (endsNumber_comma _))
            (skipSpaces_cons rfl _) ?_
          rw [skipSpaces_membersText (List.cons_ne_nil _ _)]
          exact ih (List.cons_ne_nil _ _) hlater fuel (by omega)

/-- An object without repeated keys is read back if its members are. -/
theorem readsBack_object {members : List (String × Json)}
    (hdistinct : (members.map Prod.fst).Nodup)
    (hmembers : ∀ member ∈ members, ReadsBack member.2) : ReadsBack (.object members) := by
  intro depth fuel rest hends hfuel
  cases members with
  | nil =>
      change 2 * 2 ≤ fuel + 1 at hfuel
      obtain ⟨fuel, rfl⟩ := Nat.exists_eq_succ_of_ne_zero (show fuel ≠ 0 by omega)
      rfl
  | cons member members =>
      rw [print_object_cons] at hfuel ⊢
      simp only [List.length_cons, List.length_append] at hfuel
      obtain ⟨fuel, rfl⟩ := Nat.exists_eq_succ_of_ne_zero (show fuel ≠ 0 by omega)
      have htext : newLine (depth + 1) ++ (membersText (depth + 1) (member :: members) ++
          (newLine depth ++ ['}'])) ++ rest = newLine (depth + 1) ++
            (membersText (depth + 1) (member :: members) ++ (newLine depth ++ '}' :: rest)) := by
        simp
      rw [List.cons_append, htext, ← ofMembers_of_nodup hdistinct]
      refine readValue_object ?_
      rw [skipSpaces_membersText (List.cons_ne_nil _ _)]
      exact readMembers_membersText (depth + 1) depth rest (List.cons_ne_nil _ _) hmembers fuel
        (by omega)

/-! ### All documents -/

theorem Faithful.readsBack {document : Json} (hfaithful : Faithful document) :
    ReadsBack document := by
  induction hfaithful with
  | null => exact readsBack_of_readPlain fun _ _ _ => rfl
  | bool value => cases value <;> exact readsBack_of_readPlain fun _ _ _ => rfl
  | int hshort => exact readsBack_of_readPlain fun _ _ hends => readPlain_printInt hshort hends
  | float value => exact readsBack_of_readPlain fun _ _ hends => readPlain_printFloat value hends
  | string value => exact readsBack_string value
  | array _ ih => exact readsBack_array ih
  | object hdistinct _ ih => exact readsBack_object hdistinct ih

/-- The text of a document is read as the document. -/
theorem read_toText {document : Json} (hfaithful : Faithful document) :
    read document.toText.toList = .ok document := by
  have hreads := hfaithful.readsBack
  have hstart := hreads.skipSpaces_append 0 []
  have hread := hreads 0 (2 * (document.print 0).length + 1) [] endsNumber_nil (by omega)
  rw [List.append_nil] at hstart hread
  unfold read toText
  rw [String.toList_ofList, hstart]
  exact bind_eq_ok_iff.mpr ⟨_, hread, rfl⟩

end TaskQuery.Json
