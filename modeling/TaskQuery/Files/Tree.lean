import TaskQuery.Files.Host
import TaskQuery.Text.Basic

/-!
# A tree of files in memory

A place in the tree is a path without dots to be followed: from the folder in which
a run takes place, from one of the folders around it, or from the topmost folder.
The folders around are always there, and hold nothing but what a run puts into them.
-/

namespace TaskQuery.Files

/-- Files by their places, and folders that were made without a file in them. -/
structure FileTree where
  files : List (Path × String) := []
  folders : List Path := []

namespace FileTree

/-- The text of a file. -/
def file? (tree : FileTree) (place : Path) : Option String :=
  tree.files.lookup place

/-- Whether a file is somewhere in a folder. -/
def holds (folder file : Path) : Bool :=
  folder.root == file.root && folder.parts.isPrefixOf file.parts
    && (file.parts.drop folder.parts.length).head?.any (· != "..")

/-- Whether a folder is in the tree. -/
def hasFolder (tree : FileTree) (place : Path) : Bool :=
  place.isAround || tree.folders.contains place || tree.files.any fun (file, _) => holds place file

/-- The greatest size of a name in bytes. -/
def longestName : Nat :=
  255

/-- The greatest size of a path in bytes. -/
def longestPath : Nat :=
  4095

/-- Follows the parts of a path from a place; every place on the way has to be a
folder. -/
def walk (tree : FileTree) (current : Path) : List String → Except FileProblem Path
  | [] => .ok current
  | part :: parts =>
    if (tree.file? current).isSome then .error .notFolder
    else if !tree.hasFolder current then .error .missing
    else if longestName < part.utf8ByteSize then .error .tooLong
    else walk tree (current.enter part) parts

/-- The place that a path leads to. -/
def locate (tree : FileTree) (path : Path) : Except FileProblem Path :=
  if longestPath < path.toText.utf8ByteSize then .error .tooLong
  else tree.walk path.start path.parts

/-- The text of the file that a path leads to. -/
def read (tree : FileTree) (path : Path) : Except FileProblem String := do
  let place ← tree.locate path
  match tree.file? place with
  | some text => pure text
  | none => throw (if tree.hasFolder place then .isFolder else .missing)

/-- Whether a path leads to a folder. -/
def isFolder (tree : FileTree) (path : Path) : Bool :=
  match tree.locate path with
  | .ok place => tree.hasFolder place
  | .error _ => false

/-- Makes the folders along the parts of a path. -/
def makeAlong (tree : FileTree) (current : Path) : List String → Except FileProblem FileTree
  | [] => .ok tree
  | part :: parts =>
    let next := current.enter part
    if longestName < part.utf8ByteSize then .error .tooLong
    else if (tree.file? next).isSome then .error (if parts.isEmpty then .taken else .notFolder)
    else if tree.hasFolder next then makeAlong tree next parts
    else makeAlong { tree with folders := next :: tree.folders } next parts

/-- The tree with a folder and the folders that hold it. -/
def makeFolder (tree : FileTree) (path : Path) : Except FileProblem FileTree :=
  if longestPath < path.toText.utf8ByteSize then .error .tooLong
  else tree.makeAlong path.start path.parts

/-- The tree with a file in one of its folders. -/
def write (tree : FileTree) (path : Path) (text : String) : Except FileProblem FileTree := do
  let place ← tree.locate path
  if tree.hasFolder place then throw .isFolder
  else pure { tree with files := (place, text) :: tree.files.filter (·.1 != place) }

/-- A tree as a host, with the words it finds for what goes wrong. -/
def host (words : FileProblem → String) (environment : String → Option String) :
    Host (StateM FileTree) := Host.refusingNull {
    readText path := do
      match (← get).read path with
      | .ok text => pure (.ok (Text.unifyLineEnds text.toList))
      | .error problem => pure (.error ⟨problem, words problem⟩)
    isFolder path := do pure ((← get).isFolder path)
    makeFolder path := do
      match (← get).makeFolder path with
      | .ok tree =>
        set tree
        pure (.ok ())
      | .error problem => pure (.error ⟨problem, words problem⟩)
    writeText path text := do
      match (← get).write path text with
      | .ok tree =>
        set tree
        pure (.ok ())
      | .error problem => pure (.error ⟨problem, words problem⟩)
    lookUp name := pure (environment name) }

end FileTree

end TaskQuery.Files
