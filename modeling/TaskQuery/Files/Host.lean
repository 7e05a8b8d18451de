import TaskQuery.Text.Case

/-!
# Paths and the surroundings of a run

A run reads and writes files, which it names by paths, and looks up environment
variables.
-/

namespace TaskQuery.Files

open Text

/-!
## Paths of files

A path is a root, which is empty for a relative path, and the parts between its
slashes.  Empty parts and single dots say nothing and are left out; two dots stay,
because they may lead through a link.
-/

/-- A path. -/
structure Path where
  root : String
  parts : List String
deriving DecidableEq

namespace Path

/-- The pieces of a text between slashes. -/
def splitSlashes : List Char → List (List Char)
  | [] => [[]]
  | c :: rest =>
    if c = '/' then [] :: splitSlashes rest
    else
      match splitSlashes rest with
      | [] => [[c]]
      | piece :: pieces => (c :: piece) :: pieces

/-- The root of a path: two slashes in front are a root of their own, and any
other number of slashes is one. -/
def rootOf (text : List Char) : String :=
  match (text.takeWhile (· == '/')).length with
  | 0 => ""
  | 2 => "//"
  | _ => "/"

/-- The path that a text writes. -/
def ofText (text : String) : Path where
  root := rootOf text.toList
  parts := ((splitSlashes text.toList).map String.ofList).filter fun part =>
    part != "" && part != "."

/-- A path as text; the empty path is a dot. -/
def toText (path : Path) : String :=
  let text := path.root ++ "/".intercalate path.parts
  if text.isEmpty then "." else text

/-- The path of something in the folder that a path names. -/
def child (path : Path) (name : String) : Path :=
  { path with parts := path.parts ++ (ofText name).parts }

/-- The last part of a path. -/
def name (path : Path) : String :=
  path.parts.getLast?.getD ""

/-- Whether a path has a null character, which the name of a file cannot have. -/
def hasNull (path : Path) : Bool :=
  path.parts.any (·.contains '\x00')

/-- The place that one more part leads to from a folder.  Two dots lead to the folder
that holds it, and above the folder in which a relative path starts they stay. -/
def enter (path : Path) (part : String) : Path :=
  if part != ".." then { path with parts := path.parts ++ [part] }
  else if path.root.isEmpty && path.parts.all (· == "..") then
    { path with parts := path.parts ++ [part] }
  else { path with parts := path.parts.dropLast }

/-- The folder from which the parts of a path lead on: the one in which a run takes
place, or the topmost one of all. -/
def start (path : Path) : Path where
  root := if path.root.isEmpty then "" else "/"
  parts := []

/-- Whether a place is the folder in which a run takes place, or one of those around
it. -/
def isAround (place : Path) : Bool :=
  place.parts.all (· == "..")

/-- The ending of a file name: its last dot and what follows, where the dot is
neither the first nor the last character. -/
def suffix (path : Path) : List Char :=
  let reversed := path.name.toList.reverse
  let ending := reversed.takeWhile (· != '.')
  let start := (reversed.dropWhile (· != '.')).drop 1
  if ending.isEmpty || start.isEmpty || !reversed.contains '.' then []
  else '.' :: ending.reverse

/-- Whether the name of a file says that it is YAML. -/
def isYaml (path : Path) : Bool :=
  let ending := lower path.suffix
  ending == ".yml".toList || ending == ".yaml".toList

end Path

/-!
## The surroundings of a run

A run reads and writes files and looks up environment variables.  It does so through
a host, which may be the real machine or a tree of files in memory.
-/

/-- Why a file or folder cannot be used. -/
inductive FileProblem where
  | missing
  /-- A folder stands where a file is wanted. -/
  | isFolder
  /-- A file stands on the way where a folder is wanted. -/
  | notFolder
  /-- A file stands where a folder is to be made. -/
  | taken
  /-- A name or the whole path is too long. -/
  | tooLong
  /-- The path has a null character. -/
  | unnameable
  | other
deriving DecidableEq

/-- A file operation that failed, and the host's own words about it. -/
structure FileFault where
  problem : FileProblem
  words : String
deriving DecidableEq

/-- What a run can ask of its surroundings. -/
structure Host (m : Type → Type) where
  /-- The text of a file, every line end as a line feed. -/
  readText : Path → m (Except FileFault (List Char))
  isFolder : Path → m Bool
  /-- Makes a folder and the folders that hold it, unless they are there. -/
  makeFolder : Path → m (Except FileFault Unit)
  writeText : Path → String → m (Except FileFault Unit)
  /-- The value of an environment variable. -/
  lookUp : String → m (Option String)

/-- The fault of a path with a null character. -/
def nullFault : FileFault where
  problem := .unnameable
  words := "embedded null byte"

/-- The host, except that it refuses paths with a null character. -/
def Host.refusingNull {m : Type → Type} [Monad m] (host : Host m) : Host m where
  readText path := if path.hasNull then pure (.error nullFault) else host.readText path
  isFolder path := if path.hasNull then pure false else host.isFolder path
  makeFolder path := if path.hasNull then pure (.error nullFault) else host.makeFolder path
  writeText path text :=
    if path.hasNull then pure (.error nullFault) else host.writeText path text
  lookUp := host.lookUp

end TaskQuery.Files
