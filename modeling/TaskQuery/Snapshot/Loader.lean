import TaskQuery.Files.Host
import TaskQuery.Json.Reader
import TaskQuery.Snapshot.Reader

/-!
# Loading a snapshot from a file

The name of a file says whether it is YAML; every other file is JSON.  A YAML file
whose value is void, such as an empty one, holds an empty snapshot.
-/

namespace TaskQuery

open Files

/-- Why a file holds no snapshot. -/
inductive SnapshotLoadFault where
  | file (fault : FileFault)
  | json (fault : JsonFault)
  | yaml (fault : YamlFault)
  | content (fault : SnapshotFault)
deriving DecidableEq

/-- What is wrong, in words. -/
def SnapshotLoadFault.message : SnapshotLoadFault → String
  | .file fault => fault.words
  | .json fault => fault.message
  | .yaml fault => fault.message
  | .content fault => fault.message

/-- The value, or an empty mapping in place of a void one. -/
def Value.orEmpty (value : Value) : Value :=
  if value.isVoid then .mapping [] else value

/-- How a run reads YAML texts and the moments in files. -/
structure Readers where
  yaml : YamlReader
  moment : MomentReader

/-- Decodes the text of a file. -/
def decodeText (readYaml : YamlReader) (isYaml : Bool) (text : List Char) :
    Except SnapshotLoadFault Value :=
  if isYaml then
    match readYaml text with
    | .ok value => .ok value.orEmpty
    | .error fault => .error (.yaml fault)
  else
    match Json.read text with
    | .ok document => .ok (Value.ofJson document)
    | .error fault => .error (.json fault)

/-- The snapshot that the text of a file holds. -/
def Snapshot.ofText (readers : Readers) (isYaml : Bool) (text : List Char) :
    Logged SnapshotLoadFault Snapshot := do
  let value ← decodeText readers.yaml isYaml text
  (Snapshot.read readers.moment value).adapt SnapshotLoadFault.content

/-- The snapshot that a file holds, and what is logged about it. -/
def Snapshot.load {m : Type → Type} [Monad m] (readers : Readers) (host : Host m) (path : Path) :
    m (Except SnapshotLoadFault Snapshot × List LogLine) := do
  match ← host.readText path with
  | .ok text => pure (Snapshot.ofText readers path.isYaml text).result
  | .error fault => pure (.error (.file fault), [])

end TaskQuery
