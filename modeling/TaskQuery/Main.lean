import Std.Time
import TaskQuery.Calendar.DateTime
import TaskQuery.CommandLine.Run

/-!
# The program

The real machine as the host of a run: its files, its environment variables and its
clock, which is read as universal time.
-/

namespace TaskQuery.Main

open Files CommandLine

/-! ## Files -/

/-- A failed operation of the machine as a fault. -/
def faultOf (error : IO.Error) : FileFault :=
  let problem :=
    match error with
    | .noFileOrDirectory .. => FileProblem.missing
    | .inappropriateType .. => FileProblem.isFolder
    | .alreadyExists .. => FileProblem.taken
    | _ => FileProblem.other
  ⟨problem, toString error⟩

/-- The result of an operation of the machine. -/
def attempt {α : Type} (operation : IO α) : IO (Except FileFault α) :=
  try
    let value ← operation
    pure (.ok value)
  catch error => pure (.error (faultOf error))

/-- Whether a path leads to a folder. -/
def isFolder (path : String) : IO Bool :=
  try
    let real ← IO.FS.realPath path
    real.isDir
  catch _ => pure false

/-- The machine as a host. -/
def machine : Host IO := Host.refusingNull {
    readText := fun path => attempt do
      let text ← IO.FS.readFile path.toText
      pure (Text.unifyLineEnds text.toList)
    isFolder := fun path => isFolder path.toText
    makeFolder := fun path => attempt (IO.FS.createDirAll path.toText)
    writeText := fun path text => attempt (IO.FS.writeFile path.toText text)
    lookUp := fun name => if name.isEmpty then pure none else IO.getEnv name }

/-! ## Clock -/

/-- The moment that the clock shows. -/
def currentMoment : IO DateTime := do
  let stamp ← Std.Time.Timestamp.now
  let shown := Std.Time.PlainDateTime.ofWallTime (stamp.toWallTime Std.Time.TimeZone.Offset.zero)
  let year : Int := shown.year
  let month : Int := shown.month.val
  let day : Int := shown.day.val
  let hour : Int := shown.hour.val
  let minute : Int := shown.minute.val
  let second : Int := shown.second.val
  let nanosecond : Int := shown.nanosecond.val
  let date := Date.of? year.toNat month.toNat day.toNat
  let time := TimeOfDay.of? hour.toNat minute.toNat second.toNat (nanosecond.toNat / 1000)
  match date, time with
  | some date, some time => pure { date, time, zone := some { offset := .zero } }
  | _, _ => throw (IO.userError "the clock shows no calendar day")

/-- The moment of a run with the stamps that are written of it. -/
def momentOf (now : DateTime) : Moment :=
  let two (n : Nat) : String := String.ofList (paddedNumber 2 n)
  let year := String.ofList (paddedNumber 4 now.date.year)
  let month := two now.date.month
  let day := two now.date.day
  let hour := two now.time.hour
  let minute := two now.time.minute
  let second := two now.time.second
  { now
    recordStamp := year ++ month ++ day ++ "_" ++ hour ++ minute ++ second
    logStamp := month ++ day ++ hour ++ minute ++ second
    linePrefix := month ++ "-" ++ day ++ " " ++ hour ++ ":" ++ minute ++ ":" ++ second ++ " " }

/-! ## Output -/

/-- How the program is called. -/
def usageText : String :=
  "Usage: taskquery [--config FILE] [--defaults FILE] (search | explain) QUERY...\n"

/-- Shows how a run has ended. -/
def report (outcome : Outcome) : IO Unit :=
  match outcome.ending with
  | .halted .usage => IO.eprint usageText
  | .halted .help => IO.print usageText
  | .misconfigured fault => IO.eprintln fault.message
  | .unlogged fault => IO.eprintln fault.words
  | .done _ => IO.eprint outcome.shown

end TaskQuery.Main

/-- Runs the program and returns its exit code. -/
def main (arguments : List String) : IO UInt32 := do
  let now ← TaskQuery.Main.currentMoment
  let outcome ← TaskQuery.CommandLine.run TaskQuery.CommandLine.builtIn TaskQuery.Main.machine
    (TaskQuery.Main.momentOf now) arguments
  TaskQuery.Main.report outcome
  pure outcome.ending.exitCode.toUInt32
