/-!
# Log lines

Everything that a run tells its user is a log line with a level.  A step that may fail and
may log is a `Logged` one: what it has logged stays logged if it fails later.
-/

namespace TaskQuery

/-- How important a log line is. -/
inductive LogLevel where
  | info
  | warning
  | error
deriving DecidableEq

/-- The four letters that a level is printed as. -/
def LogLevel.tag : LogLevel → String
  | .info => "INFO"
  | .warning => "WARN"
  | .error => "ERRO"

/-- The place of a level in the order of importance. -/
def LogLevel.rank : LogLevel → Nat
  | .info => 20
  | .warning => 30
  | .error => 40

/-- A message to the user. -/
structure LogLine where
  level : LogLevel
  message : String
deriving DecidableEq

/-- A log line of the level for ordinary messages. -/
def LogLine.info (message : String) : LogLine where
  level := .info
  message := message

/-- A step that adds log lines and ends with a value or a fault. -/
abbrev Logged (fault : Type) := ExceptT fault (StateM (List LogLine))

namespace Logged

variable {fault : Type} {α : Type}

/-- Logs a line. -/
def say (line : LogLine) : Logged fault Unit :=
  modify fun lines => lines ++ [line]

/-- How a step ends, and what it logs. -/
def result (step : Logged fault α) : Except fault α × List LogLine :=
  StateT.run (ExceptT.run step) []

/-- How a step ends. -/
def outcome (step : Logged fault α) : Except fault α :=
  step.result.1

/-- What a step logs. -/
def log (step : Logged fault α) : List LogLine :=
  step.result.2

end Logged

end TaskQuery
