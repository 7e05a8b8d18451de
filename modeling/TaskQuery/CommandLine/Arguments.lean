import TaskQuery.Text.Basic

/-!
# Arguments of the command line

The arguments are options, then the name of a command, then the search texts of the
command.  Options say which files the settings are in.  Behind the command every
argument that looks like an option has to be one; two dashes end the options, so
that a search text may start with a dash.
-/

namespace TaskQuery.CommandLine

/-- What stands in front of the command. -/
structure Options where
  config : Option String := none
  defaults : Option String := none
  help : Bool := false

/-- Why the arguments lead to no command. -/
inductive Halt where
  /-- The arguments are not in order. -/
  | usage
  /-- Help was asked for. -/
  | help
deriving DecidableEq

/-- Whether an argument looks like an option. -/
def isOption (argument : String) : Bool :=
  match argument.toList with
  | '-' :: _ :: _ => true
  | _ => false

/-- Reads the options in front of the command, and returns what follows them. -/
def readOptions (options : Options) : List String → Except Halt (Options × List String)
  | [] => .ok (options, [])
  | argument :: rest =>
    if argument = "--" then .ok (options, rest)
    else if isOption argument then
      let (name, rest?) := Text.cutAt '=' argument.toList
      let value := rest?.map String.ofList
      if name = "--help".toList then
        if value.isSome then .error .usage else readOptions { options with help := true } rest
      else if name = "--config".toList ∨ name = "--defaults".toList then
        let store (value : String) : Options :=
          if name = "--config".toList then { options with config := some value }
          else { options with defaults := some value }
        match value, rest with
        | some value, rest => readOptions (store value) rest
        | none, value :: rest => readOptions (store value) rest
        | none, [] => .error .usage
      else .error .usage
    else .ok (options, argument :: rest)

/-- Reads the search texts behind a command, and whether help is asked for. -/
def readTexts (help : Bool) (texts : List String) : List String → Except Halt (Bool × List String)
  | [] => .ok (help, texts)
  | argument :: rest =>
    if argument = "--" then .ok (help, texts ++ rest)
    else if isOption argument then
      if argument = "--help" then readTexts true texts rest else .error .usage
    else readTexts help (texts ++ [argument]) rest

/-- The search texts of a command; there has to be one at least. -/
def textsOf (arguments : List String) : Except Halt (List String) :=
  match readTexts false [] arguments with
  | .error halt => .error halt
  | .ok (true, _) => .error .help
  | .ok (false, []) => .error .usage
  | .ok (false, texts) => .ok texts

/-- The commands. -/
inductive Command where
  | search
  | explain
deriving DecidableEq

/-- The name of a command. -/
def Command.name : Command → String
  | .search => "search"
  | .explain => "explain"

/-- The command with a name. -/
def Command.ofName? (name : String) : Option Command :=
  [search, explain].find? (·.name == name)

/-- The command behind the options, and its arguments.  In place of a command a
forgotten option may ask for help. -/
def commandOf : List String → Except Halt (Command × List String)
  | [] => .error .usage
  | name :: rest =>
    match Command.ofName? name with
    | some command => .ok (command, rest)
    | none =>
      match readOptions {} (name :: rest) with
      | .ok ({ help := true, .. }, _) => .error .help
      | _ => .error .usage

end TaskQuery.CommandLine
