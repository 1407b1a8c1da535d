import BoardQuery.Json.Display

/-!
# Commands and their usage

The commands that can be run, the options they take, and what is told about them: help texts, and
messages for words that make no command.
-/

namespace BoardQuery

/-- A command of the program. -/
inductive Command where
  | columnTypes
  | seedDemo
  deriving DecidableEq

namespace Command

def every : List Command := [.columnTypes, .seedDemo]

def name : Command → String
  | .columnTypes => "column-types"
  | .seedDemo => "seed-demo"

def ofName? (s : String) : Option Command :=
  every.find? (·.name == s)

/-- The options that take an argument. -/
def options : Command → List String
  | .columnTypes => []
  | .seedDemo => ["--email", "--tasks"]

end Command

def programName : String := "taskboard"

/-- The line that shows how the program, or a command of it, is called. -/
def usageLine : Option Command → String
  | none => "Usage: " ++ programName ++ " [OPTIONS] COMMAND [ARGS]..."
  | some c => "Usage: " ++ programName ++ " " ++ c.name ++ " [OPTIONS]"

/-- What help tells about the program or a command. -/
def helpLines : Option Command → List String
  | none => [usageLine none, "",
      "Options:",
      "  --help  Show this message and exit.", "",
      "Commands:",
      "  column-types  Print the column type registry: type, family, sortable,...",
      "  seed-demo     Create a demo user + workspace + board with typed columns..."]
  | some .columnTypes => [usageLine (some .columnTypes), "",
      "  Print the column type registry: type, family, sortable, operators.", "",
      "Options:",
      "  --help  Show this message and exit."]
  | some .seedDemo => [usageLine (some .seedDemo), "",
      "  Create a demo user + workspace + board with typed columns and tasks.", "",
      "  Usage:     flask seed-demo     flask seed-demo --email me@example.com",
      "  --tasks 40", "",
      "Options:",
      "  --email TEXT     Demo user email",
      "  --tasks INTEGER  Sample tasks to create",
      "  --help           Show this message and exit."]

/-- Why words make no command. -/
inductive UsageProblem where
  | commandMissing
  | unknownCommand (name : String)
  /-- With the options that may have been meant. -/
  | unknownOption (name : String) (meant : List String)
  | argumentMissing (option : String)
  | argumentGiven (option : String)
  | notInteger (option argument : String)
  | extraArguments (words : List String)

def UsageProblem.message : UsageProblem → String
  | .commandMissing => "Missing command."
  | .unknownCommand name => "No such command " ++ (Json.str name).quoted ++ "."
  | .unknownOption name [] => "No such option: " ++ name
  | .unknownOption name [other] => "No such option: " ++ name ++ " Did you mean " ++ other ++ "?"
  | .unknownOption name meant =>
    "No such option: " ++ name ++ " (Possible options: " ++ joinWith ", " meant ++ ")"
  | .argumentMissing option => "Option '" ++ option ++ "' requires an argument."
  | .argumentGiven option => "Option '" ++ option ++ "' does not take a value."
  | .notInteger option argument =>
    "Invalid value for '" ++ option ++ "': " ++ (Json.str argument).quoted ++
      " is not a valid integer."
  | .extraArguments [word] => "Got unexpected extra argument (" ++ word ++ ")"
  | .extraArguments words => "Got unexpected extra arguments (" ++ joinWith " " words ++ ")"

/-- What is told about a problem with the words of the program or of a command. -/
def problemLines (c : Option Command) (p : UsageProblem) : List String :=
  let path := match c with
    | none => programName
    | some c => programName ++ " " ++ c.name
  [usageLine c, "Try '" ++ path ++ " --help' for help.", "", "Error: " ++ p.message]

end BoardQuery
