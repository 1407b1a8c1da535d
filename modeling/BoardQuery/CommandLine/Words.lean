import BoardQuery.CommandLine.Usage
import BoardQuery.Number.Reading
import BoardQuery.Text.Similarity

/-!
# Words of a command line

The words after the name of the program are sorted into options and arguments, and make a call of a
command. An option may have its argument after an equals sign or as the next word; of an option that
is stated twice, the last one counts.
-/

namespace BoardQuery

/-- The words of a command line, sorted. -/
structure Words where
  /-- The options with their arguments, in order. -/
  options : List (String × String)
  help : Bool
  arguments : List String

namespace Words

/-- The last argument stated for an option. -/
def last? (w : Words) (option : String) : Option String :=
  w.options.reverse.lookup option

def helpOption : String := "--help"

/-- Splits a word at its first equals sign. -/
def splitEquals (word : String) : String × Option String :=
  let cs := word.toList
  let name := String.ofList (cs.takeWhile (· != '='))
  match cs.dropWhile (· != '=') with
  | _ :: value => (name, some (String.ofList value))
  | [] => (name, none)

/-- The problem of an option that is not known. After a single dash only one letter is looked at. -/
def unknown (known : List String) (word : String) : UsageProblem :=
  match word.toList with
  | '-' :: '-' :: _ =>
    let name := (splitEquals word).1
    .unknownOption name
      (((helpOption :: known).filter fun o => Text.similar o name).mergeSort fun a b => !(b < a))
  | cs => .unknownOption (String.ofList (cs.take 2)) []

/-- Whether a word states an option. -/
def statesOption (word : String) : Bool :=
  match word.toList with
  | '-' :: _ :: _ => true
  | _ => false

/-- Sorts words, given the options that take an argument. Two dashes end the options. Without
`mixed`, the first argument ends them too. -/
def sort (known : List String) (mixed : Bool) : List String → Except UsageProblem Words
  | [] => .ok ⟨[], false, []⟩
  | "--" :: rest => .ok ⟨[], false, rest⟩
  | word :: rest =>
    if statesOption word then
      let (name, value) := splitEquals word
      if known.contains name then
        match value, rest with
        | some value, rest =>
          (sort known mixed rest).map fun w => { w with options := (name, value) :: w.options }
        | none, value :: rest =>
          (sort known mixed rest).map fun w => { w with options := (name, value) :: w.options }
        | none, [] => .error (.argumentMissing name)
      else if name == helpOption then
        if value.isSome then .error (.argumentGiven name)
        else (sort known mixed rest).map fun w => { w with help := true }
      else .error (unknown known word)
    else if mixed then
      (sort known mixed rest).map fun w => { w with arguments := word :: w.arguments }
    else .ok ⟨[], false, word :: rest⟩

end Words

/-- What a command line asks for. -/
inductive Call where
  | help (c : Option Command)
  | columnTypes
  | seedDemo (email : String) (tasks : Int)

namespace Call

/-- The number that an option states. -/
def number (w : Words) (option : String) (usual : Int) : Except UsageProblem Int :=
  match w.last? option with
  | none => .ok usual
  | some s =>
    match readInteger s with
    | .ok n => .ok n
    | .error _ => .error (.notInteger option s)

/-- The call of a command. Help is given whatever else is stated. -/
def ofCommand (c : Command) (words : List String) : Except UsageProblem Call := do
  let w ← Words.sort c.options true words
  if w.help then return .help (some c)
  let call ← match c with
    | .columnTypes => pure .columnTypes
    | .seedDemo => do
      pure (.seedDemo ((w.last? "--email").getD "demo@taskboard.local") (← number w "--tasks" 12))
  if w.arguments.isEmpty then return call else throw (.extraArguments w.arguments)

/-- The call that words make, or a problem with the words of the program or of a command. -/
def ofWords (words : List String) : Except (Option Command × UsageProblem) Call := do
  let w ← (Words.sort [] false words).mapError (none, ·)
  if w.help then return .help none
  match w.arguments with
  | [] => throw (none, .commandMissing)
  | name :: rest =>
    match Command.ofName? name with
    | some c => (ofCommand c rest).mapError (some c, ·)
    | none =>
      throw (none, if Words.statesOption name then Words.unknown [] name else .unknownCommand name)

end Call

end BoardQuery
