import BoardQuery.Column.Catalogue
import BoardQuery.CommandLine.Words
import BoardQuery.Service.Demo

/-!
# Running commands

What a command line prints, with which exit code it ends, and what it leaves in the store. A command
that fails leaves the store as it was.
-/

namespace BoardQuery

/-- A text filled up with blanks to a width. -/
def padRight (width : Nat) (s : String) : String :=
  s ++ String.ofList (List.replicate (width - s.length) ' ')

/-- The line of a column type: its name, its family, whether tasks can be sorted by it, and its
operators. -/
def columnTypeLine (t : ColumnType) : String :=
  padRight 12 t.name ++ " " ++ padRight 11 t.family.name ++ " " ++
    padRight 9 (if t.sortable then "sortable" else "-") ++ " " ++
    joinWith ", " (t.operators.map (·.name))

/-- What has been written to try things on. -/
structure DemoReport where
  email : String
  token : String
  workspaceId : String
  boardName : String
  boardId : String
  tasks : Int

def DemoReport.lines (r : DemoReport) : List String :=
  let rule := String.ofList (List.replicate 60 '=')
  ["", rule, "Demo data created successfully!", rule,
    "  User:      " ++ r.email,
    "  API token: " ++ r.token,
    "  Workspace: Demo Workspace (id: " ++ r.workspaceId ++ ")",
    "  Board:     " ++ r.boardName ++ " (id: " ++ r.boardId ++ ")",
    "  Tasks:     " ++ String.ofList (intText r.tasks),
    rule]

/-- What the run of a command prints. -/
inductive Printed where
  | lines (list : List String)
  /-- A first line, and what has been written unless the command fails. -/
  | demo (first : String) (report : Option DemoReport)

def Printed.toLines : Printed → List String
  | .lines list => list
  | .demo first report => first :: (report.map (·.lines)).getD []

/-- The run of a command: what it prints, and its exit code. -/
structure Run where
  printed : Printed
  exitCode : Nat

/-- Writes a demonstration for the user with an address. -/
def runDemo (now : Moment) (s : Store) (email : String) (tasks : Int) : Run × Store :=
  let known := s.users.any (·.email == email)
  let first := (if known then "Demo user already exists: " else "Created demo user: ") ++ email
  let (user, written) := demoUser s email
  match addDemo now written user tasks with
  | .ok (board, written) =>
    (⟨.demo first (some ⟨email, user.token, board.workspaceId, board.name, board.id, tasks⟩), 0⟩,
      written)
  | .error _ => (⟨.demo first none, 1⟩, s)

/-- Runs a command line. Without any words the help is shown, as for a mistake. -/
def runWords (now : Moment) (s : Store) (words : List String) : Run × Store :=
  if words.isEmpty then (⟨.lines (helpLines none), 2⟩, s)
  else
    match Call.ofWords words with
    | .error (c, p) => (⟨.lines (problemLines c p), 2⟩, s)
    | .ok (.help c) => (⟨.lines (helpLines c), 0⟩, s)
    | .ok .columnTypes => (⟨.lines (ColumnType.every.map columnTypeLine), 0⟩, s)
    | .ok (.seedDemo email tasks) => runDemo now s email tasks

end BoardQuery
