import EmailOwnership.Log
import EmailOwnership.Store.Database.Transaction
import EmailOwnership.Table
import EmailOwnership.Text.Pieces

/-! Bringing the database up to date.

The migrations are the files of a directory whose names end in `.sql`, in the order of
their names. Each is read as text and sent whole, in a transaction on a connection of its
own; the first that fails, at whatever stage, ends the run. -/
namespace EmailOwnership.Store.Database.Migrations

/-! ### Files -/

structure File where
  name : String
  content : String
  deriving DecidableEq

/-- The contents of the files, under their names. -/
abbrev Directory := Table String String

def Directory.files (d : Directory) : List File := d.rows.map fun r => ⟨r.1, r.2⟩

/-- The text that is sent, with line feeds as line ends. -/
def File.text (f : File) : String := String.ofList (Text.unifyLineEnds f.content.toList)

/-- The ending of a migration's name. -/
def ending : String := ".sql"

def isMigration (f : File) : Bool := ending.toList.isSuffixOf f.name.toList

/-- The migrations among the files, by name. -/
def select (d : Directory) : List File :=
  (d.files.filter isMigration).mergeSort (fun a b => decide (a.name ≤ b.name))

/-! ### Runs -/

/-- Where the work on a file may fail. -/
inductive Stage
  /-- The file is gone, or its content is no text. -/
  | reading
  | connecting
  | executing
  | committing
  deriving DecidableEq

/-- What is raised at a file, and where. -/
structure Setback where
  stage : Stage
  trouble : Trouble

inductive Event
  | connection
  | execute (text : String)
  | commit
  | rollback
  deriving DecidableEq

def Event.text? : Event → Option String
  | .execute text => some text
  | _ => none

/-- What is asked of the database for a file, up to the stage that fails if one does. -/
def File.work (f : File) : Option Stage → List Event
  | some .reading => []
  | some .connecting => [.connection]
  | some .executing => [.connection, .execute f.text, .rollback]
  | some .committing => [.connection, .execute f.text]
  | none => [.connection, .execute f.text, .commit]

inductive Failure
  /-- An error of the database, at this file. -/
  | refused (name : String) (cause : Trouble)
  /-- What is no error of the database passes as it is. -/
  | foreign (name message : String)
  deriving DecidableEq

def Failure.message : Failure → String
  | .refused name _ => "Database migration failed: " ++ name
  | .foreign _ message => message

/-- What a run did: its end, what it asked of the database and the log, oldest first. -/
structure Report where
  outcome : Except Failure Unit
  events : List Event
  log : List Log.Entry

/-- The texts that were sent. -/
def Report.sent (r : Report) : List String := r.events.filterMap Event.text?

/-- A run whose first file was `f`, which came through. -/
def Report.after (r : Report) (f : File) : Report :=
  ⟨r.outcome, f.work none ++ r.events,
    .executingMigration f.name :: .migrationComplete f.name :: r.log⟩

/-- A run that ended at its first file. -/
def File.stopped (f : File) (s : Setback) : Report :=
  let events := f.work (some s.stage)
  let opening : Log.Entry := .executingMigration f.name
  match s.trouble with
  | .foreign name message => ⟨.error (.foreign name message), events, [opening]⟩
  | t => ⟨.error (.refused f.name t), events, [opening, .migrationFailed f.name t.message]⟩

/-- Works through the files in turn; `attempt` says what is raised at the `n`-th of the run. -/
def send (attempt : Nat → Option Setback) : (n : Nat) → List File → Report
  | _, [] => ⟨.ok (), [], []⟩
  | n, f :: rest =>
    match attempt n with
    | some s => f.stopped s
    | none => (send attempt (n + 1) rest).after f

/-- Runs the migrations of a directory, `none` if it does not exist. -/
def run (location : String) (attempt : Nat → Option Setback) (directory : Option Directory) : Report :=
  match directory with
  | none => ⟨.ok (), [], [.migrationsMissing location]⟩
  | some d =>
    match select d with
    | [] => ⟨.ok (), [], [.noMigrations]⟩
    | first :: rest =>
      let report := send attempt 0 (first :: rest)
      {report with log := .runningMigrations (rest.length + 1) :: report.log}

end EmailOwnership.Store.Database.Migrations
