import EmailOwnership.Log
import EmailOwnership.Settings
import EmailOwnership.Store.Database.Transaction
import EmailOwnership.Text.Category
import EmailOwnership.Text.UpperCase

/-! Starting and stopping the service.

The log level is set first. Over a database the pool is opened and the migrations run
before the service does; if they fail, the pool is closed again. The pool is closed when
the service stops. -/
namespace EmailOwnership.Startup
open Store.Database (Trouble)

/-- Severities by name, as the root of the log understands them. -/
def severities : List (String × Nat) :=
  [("CRITICAL", 50), ("FATAL", 50), ("ERROR", 40), ("WARN", 30), ("WARNING", 30), ("INFO", 20),
    ("DEBUG", 10), ("NOTSET", 0)]

inductive Failure
  | unknownLevel (name : String)
  /-- The pool or a migration failed. -/
  | trouble (t : Trouble)
  deriving DecidableEq

def Failure.message : Failure → String
  | .unknownLevel name => "Unknown level: " ++ Text.quoted name
  | .trouble t => t.message

inductive Event
  | openPool (address : String) (minSize maxSize : Int)
  | migrate
  | run (backend : Backend) (severity : Nat)
  | closePool
  deriving DecidableEq

structure Report where
  outcome : Except Failure Unit
  events : List Event
  log : List Log.Entry

/-- The severity that a level names, in any case. -/
def severity (level : String) : Except Failure Nat :=
  let name := String.ofList (Text.upper level.toList)
  match severities.lookup name with
  | some n => .ok n
  | none => .error (.unknownLevel name)

/-- One life of the service, given what opening the pool and migrating raise. -/
def run (settings : Settings) (poolTrouble migrationTrouble : Option Trouble) : Report :=
  match severity settings.logLevel with
  | .error e => ⟨.error e, [], []⟩
  | .ok severity =>
    match settings.storageBackend with
    | .memory =>
      ⟨.ok (), [.run .memory severity], [.starting, .usingMemory, .started, .stopping]⟩
    | .postgres =>
      let opening : Event :=
        .openPool settings.databaseUrl settings.poolMinSize settings.poolMaxSize
      match poolTrouble with
      | some t => ⟨.error (.trouble t), [opening], [.starting, .connecting]⟩
      | none =>
        match migrationTrouble with
        | some t =>
          ⟨.error (.trouble t), [opening, .migrate, .closePool], [.starting, .connecting, .migrating]⟩
        | none =>
          ⟨.ok (), [opening, .migrate, .run .postgres severity, .closePool],
            [.starting, .connecting, .migrating, .started, .stopping, .poolClosed]⟩

end EmailOwnership.Startup
