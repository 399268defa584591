import EmailOwnership.Failure

/-! What the service writes to its log: one constructor per event. -/
namespace EmailOwnership.Log

inductive Level
  | debug
  | info
  | warning
  | error
  deriving DecidableEq

def Level.name : Level → String
  | .debug => "DEBUG"
  | .info => "INFO"
  | .warning => "WARNING"
  | .error => "ERROR"

/-- The part of the service that speaks. -/
inductive Channel
  | registry
  | authentication
  | delivery
  | storage
  | application
  deriving DecidableEq

inductive Entry
  -- claims and removals
  | creationLost (address : String) (account : Uuid)
  | added (address : String) (account : Uuid)
  | unownedLost (address : String)
  | unownedClaimed (address : String) (account : Uuid)
  | codeReissued (address : String)
  | changedWhileReissuing (address : String)
  | provisioned (address : String)
  | verified (address : String) (account : Uuid)
  | nothingRemoved (email account : Uuid)
  | removed (email account : Uuid)
  | storageFailed (operation : String)
  -- credentials and delivery
  | authenticationFailed (handle : String)
  | codeDelivered (address code : String)
  -- migrations
  | migrationsMissing (directory : String)
  | noMigrations
  | runningMigrations (count : Nat)
  | executingMigration (name : String)
  | migrationComplete (name : String)
  | migrationFailed (name reason : String)
  -- the application
  | starting
  | usingMemory
  | connecting
  | migrating
  | started
  | stopping
  | poolClosed
  | requestFailed (method path : String) (error : RegistryError)
  | requestRejected (method path : String) (error : RegistryError)
  deriving DecidableEq

namespace Entry

def channel : Entry → Channel
  | authenticationFailed .. => .authentication
  | codeDelivered .. => .delivery
  | migrationsMissing .. | noMigrations | runningMigrations .. | executingMigration ..
  | migrationComplete .. | migrationFailed .. => .storage
  | starting | usingMemory | connecting | migrating | started | stopping | poolClosed
  | requestFailed .. | requestRejected .. => .application
  | _ => .registry

def level : Entry → Level
  | nothingRemoved .. => .debug
  | creationLost .. | unownedLost .. | changedWhileReissuing .. | migrationsMissing .. => .warning
  | storageFailed .. | migrationFailed .. | requestFailed .. => .error
  | _ => .info

/-- The line, as far as the error that it ends with. -/
def opening : Entry → String
  | creationLost address account =>
    "Concurrent claim for " ++ address ++ " lost by account " ++ account.text
  | added address account => "Email " ++ address ++ " added to account " ++ account.text
  | unownedLost address => "Unowned email " ++ address ++ " claimed concurrently"
  | unownedClaimed address account =>
    "Provisioned email " ++ address ++ " claimed by account " ++ account.text
  | codeReissued address => "Verification code re-issued for " ++ address
  | changedWhileReissuing address =>
    "Email " ++ address ++ " removed or reclaimed while re-issuing code"
  | provisioned address => "Email " ++ address ++ " provisioned"
  | verified address account => "Email " ++ address ++ " verified for account " ++ account.text
  | nothingRemoved email account =>
    "Remove of email " ++ email.text ++ " by account " ++ account.text ++ " matched nothing"
  | removed email account => "Email " ++ email.text ++ " removed from account " ++ account.text
  | storageFailed operation => "Storage failure during " ++ operation
  | authenticationFailed handle => "Authentication failed for handle " ++ handle
  | codeDelivered address code => "[VERIFICATION] Email: " ++ address ++ " Code: " ++ code
  | migrationsMissing directory => "Migrations directory not found: " ++ directory
  | noMigrations => "No migration files found"
  | runningMigrations count => "Running " ++ toString count ++ " migration(s)"
  | executingMigration name => "Executing migration: " ++ name
  | migrationComplete name => "Migration complete: " ++ name
  | migrationFailed name reason => "Migration failed: " ++ name ++ " - " ++ reason
  | starting => "Starting application..."
  | usingMemory => "Using in-memory store"
  | connecting => "Connecting to database..."
  | migrating => "Running database migrations..."
  | started => "Application startup complete"
  | stopping => "Shutting down application..."
  | poolClosed => "Database connection pool closed"
  | requestFailed method path _ => "Registry failure on " ++ method ++ " " ++ path ++ ": "
  | requestRejected method path _ => "Registry rejected " ++ method ++ " " ++ path ++ ": "

def error? : Entry → Option RegistryError
  | requestFailed _ _ error | requestRejected _ _ error => some error
  | _ => none

/-- The line. If it should end with an error that has no text, it is not written. -/
def message? (entry : Entry) : Option String :=
  match entry.error? with
  | none => some entry.opening
  | some error => error.text?.map (entry.opening ++ ·)

/-- The address and the code that a log line hands out. -/
def delivery? : Entry → Option (String × String)
  | codeDelivered address code => some (address, code)
  | _ => none

end Entry
end EmailOwnership.Log
