import EmailOwnership.Rehearsal.World

/-! One thing to do in a rehearsal, and its answer.

An action seeds the store, moves the clock, or runs an operation of the registry, the
verification flow, the authenticator or the store itself under a context of its own. -/
namespace EmailOwnership.Rehearsal
open Store (Call Fault)

/-- How the context of an action is made. -/
structure ContextSetting where
  id : Option String
  timeout : Option Float
  deadline : Option Float
  cancelled : Bool

namespace ContextSetting

def plain : ContextSetting := ⟨none, none, none, false⟩

/-- The identifier of a context without a timeout. -/
def standardId : String := "r"

/-- A timeout counts from now and wins over a deadline. -/
def build {κ : Type} (setting : ContextSetting) (now : Float) : Context κ :=
  let context : Context κ := match setting.timeout with
    | some seconds => .withTimeout now seconds (setting.id.getD Context.defaultId)
    | none => .new (setting.id.getD standardId) setting.deadline
  if setting.cancelled then context.cancel.2 else context

end ContextSetting

inductive Action
  | addAccount (handle : String) (name : Option String) (id : Option Uuid)
  | addPassword (account : Uuid) (hash : String)
  | addRole (account : Uuid) (name : String)
  | addTag (account : Uuid) (name : String)
  | addMethod (account : Uuid) (method : AuthenticationMethod) (secret : String)
  | putRecord (record : EmailRecord)
  | advance (seconds : Float)
  | dump
  -- the registry
  | add (account : Uuid) (address code : String)
  | provision (address code : String)
  | getCode (address : String)
  | lookupCode (address code : String)
  | verify (account : Uuid) (address : String)
  | lookupAccount (address : String)
  | remove (account email : Uuid)
  -- the verification flow
  | addEmail (sender : Sender) (account : Uuid) (email : String)
  | verifyEmail (email code : String)
  | provisionEmail (email : String)
  | removeEmail (account email : Uuid)
  | accountForEmail (email : String)
  -- the rest
  | authenticate (handle password : String)
  | store (call : Call)

/-- What an action answers if it does not fail. -/
inductive Result
  | nothing
  | id (u : Uuid)
  | reply (r : Store.Reply)
  | value (v : Store.Value)
  | verification (v : Verification)
  | state (s : Store.Memory.State)

abbrev Answer := Except Failure Result

/-! ### Actions as programs -/

/-- A store call by itself, with its fault as the failure. -/
def storeProgram (c : Call) : Program Result := do
  match ← Program.call c with
  | .ok reply => pure (.reply reply)
  | .error fault => .fail (.store fault)

/-- The sender that an action is to deliver through. -/
def Action.sender : Action → Sender
  | .addEmail sender .. => sender
  | _ => .console

/-- The operation of an action, `none` for what is done to the world directly. -/
def Action.program? (requestId : String) (codeLength : Nat) : Action → Option (Program Result)
  | .add account address code => some (.reply <$> Registry.add requestId account address code)
  | .provision address code => some (.reply <$> Registry.provision requestId address code)
  | .getCode address => some (.value <$> Registry.getCode requestId address)
  | .lookupCode address code => some (.reply <$> Registry.lookupCode requestId address code)
  | .verify account address =>
    some ((fun _ => .nothing) <$> Registry.verify requestId account address)
  | .lookupAccount address => some (.reply <$> Registry.lookupAccount requestId address)
  | .remove account email => some ((fun _ => .nothing) <$> Registry.remove requestId account email)
  | .addEmail _ account email =>
    some (.reply <$> Verification.addEmail requestId codeLength account email)
  | .verifyEmail email code =>
    some (.verification <$> Verification.verifyEmail requestId email code)
  | .provisionEmail email =>
    some (.reply <$> Verification.provisionEmail requestId codeLength email)
  | .removeEmail account email =>
    some ((fun _ => .nothing) <$> Verification.removeEmail requestId account email)
  | .accountForEmail email => some (.reply <$> Verification.accountForEmail requestId email)
  | .authenticate handle password =>
    some ((fun account => .value (account.getD .null)) <$>
      Authentication.authenticate requestId handle password)
  | .store c => some (storeProgram c)
  | _ => none

/-- Seeding answers with its fault, or with nothing. -/
def seeded (result : Except Fault Unit × Store.Memory.State) (w : World) : Answer × World :=
  ((result.1.mapError Failure.store).map fun _ => .nothing, {w with memory := result.2})

/-- What an action does to the world directly. -/
def Action.apply : Action → World → Answer × World
  | .addAccount handle name id, w =>
    let (id, memory) := Store.Memory.addAccount handle name id w.memory
    (.ok (.id id), {w with memory := memory})
  | .addPassword account hash, w => seeded (Store.Memory.addPassword account hash w.memory) w
  | .addRole account name, w => seeded (Store.Memory.addRole account name w.memory) w
  | .addTag account name, w => seeded (Store.Memory.addTag account name w.memory) w
  | .addMethod account method secret, w =>
    seeded (Store.Memory.addMethod account method secret w.memory) w
  | .putRecord record, w => (.ok .nothing, {w with memory := Store.Memory.putRecord record w.memory})
  | .advance seconds, w => (.ok .nothing, {w with clock := w.clock + seconds})
  | .dump, w => (.ok (.state w.memory), w)
  | _, w => (.ok .nothing, w)

/-! ### Undisturbed steps -/

/-- An action with the context it runs under. -/
structure Visit where
  action : Action
  context : ContextSetting

/-- A visit that nothing comes between. -/
def Visit.perform (codeLength : Nat) (v : Visit) (w : World) : Answer × World :=
  let context : Context String := v.context.build w.clock
  match v.action.program? context.requestId codeLength with
  | some program => program.run (plainHandler v.action.sender context) w
  | none => v.action.apply w

end EmailOwnership.Rehearsal
