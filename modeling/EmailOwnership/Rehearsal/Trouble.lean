import EmailOwnership.Rehearsal.Pace

/-! Attempts to add an address, to which things happen.

Before each store call of an attempt time may pass, its context may be cancelled, and others may
make calls of their own; and any call of its own may fail, with no effect on the store. -/
namespace EmailOwnership

namespace Store

/-- The account on whose behalf a call writes. -/
def Call.account? : Call → Option Uuid
  | .createEmail _ owner _ => owner
  | .claimUnowned _ account _ | .reissueCode _ account _ | .markVerified _ account
  | .deleteEmail _ account => some account
  | .getEmail .. | .accountByCode .. | .accountByEmail .. | .passwordCredential .. | .ping => none

/-- The store after these calls. -/
def Memory.State.after (s : Memory.State) (calls : List Call) : Memory.State :=
  calls.foldl (fun s c => (Memory.step c s).2) s

end Store

namespace Verification

/-- The first part of `addEmail`: the claim of the address with the code that is drawn for it. -/
def claimEmail (requestId : String) (codeLength : Nat) (account : Uuid) (email : String) :
    Program Store.Reply := do
  let drawn ← Program.drawCode codeLength
  Registry.add requestId account (Address.normalize email) drawn

/-- The second part: the stored code is read back and handed to the sender. -/
def sendCode (requestId email : String) (record : Store.Reply) : Program Store.Reply := do
  let code ← Registry.getCode requestId (Address.normalize email)
  Program.deliver (Address.normalize email) code.render
  pure record

theorem addEmail_eq (requestId : String) (codeLength : Nat) (account : Uuid) (email : String) :
    addEmail requestId codeLength account email =
      claimEmail requestId codeLength account email >>= sendCode requestId email := rfl

end Verification

namespace Rehearsal
open Store (Call Fault Method Reply)

structure Trouble where
  pace : Pace
  /-- What others ask of the store before the `i`-th call of a method. -/
  intrusions : Method → Nat → List Call
  /-- How the `i`-th call of its method fails, if it does. -/
  faults : Call → Nat → Option Fault

def Session.intrude (s : Session) (calls : List Call) : Session :=
  {s with world := {s.world with memory := s.world.memory.after calls}}

def Trouble.interposition (t : Trouble) : Interposition :=
  ⟨fun m i s => (s.wait (t.pace m i)).intrude (t.intrusions m i),
    fun c i => (t.faults c i).map .error⟩

/-- An attempt that comes after a while. -/
structure Attempt where
  after : Option Float
  context : Context String
  sender : Sender
  trouble : Trouble
  account : Uuid
  email : String

namespace Attempt

/-- What becomes of an operation under the attempt's circumstances. -/
def run {α : Type} (a : Attempt) (p : Program α) (w : World) : Except Failure α × Session :=
  p.run (sessionHandler a.trouble.interposition a.sender) (.start (w.wait a.after) a.context)

/-- How its claim ends. -/
def claim (codeLength : Nat) (a : Attempt) (w : World) : Except Failure Reply :=
  (a.run (Verification.claimEmail a.context.requestId codeLength a.account a.email) w).1

/-- How the attempt ends, and the world after it. -/
def perform (codeLength : Nat) (a : Attempt) (w : World) : Except Failure Reply × World :=
  let (outcome, s) :=
    a.run (Verification.addEmail a.context.requestId codeLength a.account a.email) w
  (outcome, s.world)

/-- The world after attempts, one after the other. -/
def performAll (codeLength : Nat) (attempts : List Attempt) (w : World) : World :=
  attempts.foldl (fun w a => (a.perform codeLength w).2) w

end Attempt
end Rehearsal
end EmailOwnership
