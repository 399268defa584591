import EmailOwnership.Proofs.Program.Writes
import EmailOwnership.Rehearsal.Step

/-! What each operation may write.

`Action.Writes` is the table: the conditional writes that an action may ask the store for.
Every operation makes at most one of them, whatever the store replies
(`Action.program_writes`). The verification flow writes what the registry operation behind
it writes, at the normal form of the address. -/
namespace EmailOwnership

namespace Rehearsal
open Store (Call)

/-- The writes that an action may ask the store for. -/
inductive Action.Writes : Action → Call → Prop
  | store {c : Call} : Action.Writes (.store c) c
  | create {account : Uuid} {address code : String} :
    Action.Writes (.add account address code) (.createEmail address (some account) code)
  | takeOver {account : Uuid} {address code : String} :
    Action.Writes (.add account address code) (.claimUnowned address account code)
  | reissue {account : Uuid} {address code : String} :
    Action.Writes (.add account address code) (.reissueCode address account code)
  | provision {address code : String} :
    Action.Writes (.provision address code) (.createEmail address none code)
  | verify {account : Uuid} {address : String} :
    Action.Writes (.verify account address) (.markVerified address account)
  | remove {account email : Uuid} :
    Action.Writes (.remove account email) (.deleteEmail email account)
  -- the verification flow
  | addEmail {sender : Sender} {account : Uuid} {email code : String} {c : Call} :
    Action.Writes (.add account (Address.normalize email) code) c →
    Action.Writes (.addEmail sender account email) c
  | provisionEmail {email code : String} {c : Call} :
    Action.Writes (.provision (Address.normalize email) code) c →
    Action.Writes (.provisionEmail email) c
  | verifyEmail {account : Uuid} {email code : String} {c : Call} :
    Action.Writes (.verify account (Address.normalize email)) c →
    Action.Writes (.verifyEmail email code) c
  | removeEmail {account email : Uuid} {c : Call} :
    Action.Writes (.remove account email) c → Action.Writes (.removeEmail account email) c

end Rehearsal

/-! ### The registry -/

namespace Registry
open Store (Call)
open Program (Writes)
variable {P : Call → Prop} {operation requestId address code : String} {details : Details}
  {account email : Uuid}

theorem stored_writes {n : Nat} {c : Call} (hc : Writes P n (Program.call c)) :
    Writes P n (stored operation details c) := by
  refine hc.before fun reply => ?_
  cases reply with
  | ok reply => exact .pure
  | error fault =>
    dsimp only
    split
    · exact Writes.log.after fun _ => .fail
    · exact .fail

theorem create_writes (h : P (.createEmail address (some account) code)) :
    Writes P 1 (create details account address code) := by
  refine (stored_writes (.call_write h)).before fun reply => ?_
  split
  · exact Writes.log.after fun _ => .fail
  · exact Writes.log.after fun _ => .pure

theorem takeOver_writes (h : P (.claimUnowned address account code)) :
    Writes P 1 (takeOver details account address code) := by
  refine (stored_writes (.call_write h)).before fun reply => ?_
  split
  · exact Writes.log.after fun _ => .fail
  · exact Writes.log.after fun _ => .pure

theorem codeLost_writes (reply : Store.Reply) : Writes P 0 (codeLost details address reply) := by
  unfold codeLost
  split
  · exact Writes.log.after fun _ => .fail
  · refine Writes.fieldOf.after fun verified => ?_
    split
    · exact .fail
    · exact Writes.log.after fun _ => .fail

theorem reissue_writes (h : P (.reissueCode address account code)) :
    Writes P 1 (reissue details account address code) := by
  refine (stored_writes (.call_write h)).before fun reply => ?_
  split
  · exact (stored_writes (.call_read rfl)).after codeLost_writes
  · exact Writes.log.after fun _ => .pure

theorem claim_writes (hc : P (.createEmail address (some account) code))
    (ht : P (.claimUnowned address account code)) (hr : P (.reissueCode address account code))
    (reply : Store.Reply) : Writes P 1 (claim details account address code reply) := by
  unfold claim
  split
  · exact create_writes hc
  · refine Writes.fieldOf.after fun owner => ?_
    split
    · exact takeOver_writes ht
    · split
      · exact .fail
      · refine Writes.fieldOf.after fun verified => ?_
        split
        · exact .fail
        · exact reissue_writes hr

theorem add_writes (hc : P (.createEmail address (some account) code))
    (ht : P (.claimUnowned address account code)) (hr : P (.reissueCode address account code)) :
    Writes P 1 (add requestId account address code) := by
  unfold add
  split
  · exact .fail
  · exact (stored_writes (.call_read rfl)).after (claim_writes hc ht hr)

theorem provision_writes (h : P (.createEmail address none code)) :
    Writes P 1 (provision requestId address code) := by
  unfold provision
  split
  · exact .fail
  · refine (stored_writes (.call_write h)).before fun reply => ?_
    split
    · exact .fail
    · exact Writes.log.after fun _ => .pure

theorem getCode_writes {n : Nat} : Writes P n (getCode requestId address) := by
  refine (stored_writes (.call_read rfl)).after fun reply => ?_
  split
  · exact .fail
  · exact .fieldOf

theorem lookupCode_writes {n : Nat} : Writes P n (lookupCode requestId address code) :=
  stored_writes (.call_read rfl)

theorem verify_writes (h : P (.markVerified address account)) :
    Writes P 1 (verify requestId account address) := by
  refine (stored_writes (.call_write h)).before fun reply => ?_
  split
  · exact .fail
  · exact .log

theorem lookupAccount_writes {n : Nat} : Writes P n (lookupAccount requestId address) :=
  stored_writes (.call_read rfl)

theorem remove_writes (h : P (.deleteEmail email account)) :
    Writes P 1 (remove requestId account email) := by
  refine (stored_writes (.call_write h)).before fun reply => ?_
  split <;> exact .log

end Registry

/-! ### The verification flow -/

namespace Verification
open Store (Call)
open Program (Writes)
variable {P : Call → Prop} {requestId email code : String} {codeLength : Nat} {account : Uuid}

theorem addEmail_writes
    (hc : ∀ code, P (.createEmail (Address.normalize email) (some account) code))
    (ht : ∀ code, P (.claimUnowned (Address.normalize email) account code))
    (hr : ∀ code, P (.reissueCode (Address.normalize email) account code)) :
    Writes P 1 (addEmail requestId codeLength account email) := by
  refine Writes.drawCode.after fun code => ?_
  refine (Registry.add_writes (hc code) (ht code) (hr code)).before fun record => ?_
  refine Registry.getCode_writes.after fun stored => ?_
  exact Writes.deliver.after fun _ => .pure

theorem verifyEmail_writes (h : ∀ account, P (.markVerified (Address.normalize email) account)) :
    Writes P 1 (verifyEmail requestId email code) := by
  refine Registry.lookupCode_writes.after fun reply => ?_
  split
  · exact .pure
  · refine Writes.fieldOf.after fun id => ?_
    split
    · exact (Registry.verify_writes (h _)).before fun _ => .pure
    · exact .fail

theorem provisionEmail_writes
    (h : ∀ code, P (.createEmail (Address.normalize email) none code)) :
    Writes P 1 (provisionEmail requestId codeLength email) :=
  Writes.drawCode.after fun code => Registry.provision_writes (h code)

end Verification

namespace Rehearsal
open Store (Call)
open Program (Writes)

theorem storeProgram_writes (c : Call) : Writes (· = c) 1 (storeProgram c) := by
  refine (Writes.call_write (P := (· = c)) rfl).before fun reply => ?_
  cases reply <;> exact .done

theorem authenticate_writes {P : Call → Prop} {n : Nat} {requestId handle password : String} :
    Writes P n (Authentication.authenticate requestId handle password) := by
  refine (Writes.call_read rfl).after fun reply => ?_
  cases reply with
  | error fault =>
    dsimp only
    split <;> exact .fail
  | ok credential =>
    dsimp only
    split
    · exact .fail
    · exact Writes.log.after fun _ => .pure
    · exact .pure

/-- **Every operation makes at most one write**, and it is one that its action may ask for. -/
theorem Action.program_writes {requestId : String} {codeLength : Nat} {action : Action}
    {program : Program Result} (h : action.program? requestId codeLength = some program) :
    program.Writes action.Writes 1 := by
  cases action with
  | add account address code =>
    cases h
    exact (Registry.add_writes .create .takeOver .reissue).map _
  | provision address code =>
    cases h
    exact (Registry.provision_writes .provision).map _
  | getCode address =>
    cases h
    exact Registry.getCode_writes.map _
  | lookupCode address code =>
    cases h
    exact Registry.lookupCode_writes.map _
  | verify account address =>
    cases h
    exact (Registry.verify_writes .verify).map _
  | lookupAccount address =>
    cases h
    exact Registry.lookupAccount_writes.map _
  | remove account email =>
    cases h
    exact (Registry.remove_writes .remove).map _
  | addEmail sender account email =>
    cases h
    refine (Verification.addEmail_writes ?_ ?_ ?_).map _
    · exact fun code => .addEmail (.create : Action.Writes (.add account _ code) _)
    · exact fun code => .addEmail (.takeOver : Action.Writes (.add account _ code) _)
    · exact fun code => .addEmail (.reissue : Action.Writes (.add account _ code) _)
  | verifyEmail email code =>
    cases h
    exact (Verification.verifyEmail_writes fun account => .verifyEmail .verify).map _
  | provisionEmail email =>
    cases h
    exact (Verification.provisionEmail_writes fun code => .provisionEmail .provision).map _
  | removeEmail account email =>
    cases h
    exact (Registry.remove_writes (.removeEmail .remove)).map _
  | accountForEmail email =>
    cases h
    exact Registry.lookupAccount_writes.map _
  | authenticate handle password =>
    cases h
    exact authenticate_writes.map _
  | store c =>
    cases h
    exact (storeProgram_writes c).imp fun _ hc => hc ▸ .store
  | _ => cases h

end Rehearsal
end EmailOwnership
