import EmailOwnership.Proofs.FailedOperations
import EmailOwnership.Proofs.Registry.Alone

/-! What an interrupted operation leaves behind.

An operation of the verification flow makes several calls, and its request may be cancelled or
run out of time before each of them. One that fails with an error of the registry has delivered
nothing, and has left the store as it was, save in one gap: a claim that is interrupted between
its write and the look that reads the code back stays in the store, and its code is never sent
(`interrupted_flow`). -/
namespace EmailOwnership.Rehearsal
open Program (Alone alone_done alone_map alone_run)
open Registry (Blames Granted)
open Verification (alone_addEmail alone_verifyEmail alone_provisionEmail)
open Store.Memory (State)

/-- The operations of the verification flow. -/
def Action.isService : Action → Bool
  | .addEmail .. | .verifyEmail .. | .provisionEmail .. | .removeEmail .. | .accountForEmail .. => true
  | _ => false

/-- The store after an operation that ended with an error of the registry. -/
inductive Leaves (requestId : String) (codeLength : Nat) (s : State) :
    Action → RegistryError → State → Prop
  | nothing {action : Action} {e : RegistryError} :
    e.details.get? "operation" ≠ some (.text "get_code") → Leaves requestId codeLength s action e s
  /-- The claim is stored; reading its code back was interrupted. -/
  | claim {sender : Sender} {account : Uuid} {email message : String} {r : EmailRecord} {s' : State} :
    Granted account (Address.normalize email) codeLength s s' r →
    Leaves requestId codeLength s (.addEmail sender account email)
      ⟨.internal, message,
        Registry.details requestId "get_code" [("address", .text (Address.normalize email))],
        some (.interrupted message)⟩ s'

variable {requestId operation : String} {codeLength : Nat} {about : List (String × Detail)}
  {action : Action} {p : Program Result} {e : RegistryError} {s s' : State}
  {sent : List (String × String)}

theorem leaves_of_blames (h : Blames (Registry.details requestId operation about) (.registry e))
    (habout : ∀ x ∈ about, x.1 ≠ "request_id" ∧ x.1 ≠ "operation")
    (hoperation : operation ≠ "get_code") : Leaves requestId codeLength s action e s := by
  refine .nothing ?_
  rw [h e rfl, (Registry.details_get? habout).2]
  simpa using hoperation

theorem leaves_of_alone (hservice : action.isService = true)
    (hp : action.program? requestId codeLength = some p)
    (h : Alone action.sender p s (.error (.registry e)) s' sent) :
    Leaves requestId codeLength s action e s' ∧ sent = [] := by
  cases action with
  | addEmail sender account email =>
    cases hp
    obtain ⟨o, h, ho⟩ := alone_map h
    cases alone_addEmail h with
    | unclaimed hblames =>
      cases ho
      exact ⟨leaves_of_blames hblames (by simp) (by simp), rfl⟩
    | unread message hgranted =>
      cases ho
      exact ⟨.claim hgranted, rfl⟩
    | undelivered => cases ho
    | delivered => cases ho
  | verifyEmail email code =>
    cases hp
    obtain ⟨o, h, ho⟩ := alone_map h
    obtain ⟨hverifies, rfl⟩ := alone_verifyEmail h
    cases hverifies with
    | unread hblames =>
      cases ho
      exact ⟨leaves_of_blames hblames (by simp) (by simp), rfl⟩
    | unmarked hblames =>
      cases ho
      exact ⟨leaves_of_blames hblames (by simp) (by simp), rfl⟩
    | invalid => cases ho
    | marked => cases ho
  | provisionEmail email =>
    cases hp
    obtain ⟨o, h, ho⟩ := alone_map h
    rcases alone_provisionEmail h with ⟨e', hblames, rfl, rfl, rfl⟩ | ⟨code, -, rfl, -⟩
    · cases ho
      exact ⟨leaves_of_blames hblames (by simp) (by simp), rfl⟩
    · cases ho
  | removeEmail account email =>
    cases hp
    obtain ⟨o, h, ho⟩ := alone_map h
    rcases Registry.alone_remove h with ⟨e', hblames, rfl, rfl, rfl⟩ | ⟨rfl, -⟩
    · cases ho
      exact ⟨leaves_of_blames hblames (by simp) (by simp), rfl⟩
    · cases ho
  | accountForEmail email =>
    cases hp
    obtain ⟨o, h, ho⟩ := alone_map h
    obtain ⟨rfl, rfl, hblames⟩ := Registry.alone_lookupAccount h
    cases o with
    | ok account => cases ho
    | error e' =>
      cases ho
      exact ⟨leaves_of_blames (hblames _ rfl) (by simp) (by simp), rfl⟩
  | _ => cases hservice

/-- **Only a claim can outlive its interrupted operation.** Over any memory store, at any pace
and under any context, an operation of the verification flow that ends with an error of the
registry has delivered no code, and it has left the store as it was, unless the error says that
reading a code back was interrupted: then the claim is stored before. -/
theorem interrupted_flow (codeLength : Nat) (pace : Pace) (context : Context String) (w : World)
    (hservice : action.isService = true) (hp : action.program? context.requestId codeLength = some p) :
    let ended := p.run (sessionHandler pace.interposition action.sender) (.start w context)
    ended.1 = .error (.registry e) →
      ended.2.world.deliveries = w.deliveries ∧
        Leaves context.requestId codeLength w.memory action e ended.2.world.memory := by
  intro ended he
  obtain ⟨sent, h, hsent⟩ := alone_run pace action.sender p (.start w context)
  obtain ⟨hleaves, rfl⟩ := leaves_of_alone hservice hp (he ▸ h)
  exact ⟨hsent.trans (List.append_nil _), hleaves⟩

/-- The fault behind the registry's error in which an operation ended, if it ended so. -/
def causeOf? {α : Type} : Except Failure α → Option Store.Fault
  | .error (.registry e) => e.cause
  | _ => none

theorem error_of_causeOf? {α : Type} {o : Except Failure α} {fault : Store.Fault}
    (h : causeOf? o = some fault) : ∃ e, o = .error (.registry e) ∧ e.cause = some fault := by
  cases o with
  | ok a => cases h
  | error failure =>
    cases failure with
    | registry e => exact ⟨e, rfl, h⟩
    | _ => cases h

/-- The request is cancelled before its second look at the store. -/
def cancelledBeforeSecondLook : Pace := fun method i =>
  ⟨none, decide (method = .getEmail ∧ i = 1)⟩

/-- A claim of an unknown address that is cancelled there stays, and its code is not sent. -/
theorem interrupted_flow_claimed :
    let p : Program Result := .reply <$> Verification.addEmail "r" 6 ⟨1⟩ "a@x.com"
    let ended := p.run (sessionHandler cancelledBeforeSecondLook.interposition .console)
      (.start ⟨.empty, 0, .standard, []⟩ (.new "r" none))
    ∃ e, ended.1 = .error (.registry e) ∧ e.cause = some (.interrupted "request r cancelled") ∧
      ended.2.world.deliveries = [] ∧
      ended.2.world.memory.emails.get? "a@x.com" =
        some ⟨.drawn 1, "a@x.com", some ⟨1⟩, "123456", false⟩ := by
  intro p ended
  have hcause : causeOf? ended.1 = some (.interrupted "request r cancelled") := by decide +kernel
  have hrecord : ended.2.world.memory.emails.get? "a@x.com" =
      some ⟨.drawn 1, "a@x.com", some ⟨1⟩, "123456", false⟩ := by decide +kernel
  obtain ⟨e, he, hinterrupted⟩ := error_of_causeOf? hcause
  have hservice : (Action.addEmail .console ⟨1⟩ "a@x.com").isService = true := rfl
  have h := interrupted_flow 6 cancelledBeforeSecondLook (.new "r" none)
    ⟨.empty, 0, .standard, []⟩ hservice rfl he
  exact ⟨e, he, hinterrupted, h.1, hrecord⟩

end EmailOwnership.Rehearsal
