import EmailOwnership.Proofs.Memory.Accounts
import EmailOwnership.Proofs.Memory.Issue
import EmailOwnership.Proofs.Registry.Decision
import EmailOwnership.Proofs.Registry.Writes

/-! Whole calls of the verification flow.

What each call answers under a live context, with what it leaves in the store and what it
hands to the sender (`World.deliveries`). A claim that is granted delivers the code that it
has drawn and stored, once; a verification marks the record that has its code and an owner,
and changes nothing otherwise. -/
namespace EmailOwnership

namespace Rehearsal

/-- A drawn code has as many characters as it was asked for. -/
theorem draw_ne_empty {w : World} {codeLength : Nat} (h : 1 ≤ codeLength) :
    (w.draw codeLength).1 ≠ "" := by
  intro he
  have hlength := congrArg (fun s : String => s.toList.length) he
  simp [World.draw, Digits.draw] at hlength
  omega

end Rehearsal

namespace Registry
open Rehearsal
variable {requestId address : String} {context : Context String} {w : World} {sender : Sender}

/-- The code that is read back is the one that the record has. -/
theorem run_getCode (hlive : context.isDone w.clock = false) {r : EmailRecord}
    (hr : w.memory.emails.get? address = some r) :
    (getCode requestId address).run (plainHandler sender context) w = (.ok (.text r.code), w) := by
  have hread : Store.Memory.step (.getEmail address) w.memory =
      (.ok (.ofRecord? (some r)), w.memory) := by
    simp [Store.Memory.step, hr]
  exact run_stored hlive hread _

end Registry

namespace Verification
open Rehearsal
open Registry (claimWrite? Claimed)
open Store (Call Reply)
open Store.Memory (State step)
variable {requestId email code : String} {account : Uuid} {codeLength : Nat}
  {context : Context String} {w : World} {sender : Sender}

/-! ### Claims -/

section Claims
variable (hlive : context.isDone w.clock = false) (hlength : 1 ≤ codeLength)
include hlive hlength

/-- A granted claim stores the code that it drew, answers with the record and delivers the code. -/
theorem run_addEmail_granted {c : Call}
    (h : claimWrite? account (Address.normalize email) (w.draw codeLength).1
      (w.memory.emails.get? (Address.normalize email)) = some c) :
    ∃ r w', (addEmail requestId codeLength account email).run (plainHandler .console context) w =
        (.ok (.ofRecord? (some r)), w') ∧
      w'.memory = (step c w.memory).2 ∧
      w'.memory.emails = w.memory.emails.put (Address.normalize email) r ∧
      Claimed w.memory account (Address.normalize email) (w.draw codeLength).1 r ∧
      w'.deliveries = w.deliveries ++ [(Address.normalize email, (w.draw codeLength).1)] := by
  obtain ⟨r, entry, hentry, -, hemails, hclaimed, hrun⟩ :=
    Registry.run_add_granted (w := (w.draw codeLength).2) hlive (draw_ne_empty hlength)
      requestId .console h
  -- the world in which the stored code is read back
  let w₁ := {(w.draw codeLength).2 with memory := (step c w.memory).2}.note entry
  have hread : w₁.memory.emails.get? (Address.normalize email) = some r :=
    (congrArg (·.get? (Address.normalize email)) hemails).trans (Table.get?_put_self ..)
  have hcode : (Registry.getCode requestId (Address.normalize email)).run
      (plainHandler .console context) w₁ = (.ok (.text (w.draw codeLength).1), w₁) := by
    rw [← hclaimed.code]
    exact Registry.run_getCode (w := w₁) hlive hread
  have hnone : entry.delivery? = none := delivery?_eq_none hentry
  refine ⟨r, w₁.note (.codeDelivered (Address.normalize email) (w.draw codeLength).1), ?_, rfl,
    hemails, hclaimed, ?_⟩
  · show ((Registry.add requestId account (Address.normalize email) (w.draw codeLength).1 >>= fun
      record => Registry.getCode requestId (Address.normalize email) >>= fun code =>
        Program.deliver (Address.normalize email) code.render >>= fun _ => pure record)
      : Program Reply).run (plainHandler .console context) (w.draw codeLength).2 = _
    rw [Program.run_bind, hrun]
    show (Registry.getCode requestId (Address.normalize email) >>= _).run _ w₁ = _
    rw [Program.run_bind, hcode]
    rfl
  · rw [deliveries_note, deliveries_note, hnone]
    simp [World.deliveries, World.draw, Log.Entry.delivery?]

/-- A refused claim leaves the store as it is and delivers nothing. -/
theorem run_addEmail_refused
    (h : claimWrite? account (Address.normalize email) (w.draw codeLength).1
      (w.memory.emails.get? (Address.normalize email)) = none) :
    ∃ e, (addEmail requestId codeLength account email).run (plainHandler sender context) w =
      (.error (.registry e), (w.draw codeLength).2) := by
  obtain ⟨e, hrun⟩ :=
    Registry.run_add_refused (w := (w.draw codeLength).2) hlive (draw_ne_empty hlength)
      requestId sender h
  refine ⟨e, ?_⟩
  show ((Registry.add requestId account (Address.normalize email) (w.draw codeLength).1 >>= _)
    : Program Reply).run (plainHandler sender context) (w.draw codeLength).2 = _
  rw [Program.run_bind, hrun]

end Claims

/-! ### Provisionings -/

section Provisioning
variable (hlive : context.isDone w.clock = false) (hlength : 1 ≤ codeLength)
include hlive hlength

/-- A provisioning of an unknown address creates an unowned record. -/
theorem run_provisionEmail (h : w.memory.emails.get? (Address.normalize email) = none) :
    (provisionEmail requestId codeLength email).run (plainHandler sender context) w =
      (.ok (.ofRecord? (some
          (w.memory.fresh (Address.normalize email) none (w.draw codeLength).1))),
        {(w.draw codeLength).2 with
          memory := {w.memory with
            emails := w.memory.emails.put (Address.normalize email)
              (w.memory.fresh (Address.normalize email) none (w.draw codeLength).1)
            drawn := w.memory.drawn + 1}}.note (.provisioned (Address.normalize email))) := by
  have hcode := draw_ne_empty (w := w) hlength
  show (Registry.provision requestId (Address.normalize email) (w.draw codeLength).1).run
    (plainHandler sender context) (w.draw codeLength).2 = _
  unfold Registry.provision
  rw [if_neg (by simpa using hcode),
    Registry.run_stored (w := (w.draw codeLength).2) hlive (Store.Memory.step_create h)]
  rfl

/-- A known address is not provisioned again. -/
theorem run_provisionEmail_known {r : EmailRecord}
    (h : w.memory.emails.get? (Address.normalize email) = some r) :
    ∃ e, (provisionEmail requestId codeLength email).run (plainHandler sender context) w =
      (.error (.registry e), (w.draw codeLength).2) := by
  have hcode := draw_ne_empty (w := w) hlength
  show ∃ e, (Registry.provision requestId (Address.normalize email) (w.draw codeLength).1).run
    (plainHandler sender context) (w.draw codeLength).2 = (.error (.registry e), _)
  unfold Registry.provision
  rw [if_neg (by simpa using hcode),
    Registry.run_stored (w := (w.draw codeLength).2) hlive (Store.Memory.step_create_known h)]
  exact ⟨_, rfl⟩

end Provisioning

/-! ### Verifications and removals -/

section Calls
variable (hlive : context.isDone w.clock = false)
include hlive

/-- The right code of an address whose owner can be looked up marks its record, which may be marked
already. -/
theorem run_verifyEmail_found {r : EmailRecord} {a : Account}
    (hr : w.memory.emails.get? (Address.normalize email) = some r) (ho : r.owner = some a.id)
    (ha : Store.Memory.buildAccount a.id false w.memory = .ok a) (hcode : r.code = code) :
    (verifyEmail requestId email code).run (plainHandler sender context) w =
      (.ok .success, {w with memory := {w.memory with
        emails := w.memory.emails.put (Address.normalize email) {r with verified := true}}}.note
          (.verified (Address.normalize email) a.id)) := by
  have hfound : step (.accountByCode (Address.normalize email) code) w.memory =
      (.ok (.ofAccount? (some a)), w.memory) := by
    obtain ⟨id, address, owner, stored, verified⟩ := r
    obtain rfl : owner = some a.id := ho
    obtain rfl : stored = code := hcode
    simp [step, hr, ha, Except.map]
  show (Registry.stored _ _ (.accountByCode (Address.normalize email) code) >>= _).run _ w = _
  rw [Registry.run_stored hlive hfound]
  show ((Registry.stored _ _ (.markVerified (Address.normalize email) a.id) >>= _) >>= fun _ =>
    pure Verification.success : Program Verification).run _ w = _
  rw [Program.run_bind, Registry.run_stored hlive (Store.Memory.step_mark hr ho)]
  rfl

/-- The owner of a record can be looked up where accounts have their edges. -/
theorem run_verifyEmail {r : EmailRecord} {owner : Uuid} (hlinked : Store.Memory.Linked w.memory)
    (hknown : w.memory.knows owner = true)
    (hr : w.memory.emails.get? (Address.normalize email) = some r) (ho : r.owner = some owner)
    (hcode : r.code = code) :
    ∃ entry, (verifyEmail requestId email code).run (plainHandler sender context) w =
      (.ok .success, {w with memory := {w.memory with
        emails := w.memory.emails.put (Address.normalize email) {r with verified := true}}}.note
          entry) := by
  obtain ⟨a, ha⟩ := Store.Memory.buildAccount_of_linked hlinked hknown false
  obtain rfl := Store.Memory.buildAccount_id ha
  exact ⟨_, run_verifyEmail_found hlive hr ho ha hcode⟩

/-- Without such a record there is nothing to verify. -/
theorem run_verifyEmail_invalid
    (h : ∀ r, w.memory.emails.get? (Address.normalize email) = some r → r.owner ≠ none →
      r.code ≠ code) :
    (verifyEmail requestId email code).run (plainHandler sender context) w =
      (.ok .invalidCode, w) := by
  have hnothing : step (.accountByCode (Address.normalize email) code) w.memory =
      (.ok .nothing, w.memory) := by
    simp only [step]
    split
    · rename_i hr
      rw [if_neg (h _ hr (by simp))]
    · rfl
  show (Registry.stored _ _ (.accountByCode (Address.normalize email) code) >>= _).run _ w = _
  rw [Registry.run_stored hlive hnothing]
  rfl

/-- A removal is the store's, and always succeeds. -/
theorem run_removeEmail (id : Uuid) :
    ∃ entry, (removeEmail requestId account id).run (plainHandler sender context) w =
      (.ok (), {w with memory := (step (.deleteEmail id account) w.memory).2}.note entry) := by
  obtain ⟨n, hn⟩ : ∃ n, (step (.deleteEmail id account) w.memory).1 = .ok (.count n) := by
    simp only [step]
    split <;> exact ⟨_, rfl⟩
  show ∃ entry, (Registry.stored _ _ (.deleteEmail id account) >>= fun affected =>
    if affected.isZero then Program.log (.nothingRemoved id account)
    else Program.log (.removed id account) : Program Unit).run _ w = _
  rw [Registry.run_stored hlive (Prod.ext hn rfl)]
  split <;> exact ⟨_, rfl⟩

end Calls
end Verification
end EmailOwnership
