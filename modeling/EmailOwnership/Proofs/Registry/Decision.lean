import EmailOwnership.Proofs.Registry.Outcome

/-! What a claim decides when nothing comes between.

The record at the address picks the write by which the claim takes effect, or none
(`claimWrite?`). The store grants a write that was picked so: its record then belongs to the
account, with the new code and unverified (`step_claimWrite`). So a whole claim under a live
context is that one step, or it is refused and nothing happens (`run_add_granted`,
`run_add_refused`). -/
namespace EmailOwnership.Registry
open Rehearsal
open Store (Call Reply)
open Store.Memory (State step)

/-- The write by which a claim takes effect, by the record that it finds; none if it is refused. -/
def claimWrite? (account : Uuid) (address code : String) : Option EmailRecord → Option Call
  | none => some (.createEmail address (some account) code)
  | some r =>
    if r.owner = none then some (.claimUnowned address account code)
    else if r.owner = some account ∧ r.verified = false then some (.reissueCode address account code)
    else none

variable {address code : String} {account : Uuid} {s : State} {c : Call}

theorem claimWrite?_unowned {r : EmailRecord} (ho : r.owner = none) :
    claimWrite? account address code (some r) = some (.claimUnowned address account code) := by
  simp [claimWrite?, ho]

theorem claimWrite?_own {r : EmailRecord} (ho : r.owner = some account) (hv : r.verified = false) :
    claimWrite? account address code (some r) = some (.reissueCode address account code) := by
  simp [claimWrite?, ho, hv]

/-- A claim is refused for another owner, and for a record of its own that is verified. -/
theorem claimWrite?_eq_none_iff {r? : Option EmailRecord} :
    claimWrite? account address code r? = none ↔
      ∃ r owner, r? = some r ∧ r.owner = some owner ∧ (owner = account → r.verified = true) := by
  cases r? with
  | none => simp [claimWrite?]
  | some r =>
    cases ho : r.owner with
    | none => simp [claimWrite?, ho]
    | some owner =>
      by_cases h : owner = account
      · subst h
        cases hv : r.verified <;> simp [claimWrite?, ho, hv]
      · simp [claimWrite?, ho, h]

/-- A reply says which record it brings. -/
theorem ofRecord?_inj {r r' : EmailRecord}
    (h : Reply.ofRecord? (some r) = Reply.ofRecord? (some r')) : r = r' := by
  have hback := congrArg Store.EmailRow.record? (Reply.record.inj h)
  rw [Store.EmailRow.record?_ofRecord, Store.EmailRow.record?_ofRecord] at hback
  exact Option.some.inj hback

/-- The record that a granted claim leaves. -/
structure Claimed (s : State) (account : Uuid) (address code : String) (r : EmailRecord) : Prop where
  owner : r.owner = some account
  code : r.code = code
  verified : r.verified = false
  id : ∀ r', s.emails.get? address = some r' → r.id = r'.id

/-- **The write that a claim picks is granted**, and stores the claimed record. -/
theorem step_claimWrite (h : claimWrite? account address code (s.emails.get? address) = some c) :
    ∃ r, (step c s).1 = .ok (.ofRecord? (some r)) ∧
      (step c s).2.emails = s.emails.put address r ∧ Claimed s account address code r := by
  cases hr : s.emails.get? address with
  | none =>
    rw [hr] at h
    cases h
    rw [Store.Memory.step_create hr]
    exact ⟨_, rfl, rfl, rfl, rfl, rfl, fun r' hr' => by simp [hr] at hr'⟩
  | some r =>
    rw [hr] at h
    have hid : ∀ r', s.emails.get? address = some r' → r.id = r'.id := fun r' hr' => by
      rw [hr] at hr'
      cases hr'
      rfl
    cases ho : r.owner with
    | none =>
      rw [claimWrite?_unowned ho] at h
      cases h
      rw [Store.Memory.step_claim hr ho]
      exact ⟨_, rfl, rfl, rfl, rfl, rfl, hid⟩
    | some owner =>
      -- only the account's own unverified record is left
      simp only [claimWrite?, ho, reduceCtorEq, if_false, Option.some.injEq] at h
      split at h
      · rename_i hown
        cases h
        obtain ⟨rfl, hv⟩ := hown
        rw [Store.Memory.step_reissue hr ho hv]
        exact ⟨_, rfl, rfl, ho, rfl, hv, hid⟩
      · cases h

/-! ### Whole claims -/

section Whole
variable {context : Context String} {w : World} (hlive : context.isDone w.clock = false) (hcode : code ≠ "")
include hlive hcode

/-- A granted claim is its write, with one line in the log. -/
theorem run_add_granted (requestId : String) (sender : Sender)
    (h : claimWrite? account address code (w.memory.emails.get? address) = some c) :
    ∃ r entry, (∀ a k, entry ≠ .codeDelivered a k) ∧
      (step c w.memory).1 = .ok (.ofRecord? (some r)) ∧
      (step c w.memory).2.emails = w.memory.emails.put address r ∧
      Claimed w.memory account address code r ∧
      (add requestId account address code).run (plainHandler sender context) w =
        (.ok (.ofRecord? (some r)), {w with memory := (step c w.memory).2}.note entry) := by
  obtain ⟨r, hreply, hemails, hclaimed⟩ := step_claimWrite h
  have hrun : (add requestId account address code).run (plainHandler sender context) w = _ :=
    run_add hlive hcode
  cases hr : w.memory.emails.get? address with
  | none =>
    rw [hr] at h hrun
    cases h
    rw [Store.Memory.step_create hr] at hreply
    obtain rfl := ofRecord?_inj (Except.ok.inj hreply)
    refine ⟨_, _, ?_, by rw [Store.Memory.step_create hr], hemails, hclaimed,
      hrun.trans (run_create hlive hr)⟩
    exact fun a k he => by cases he
  | some found =>
    rw [hr] at h hrun
    cases ho : found.owner with
    | none =>
      rw [claimWrite?_unowned ho] at h
      cases h
      rw [Store.Memory.step_claim hr ho] at hreply
      obtain rfl := ofRecord?_inj (Except.ok.inj hreply)
      rw [claim_unowned ho] at hrun
      refine ⟨_, _, ?_, by rw [Store.Memory.step_claim hr ho], hemails, hclaimed,
        hrun.trans (run_takeOver hlive hr ho)⟩
      exact fun a k he => by cases he
    | some owner =>
      by_cases hown : owner = account ∧ found.verified = false
      · obtain ⟨rfl, hv⟩ := hown
        rw [claimWrite?_own ho hv] at h
        cases h
        rw [Store.Memory.step_reissue hr ho hv] at hreply
        obtain rfl := ofRecord?_inj (Except.ok.inj hreply)
        rw [claim_own ho hv] at hrun
        refine ⟨_, _, ?_, by rw [Store.Memory.step_reissue hr ho hv], hemails, hclaimed,
          hrun.trans (run_reissue hlive hr ho hv)⟩
        exact fun a k he => by cases he
      · simp only [claimWrite?, ho, reduceCtorEq, if_false, Option.some.injEq, if_neg hown] at h

/-- A refused claim changes nothing at all. -/
theorem run_add_refused (requestId : String) (sender : Sender)
    (h : claimWrite? account address code (w.memory.emails.get? address) = none) :
    ∃ e, (add requestId account address code).run (plainHandler sender context) w =
      (.error (.registry e), w) := by
  obtain ⟨r, owner, hr, ho, hverified⟩ := claimWrite?_eq_none_iff.1 h
  rw [run_add hlive hcode, hr]
  by_cases hown : owner = account
  · subst hown
    rw [claim_verified ho (hverified rfl)]
    exact ⟨_, rfl⟩
  · rw [claim_foreign ho hown]
    exact ⟨_, rfl⟩

end Whole
end EmailOwnership.Registry
