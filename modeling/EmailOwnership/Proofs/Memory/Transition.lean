import EmailOwnership.Store.Memory

/-! One step of the memory store, seen from the records.

`Change` lists what may become of the record of one address, each case with the call that
it takes and the guard under which the store grants it. `step_transition` says that a step
does this to one address and leaves every other one alone. Later proofs about records
start from these cases and do not open the store again. -/
namespace EmailOwnership.Store.Memory

/-- What may become of the record of `address`, if only calls in `made` are made. -/
inductive Change (made : Call → Prop) (address : String) :
    Option EmailRecord → Option EmailRecord → Prop
  | kept {r? : Option EmailRecord} : Change made address r? r?
  | created {id : Uuid} {owner : Option Uuid} {code : String} :
    made (.createEmail address owner code) →
    Change made address none (some ⟨id, address, owner, code, false⟩)
  | claimed {r : EmailRecord} {account : Uuid} {code : String} :
    r.owner = none → made (.claimUnowned address account code) →
    Change made address (some r)
      (some {r with owner := some account, code := code, verified := false})
  | reissued {r : EmailRecord} {account : Uuid} {code : String} :
    r.owner = some account → r.verified = false → made (.reissueCode address account code) →
    Change made address (some r) (some {r with code := code})
  | verified {r : EmailRecord} {account : Uuid} :
    r.owner = some account → made (.markVerified address account) →
    Change made address (some r) (some {r with verified := true})
  | removed {r : EmailRecord} {account : Uuid} :
    r.owner = some account → made (.deleteEmail r.id account) →
    Change made address (some r) none

/-- At most one address changes, and it changes as `Change` says. -/
def Transition (made : Call → Prop) (s s' : State) : Prop :=
  ∃ address, Change made address (s.emails.get? address) (s'.emails.get? address) ∧
    ∀ other, other ≠ address → s'.emails.get? other = s.emails.get? other

theorem Change.mono {made made' : Call → Prop} (h : ∀ c, made c → made' c) {address : String}
    {r? r?' : Option EmailRecord} (hc : Change made address r? r?') :
    Change made' address r? r?' := by
  cases hc with
  | kept => exact .kept
  | created hm => exact .created (h _ hm)
  | claimed hr hm => exact .claimed hr (h _ hm)
  | reissued hr hv hm => exact .reissued hr hv (h _ hm)
  | verified hr hm => exact .verified hr (h _ hm)
  | removed hr hm => exact .removed hr (h _ hm)

namespace Transition
variable {made : Call → Prop} {s s' : State}

theorem of_emails_eq (h : s'.emails = s.emails) : Transition made s s' :=
  ⟨"", by rw [h]; exact .kept, fun _ _ => by rw [h]⟩

theorem change (h : Transition made s s') (address : String) :
    Change made address (s.emails.get? address) (s'.emails.get? address) := by
  obtain ⟨x, hx, hother⟩ := h
  by_cases he : address = x
  · rw [he]
    exact hx
  · rw [hother address he]
    exact .kept

theorem mono {made' : Call → Prop} (h : Transition made s s') (hm : ∀ c, made c → made' c) :
    Transition made' s s' := by
  obtain ⟨x, hx, hother⟩ := h
  exact ⟨x, hx.mono hm, hother⟩

/-- Storing under an address, if the record there may change into the stored one. -/
theorem put {address : String} {r : EmailRecord}
    (hc : Change made address (s.emails.get? address) (some r))
    (hs : s'.emails = s.emails.put address r) : Transition made s s' := by
  refine ⟨address, ?_, fun other ho => ?_⟩
  · rw [hs, Table.get?_put_self]
    exact hc
  · rw [hs, Table.get?_put_of_ne _ _ ho]

theorem erase {address : String} (hc : Change made address (s.emails.get? address) none)
    (hs : s'.emails = s.emails.erase address) : Transition made s s' := by
  refine ⟨address, ?_, fun other ho => ?_⟩
  · rw [hs, Table.get?_erase_self]
    exact hc
  · rw [hs, Table.get?_erase_of_ne _ ho]

end Transition

/-- **A step makes one change, by its own call.** -/
theorem step_transition (c : Call) (s : State) : Transition (· = c) s (step c s).2 := by
  cases c with
  | createEmail address owner code =>
    simp only [step]
    split
    · exact .of_emails_eq rfl
    · rename_i h
      refine .put ?_ rfl
      rw [h]
      exact .created rfl
  | claimUnowned address account code =>
    simp only [step]
    split
    · rename_i r h
      split
      · rename_i hr
        refine .put ?_ rfl
        rw [h]
        exact .claimed (Option.isNone_iff_eq_none.1 hr) rfl
      · exact .of_emails_eq rfl
    · exact .of_emails_eq rfl
  | reissueCode address account code =>
    simp only [step]
    split
    · rename_i r h
      split
      · rename_i hr
        refine .put ?_ rfl
        rw [h]
        exact .reissued hr.1 hr.2 rfl
      · exact .of_emails_eq rfl
    · exact .of_emails_eq rfl
  | markVerified address account =>
    simp only [step]
    split
    · rename_i r h
      split
      · rename_i hr
        refine .put ?_ rfl
        rw [h]
        exact .verified hr rfl
      · exact .of_emails_eq rfl
    · exact .of_emails_eq rfl
  | deleteEmail email account =>
    simp only [step]
    split
    · rename_i address r h
      have hr := List.find?_some h
      simp only [decide_eq_true_eq] at hr
      refine .erase ?_ rfl
      rw [Table.get?_eq_some_iff.2 (List.mem_of_find?_eq_some h)]
      exact .removed hr.2 (by rw [hr.1])
    · exact .of_emails_eq rfl
  | accountByCode address code =>
    simp only [step]
    split
    · split <;> exact .of_emails_eq rfl
    · exact .of_emails_eq rfl
  | accountByEmail address =>
    simp only [step]
    split <;> exact .of_emails_eq rfl
  | _ => exact .of_emails_eq rfl

end EmailOwnership.Store.Memory
