import EmailOwnership.Proofs.Registry.Course
import EmailOwnership.Proofs.Registry.Decision

/-! A claim's write, between the look that picked it and the store that is asked for it.

A claim picks its write by the record of its first look (`claimWrite?_of_picks`). The store makes
the write exactly if the record that stands by then still calls for the same one
(`written_of_choice`, `choice_of_written`). So where the write matches nothing, the record has
changed since the look (`changed_of_lost`). -/
namespace EmailOwnership.Registry
open Store (Call Reply)
open Store.Memory (State step)
variable {account : Uuid} {address code : String} {c : Call} {s : State}

theorem ofOwner_injective : Function.Injective Store.Value.ofOwner := by
  intro a b h
  cases a <;> cases b <;> cases h <;> rfl

/-- The look at a record picks the write that this record calls for. -/
theorem claimWrite?_of_picks {r? : Option EmailRecord}
    (h : Picks account address code (.ofRecord? r?) c) :
    claimWrite? account address code r? = some c := by
  cases r? with
  | none =>
    cases h with
    | create => rfl
    | takeOver howner => cases howner
    | reissue howner _ _ => cases howner
  | some r =>
    generalize hlook : Reply.ofRecord? (some r) = look at h
    cases h with
    | create => cases hlook
    | takeOver howner =>
      subst hlook
      have ho : r.owner = none := ofOwner_injective (Option.some.inj howner)
      exact claimWrite?_unowned ho
    | reissue howner hverified hfalse =>
      subst hlook
      have ho : r.owner = some account := ofOwner_injective (Option.some.inj howner)
      have hv : r.verified = false := by
        cases hverified
        exact hfalse
      exact claimWrite?_own ho hv

/-- A write for which the record calls brings the claimed record. -/
theorem written_of_choice (h : claimWrite? account address code (s.emails.get? address) = some c) :
    ∃ r, (step c s).1 = .ok (.ofRecord? (some r)) ∧ (step c s).2.emails.get? address = some r ∧
      Claimed s account address code r := by
  obtain ⟨r, hreply, hemails, hclaimed⟩ := step_claimWrite h
  refine ⟨r, hreply, ?_, hclaimed⟩
  rw [hemails]
  exact Table.get?_put_self ..

/-- A write that brings anything is the one for which the record calls. -/
theorem choice_of_written {look written : Reply} (hpick : Picks account address code look c)
    (hw : (step c s).1 = .ok written) (hne : written ≠ .nothing) :
    claimWrite? account address code (s.emails.get? address) = some c := by
  have hlost : ∀ s', step c s ≠ (.ok .nothing, s') := fun s' h => by
    rw [h] at hw
    exact hne (Except.ok.inj hw).symm
  cases hpick with
  | create =>
    cases hr : s.emails.get? address with
    | none => rfl
    | some r => exact absurd (Store.Memory.step_create_known hr) (hlost s)
  | takeOver _ =>
    by_cases hfree : ∃ r, s.emails.get? address = some r ∧ r.owner = none
    · obtain ⟨r, hr, ho⟩ := hfree
      rw [hr]
      exact claimWrite?_unowned ho
    · exact absurd (Store.Memory.step_claim_lost fun r hr ho => hfree ⟨r, hr, ho⟩) (hlost s)
  | reissue _ _ _ =>
    by_cases hown : ∃ r, s.emails.get? address = some r ∧ r.owner = some account ∧
        r.verified = false
    · obtain ⟨r, hr, ho, hv⟩ := hown
      rw [hr]
      exact claimWrite?_own ho hv
    · refine absurd (Store.Memory.step_reissue_lost fun r hr ho => ?_) (hlost s)
      cases hv : r.verified with
      | true => rfl
      | false => exact absurd ⟨r, hr, ho, hv⟩ hown

/-- **A write that matches nothing was picked by another record** than the one that stands there. -/
theorem changed_of_lost {r? : Option EmailRecord}
    (hpick : Picks account address code (.ofRecord? r?) c) (hlost : (step c s).1 = .ok .nothing) :
    s.emails.get? address ≠ r? := by
  intro hsame
  have hchoice := claimWrite?_of_picks hpick
  rw [← hsame] at hchoice
  obtain ⟨r, hreply, -⟩ := written_of_choice hchoice
  rw [hlost] at hreply
  cases hreply

end EmailOwnership.Registry
