import EmailOwnership.Proofs.Program.Atomic
import EmailOwnership.Proofs.Registry.Outcome
import EmailOwnership.Rehearsal.Step

/-! The one store call at which a registry operation takes effect.

A conditional write asks again for what a claim has read before, so it is granted exactly
when a fresh reading would have led to the same write; a write that is not granted ends in
an error and changes nothing. So each operation is `Atomic`, its look-ups and losses
included (`Action.program_atomic`). -/
namespace EmailOwnership

namespace Registry
open Rehearsal
open Store (Call Reply)
open Store.Memory (State step)
open Program (Atomic Yields)
variable {α : Type} {operation requestId address code : String} {details : Details}
  {account email : Uuid} {whole : Program α} {f : Reply → Program α} {c : Call}

theorem stored_bind_unsettled (a : α) :
    (stored operation details c >>= f).settled? ≠ some (.ok a) := by
  obtain ⟨next, hask, _⟩ := stored_bind_ask operation details c f
  rw [hask]
  intro h
  cases h

theorem stored_atomic
    (hstep : ∀ s reply s', step c s = (.ok reply, s') →
      (∃ a, (f reply).settled? = some (.ok a) ∧ whole.Yields s a s') ∨
        s' = s ∧ ∀ a, (f reply).settled? ≠ some (.ok a))
    (hnext : ∀ reply, Atomic whole (f reply)) : Atomic whole (stored operation details c >>= f) := by
  obtain ⟨next, hask, hok, herror⟩ := stored_bind_ask operation details c f
  have hfault : ∀ fault a, (next (.error fault)).settled? ≠ some (.ok a) := by
    intro fault a ha
    obtain ⟨e, he⟩ := herror fault
    rw [he] at ha
    cases ha
  rw [hask]
  refine .store (fun s => ?_) (fun m a => hfault _ a) fun reply => ?_
  · rcases hs : step c s with ⟨reply | reply, s'⟩
    · exact .inr ⟨Store.Memory.step_fault hs, hfault _⟩
    · dsimp only
      rw [hok]
      exact hstep s reply s' hs
  · cases reply with
    | ok reply =>
      rw [hok]
      exact hnext reply
    | error fault =>
      obtain ⟨e, he⟩ := herror fault
      exact .of_settled he

/-- An operation of a single call. -/
theorem stored_atomic_self
    (hsettled : ∀ reply, ∃ outcome, (f reply).settled? = some outcome)
    (hkept : ∀ s reply s', step c s = (.ok reply, s') →
      (∀ a, (f reply).settled? ≠ some (.ok a)) → s' = s) :
    Atomic (stored operation details c >>= f) (stored operation details c >>= f) := by
  refine stored_atomic (fun s reply s' hs => ?_) fun reply => ?_
  · obtain ⟨outcome, ho⟩ := hsettled reply
    cases outcome with
    | error e =>
      have hne : ∀ a, (f reply).settled? ≠ some (.ok a) := fun a ha => by
        rw [ho] at ha
        cases ha
      exact .inr ⟨hkept s reply s' hs hne, hne⟩
    | ok a =>
      refine .inl ⟨a, ho, fun sender context w hlive hw => ?_⟩
      rw [run_stored hlive (hw ▸ hs)]
      exact Program.run_of_settled ho sender context _
  · obtain ⟨outcome, ho⟩ := hsettled reply
    exact .of_settled ho

/-! ### Claims -/

/-- The second look of a re-issue that matched nothing only chooses the error. -/
theorem codeLost_settled (reply : Reply) :
    ∃ e, (codeLost details address reply).settled? = some (.error e) := by
  unfold codeLost
  split
  · exact ⟨_, rfl⟩
  · unfold Program.fieldOf
    split
    · rename_i verified _
      by_cases hv : verified.isTrue = true
      · exact ⟨_, by rw [Program.settled?_pure_bind, if_pos hv]; rfl⟩
      · exact ⟨_, by rw [Program.settled?_pure_bind, if_neg hv]; rfl⟩
    · exact ⟨_, rfl⟩

section Claims
variable (hcode : code ≠ "")
include hcode

theorem create_atomic :
    Atomic (add requestId account address code)
      (create (claimDetails requestId account address) account address code) := by
  refine stored_atomic (fun s reply s' hs => ?_) fun reply => ?_
  · cases hr : s.emails.get? address with
    | some r =>
      rw [Store.Memory.step_create_known hr] at hs
      cases hs
      exact .inr ⟨rfl, fun a ha => by cases ha⟩
    | none =>
      have hstep := hs
      rw [Store.Memory.step_create hr] at hs
      cases hs
      refine .inl ⟨_, rfl, fun sender context w hlive hw => ?_⟩
      subst hw
      rw [run_add hlive hcode, hr, claim_unknown, run_create hlive hr, hstep]
      exact ⟨rfl, rfl⟩
  · split <;> exact .of_settled rfl

theorem takeOver_atomic :
    Atomic (add requestId account address code)
      (takeOver (claimDetails requestId account address) account address code) := by
  refine stored_atomic (fun s reply s' hs => ?_) fun reply => ?_
  · by_cases hunowned : ∃ r, s.emails.get? address = some r ∧ r.owner = none
    · obtain ⟨r, hr, ho⟩ := hunowned
      have hstep := hs
      rw [Store.Memory.step_claim hr ho] at hs
      cases hs
      refine .inl ⟨_, rfl, fun sender context w hlive hw => ?_⟩
      subst hw
      rw [run_add hlive hcode, hr, claim_unowned ho, run_takeOver hlive hr ho, hstep]
      exact ⟨rfl, rfl⟩
    · rw [Store.Memory.step_claim_lost fun r hr ho => hunowned ⟨r, hr, ho⟩] at hs
      cases hs
      exact .inr ⟨rfl, fun a ha => by cases ha⟩
  · split <;> exact .of_settled rfl

theorem reissue_atomic :
    Atomic (add requestId account address code)
      (reissue (claimDetails requestId account address) account address code) := by
  refine stored_atomic (fun s reply s' hs => ?_) fun reply => ?_
  · by_cases hown : ∃ r, s.emails.get? address = some r ∧ r.owner = some account ∧
        r.verified = false
    · obtain ⟨r, hr, ho, hv⟩ := hown
      have hstep := hs
      rw [Store.Memory.step_reissue hr ho hv] at hs
      cases hs
      refine .inl ⟨_, rfl, fun sender context w hlive hw => ?_⟩
      subst hw
      rw [run_add hlive hcode, hr, claim_own ho hv, run_reissue hlive hr ho hv, hstep]
      exact ⟨rfl, rfl⟩
    · have hlost : ∀ r, s.emails.get? address = some r → r.owner = some account →
          r.verified = true := fun r hr ho =>
        Bool.not_eq_false _ |>.mp fun hv => hown ⟨r, hr, ho, hv⟩
      rw [Store.Memory.step_reissue_lost hlost] at hs
      cases hs
      exact .inr ⟨rfl, fun a => stored_bind_unsettled a⟩
  · split
    · refine stored_atomic (fun s current s' hs => ?_) fun current => ?_
      · obtain ⟨e, he⟩ := codeLost_settled current
        refine .inr ⟨?_, fun a ha => ?_⟩
        · cases hs
          rfl
        · rw [he] at ha
          cases ha
      · obtain ⟨e, he⟩ := codeLost_settled current
        exact .of_settled he
    · exact .of_settled rfl

/-- Whatever the reading was, the write that follows it is decided by its own guard. -/
theorem claim_atomic (reply : Reply) :
    Atomic (add requestId account address code)
      (claim (claimDetails requestId account address) account address code reply) := by
  unfold claim
  split
  · exact create_atomic hcode
  · unfold Program.fieldOf
    split
    · rename_i owner _
      show Atomic _ (if owner = .null then _ else _)
      split
      · exact takeOver_atomic hcode
      · split
        · exact .done
        · split
          · rename_i verified _
            show Atomic _ (if verified.isTrue then _ else _)
            split
            · exact .done
            · exact reissue_atomic hcode
          · exact .done
    · exact .done

end Claims

/-- A reading decides nothing yet. -/
theorem claim_unsettled (reply : Reply) (a : Reply) :
    (claim details account address code reply).settled? ≠ some (.ok a) := by
  unfold claim
  split
  · exact stored_bind_unsettled a
  · unfold Program.fieldOf
    split
    · rename_i owner _
      show (if owner = .null then takeOver details account address code else _ :
        Program Reply).settled? ≠ _
      split
      · exact stored_bind_unsettled a
      · split
        · exact fun h => by cases h
        · split
          · rename_i verified _
            show (if verified.isTrue then refuse .verified details else _ :
              Program Reply).settled? ≠ _
            split
            · exact fun h => by cases h
            · exact stored_bind_unsettled a
          · exact fun h => by cases h
    · exact fun h => by cases h

theorem add_atomic (requestId : String) (account : Uuid) (address code : String) :
    Atomic (add requestId account address code) (add requestId account address code) := by
  by_cases hcode : code = ""
  · subst hcode
    exact .of_settled rfl
  · have hatomic : ∀ reply, Atomic (add requestId account address code)
        (claim (claimDetails requestId account address) account address code reply) :=
      claim_atomic hcode
    suffices h : Atomic (add requestId account address code)
        (stored "add" (claimDetails requestId account address) (.getEmail address) >>=
          claim (claimDetails requestId account address) account address code) by
      rwa [← add_of_code hcode] at h
    refine stored_atomic (fun s reply s' hs => .inr ⟨?_, claim_unsettled reply⟩) hatomic
    cases hs
    rfl

theorem add_unsettled (requestId : String) (account : Uuid) (address code : String) (a : Reply) :
    (add requestId account address code).settled? ≠ some (.ok a) := by
  by_cases hcode : code = ""
  · subst hcode
    exact fun h => by cases h
  · rw [add_of_code hcode]
    exact stored_bind_unsettled a

/-! ### Operations of one call -/

theorem provision_atomic (requestId address code : String) :
    Atomic (provision requestId address code) (provision requestId address code) := by
  unfold provision
  split
  · exact .done
  · refine stored_atomic_self (fun reply => ?_) fun s reply s' hs hlost => ?_
    · split <;> exact ⟨_, rfl⟩
    · cases hr : s.emails.get? address with
      | some r =>
        rw [Store.Memory.step_create_known hr] at hs
        cases hs
        rfl
      | none =>
        rw [Store.Memory.step_create hr] at hs
        cases hs
        exact absurd rfl (hlost _)

theorem getCode_atomic (requestId address : String) :
    Atomic (getCode requestId address) (getCode requestId address) := by
  refine stored_atomic_self (fun reply => ?_) fun s reply s' hs _ => ?_
  · split
    · exact ⟨_, rfl⟩
    · unfold Program.fieldOf
      split <;> exact ⟨_, rfl⟩
  · cases hs
    rfl

/-- A look-up that answers with the store's own reply. -/
theorem stored_atomic_read (hread : c.isWrite = false) :
    Atomic (stored operation details c) (stored operation details c) := by
  rw [← Program.bind_pure (stored operation details c)]
  refine stored_atomic_self (fun reply => ⟨_, rfl⟩) fun s reply s' hs _ => ?_
  rw [← Store.Memory.step_of_read hread s, hs]

theorem verify_atomic (requestId : String) (account : Uuid) (address : String) :
    Atomic (verify requestId account address) (verify requestId account address) := by
  refine stored_atomic_self (fun reply => ?_) fun s reply s' hs hlost => ?_
  · split <;> exact ⟨_, rfl⟩
  · by_cases hown : ∃ r, s.emails.get? address = some r ∧ r.owner = some account
    · obtain ⟨r, hr, ho⟩ := hown
      rw [Store.Memory.step_mark hr ho] at hs
      cases hs
      exact absurd rfl (hlost ())
    · rw [Store.Memory.step_mark_lost fun r hr ho => hown ⟨r, hr, ho⟩] at hs
      cases hs
      rfl

theorem remove_atomic (requestId : String) (account email : Uuid) :
    Atomic (remove requestId account email) (remove requestId account email) := by
  have hsettled : ∀ affected : Reply,
      (if affected.isZero then Program.log (.nothingRemoved email account)
        else Program.log (.removed email account)).settled? = some (.ok ()) := by
    intro affected
    split <;> rfl
  exact stored_atomic_self (fun reply => ⟨_, hsettled reply⟩)
    fun s reply s' hs hlost => absurd (hsettled reply) (hlost ())

end Registry

/-! ### Actions -/

namespace Rehearsal
open Program (Atomic)

/-- Whether an action is a single registry operation. -/
def Action.isRegistry : Action → Bool
  | .add .. | .provision .. | .getCode .. | .lookupCode .. | .verify .. | .lookupAccount ..
  | .remove .. => true
  | _ => false

theorem Action.program?_isSome {a : Action} (ha : a.isRegistry = true) (requestId : String)
    (codeLength : Nat) : (a.program? requestId codeLength).isSome = true := by
  cases a with
  | add | provision | getCode | lookupCode | verify | lookupAccount | remove => rfl
  | _ => cases ha

/-- **A registry operation takes effect at one store call**, and does not succeed before it. -/
theorem Action.program_atomic {a : Action} (ha : a.isRegistry = true) {requestId : String}
    {codeLength : Nat} {program : Program Result}
    (h : a.program? requestId codeLength = some program) :
    Atomic program program ∧ ∀ result, program.settled? ≠ some (.ok result) := by
  cases a with
  | add account address code =>
    cases h
    exact ⟨(Registry.add_atomic ..).map _,
      Program.map_unsettled (fun a => Registry.add_unsettled _ _ _ _ a) _⟩
  | provision address code =>
    cases h
    refine ⟨(Registry.provision_atomic ..).map _, Program.map_unsettled (fun a => ?_) _⟩
    unfold Registry.provision
    split
    · exact fun h => by cases h
    · exact Registry.stored_bind_unsettled a
  | getCode address =>
    cases h
    exact ⟨(Registry.getCode_atomic ..).map _,
      Program.map_unsettled (fun a => Registry.stored_bind_unsettled a) _⟩
  | lookupCode address code =>
    cases h
    exact ⟨(Registry.stored_atomic_read rfl).map _, fun _ h => by cases h⟩
  | verify account address =>
    cases h
    exact ⟨(Registry.verify_atomic ..).map _,
      Program.map_unsettled (fun a => Registry.stored_bind_unsettled a) _⟩
  | lookupAccount address =>
    cases h
    exact ⟨(Registry.stored_atomic_read rfl).map _, fun _ h => by cases h⟩
  | remove account email =>
    cases h
    exact ⟨(Registry.remove_atomic ..).map _,
      Program.map_unsettled (fun a => Registry.stored_bind_unsettled a) _⟩
  | _ => cases ha

end Rehearsal
end EmailOwnership
