import EmailOwnership.Proofs.Memory.Step

/-! The codes that the store is given for an address.

Three writes bring a code: a creation, a first claim and a re-issue. A step issues the code
of its write if the write is granted (`issued?`); no other step changes the code of a record
that stays (`step_codeOrigin`). -/
namespace EmailOwnership.Store

/-- The code that a call asks the store to keep for an address. -/
def Call.codeFor? (address : String) : Call → Option String
  | .createEmail a _ code | .claimUnowned a _ code | .reissueCode a _ code =>
    if a = address then some code else none
  | _ => none

namespace Memory
variable {address : String} {call : Call} {s : State}

/-- The code that a step issues for an address: its write asks for it and is granted. -/
def issued? (address : String) (call : Call) (s : State) : Option String :=
  match (step call s).1 with
  | .ok (.record _) => call.codeFor? address
  | _ => none

/-- Where a code comes from that the address has after a step: the step issued it, or it issued
none and the record there had the code before. -/
def CodeOrigin (address : String) (call : Call) (s : State) (code : String) : Prop :=
  issued? address call s = some code ∨
    issued? address call s = none ∧ ∃ r, s.emails.get? address = some r ∧ r.code = code

/-- A step that stored `r` under some address. -/
theorem codeOrigin_put {a : String} {r : EmailRecord}
    (hcall : call.codeFor? address = if a = address then some r.code else none)
    (hstep : step call s = (.ok (.ofRecord? (some r)), {s with emails := s.emails.put a r}) ∨
      step call s = (.ok (.ofRecord? (some r)),
        {s with emails := s.emails.put a r, drawn := s.drawn + 1}))
    (r' : EmailRecord) (hr' : (step call s).2.emails.get? address = some r') :
    CodeOrigin address call s r'.code := by
  have hput : (step call s).2.emails = s.emails.put a r := by
    rcases hstep with h | h <;> rw [h]
  have hissued : issued? address call s = if a = address then some r.code else none := by
    unfold issued?
    rcases hstep with h | h <;> rw [h] <;> exact hcall
  rw [hput] at hr'
  rw [CodeOrigin, hissued]
  by_cases ha : a = address
  · subst ha
    rw [Table.get?_put_self] at hr'
    cases hr'
    exact .inl (if_pos rfl)
  · rw [Table.get?_put_of_ne _ _ fun h => ha h.symm] at hr'
    exact .inr ⟨if_neg ha, r', hr', rfl⟩

/-- **After a step a record has the code that the step issued, or the code that it had.** -/
theorem step_codeOrigin (call : Call) (s : State) (r' : EmailRecord)
    (hr' : (step call s).2.emails.get? address = some r') :
    CodeOrigin address call s r'.code := by
  have hlost : step call s = (.ok .nothing, s) → CodeOrigin address call s r'.code := by
    intro h
    rw [h] at hr'
    refine .inr ⟨?_, r', hr', rfl⟩
    unfold issued?
    rw [h]
  -- a call that brings no code for the address leaves the one that is there
  have hother : call.codeFor? address = none → CodeOrigin address call s r'.code := by
    intro hnone
    refine .inr ⟨?_, ?_⟩
    · unfold issued?
      split
      · exact hnone
      · rfl
    · have hc := (step_transition call s).change address
      rw [hr'] at hc
      generalize s.emails.get? address = old? at hc
      cases hc with
      | kept => exact ⟨r', rfl, rfl⟩
      | created hmade =>
        rw [← hmade] at hnone
        simp [Call.codeFor?] at hnone
      | claimed _ hmade =>
        rw [← hmade] at hnone
        simp [Call.codeFor?] at hnone
      | reissued _ _ hmade =>
        rw [← hmade] at hnone
        simp [Call.codeFor?] at hnone
      | verified _ _ => exact ⟨_, rfl, rfl⟩
  cases call with
  | createEmail a owner code =>
    cases ha : s.emails.get? a with
    | none => exact codeOrigin_put (r := s.fresh a owner code) rfl (.inr (step_create ha)) r' hr'
    | some r => exact hlost (step_create_known ha)
  | claimUnowned a account code =>
    by_cases hgranted : ∃ r, s.emails.get? a = some r ∧ r.owner = none
    · obtain ⟨r, ha, ho⟩ := hgranted
      exact codeOrigin_put (r := taken r account code) rfl (.inl (step_claim ha ho)) r' hr'
    · exact hlost (step_claim_lost fun r ha ho => hgranted ⟨r, ha, ho⟩)
  | reissueCode a account code =>
    by_cases hgranted : ∃ r, s.emails.get? a = some r ∧ r.owner = some account ∧ r.verified = false
    · obtain ⟨r, ha, ho, hv⟩ := hgranted
      exact codeOrigin_put (r := {r with code := code}) rfl (.inl (step_reissue ha ho hv)) r' hr'
    · refine hlost (step_reissue_lost fun r ha ho => ?_)
      cases hv : r.verified with
      | true => rfl
      | false => exact absurd ⟨r, ha, ho, hv⟩ hgranted
  | _ => exact hother rfl

/-! ### Looking a code up -/

theorem buildAccount_id {account : Uuid} {withRoles : Bool} {a : Account}
    (h : buildAccount account withRoles s = .ok a) : a.id = account := by
  unfold buildAccount at h
  split at h
  · split at h
    · split at h
      · cases h
        rfl
      · cases h
    · cases h
      rfl
  · cases h

/-- A look-up that finds an account read a record with this code, and the account owns it. -/
theorem step_accountByCode {code : String} {reply : Reply} {s' : State}
    (h : step (.accountByCode address code) s = (.ok reply, s')) :
    reply = .nothing ∨ ∃ r a, s.emails.get? address = some r ∧ r.owner = some a.id ∧
      r.code = code ∧ reply = .ofAccount? (some a) := by
  simp only [step] at h
  split at h
  · rename_i id stored owner code' verified hr
    split at h
    · rename_i hcode
      cases hb : buildAccount owner false s with
      | error e =>
        rw [hb] at h
        cases h
      | ok a =>
        rw [hb] at h
        cases h
        exact .inr ⟨_, a, hr, by rw [buildAccount_id hb], hcode, rfl⟩
    · cases h
      exact .inl rfl
  · cases h
    exact .inl rfl

end Memory
end EmailOwnership.Store
