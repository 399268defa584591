import EmailOwnership.Proofs.Memory.Transition

/-! What each step of the memory store answers.

A conditional write is granted or lost by the record that stands at its address; lost
writes change nothing, and no more do look-ups. A call under a context is such a step, or
is refused (`perform_cases`). -/
namespace EmailOwnership.Store.Memory

/-! ### Seeding -/

/-- Seeding leaves the records alone. -/
theorem addAccount_emails (handle : String) (name : Option String) (id : Option Uuid) (s : State) :
    (addAccount handle name id s).2.emails = s.emails := by
  cases id <;> rfl

theorem addMethod_emails (account : Uuid) (method : AuthenticationMethod) (secret : String)
    (s : State) : (addMethod account method secret s).2.emails = s.emails := by
  unfold addMethod
  split <;> rfl

theorem addPassword_emails (account : Uuid) (hash : String) (s : State) :
    (addPassword account hash s).2.emails = s.emails := by
  unfold addPassword
  split
  · rfl
  · exact addMethod_emails ..

theorem addRole_emails (account : Uuid) (name : String) (s : State) :
    (addRole account name s).2.emails = s.emails := by
  unfold addRole
  split <;> rfl

theorem addTag_emails (account : Uuid) (name : String) (s : State) :
    (addTag account name s).2.emails = s.emails := by
  unfold addTag
  split <;> rfl

/-! ### Look-ups -/

theorem step_of_read {c : Call} (hc : c.isWrite = false) (s : State) : (step c s).2 = s := by
  cases c with
  | accountByCode address code =>
    simp only [step]
    split
    · split <;> rfl
    · rfl
  | accountByEmail address =>
    simp only [step]
    split <;> rfl
  | createEmail => cases hc
  | claimUnowned => cases hc
  | reissueCode => cases hc
  | markVerified => cases hc
  | deleteEmail => cases hc
  | _ => rfl

/-! ### Conditional writes -/

section Writes
variable {s : State} {address code : String} {account : Uuid}

/-- The record that a first claim makes of an unowned one. -/
def taken (r : EmailRecord) (account : Uuid) (code : String) : EmailRecord :=
  {r with owner := some account, code := code, verified := false}

/-- The record that the next creation makes. -/
def State.fresh (s : State) (address : String) (owner : Option Uuid) (code : String) :
    EmailRecord :=
  ⟨.drawn (s.drawn + 1), address, owner, code, false⟩

theorem step_create {owner : Option Uuid} (h : s.emails.get? address = none) :
    step (.createEmail address owner code) s =
      (.ok (.ofRecord? (some (s.fresh address owner code))),
        {s with
          emails := s.emails.put address (s.fresh address owner code)
          drawn := s.drawn + 1}) := by
  simp only [step, h]
  rfl

theorem step_create_known {owner : Option Uuid} {r : EmailRecord}
    (h : s.emails.get? address = some r) :
    step (.createEmail address owner code) s = (.ok .nothing, s) := by
  simp only [step, h]

theorem step_claim {r : EmailRecord} (h : s.emails.get? address = some r) (hr : r.owner = none) :
    step (.claimUnowned address account code) s =
      (.ok (.ofRecord? (some (taken r account code))),
        {s with emails := s.emails.put address (taken r account code)}) := by
  simp only [step, h, hr, Option.isNone_none, if_true]
  rfl

theorem step_claim_lost (h : ∀ r, s.emails.get? address = some r → r.owner ≠ none) :
    step (.claimUnowned address account code) s = (.ok .nothing, s) := by
  simp only [step]
  split
  · rename_i r hr
    rw [if_neg]
    exact fun e => h r hr (Option.isNone_iff_eq_none.1 e)
  · rfl

theorem step_reissue {r : EmailRecord} (h : s.emails.get? address = some r)
    (hr : r.owner = some account) (hv : r.verified = false) :
    step (.reissueCode address account code) s =
      (.ok (.ofRecord? (some {r with code := code})),
        {s with emails := s.emails.put address {r with code := code}}) := by
  simp only [step, h, hr, hv, and_self, if_true]

theorem step_reissue_lost
    (h : ∀ r, s.emails.get? address = some r → r.owner = some account → r.verified = true) :
    step (.reissueCode address account code) s = (.ok .nothing, s) := by
  simp only [step]
  split
  · rename_i r hr
    rw [if_neg]
    rintro ⟨ho, hv⟩
    rw [h r hr ho] at hv
    cases hv
  · rfl

theorem step_mark {r : EmailRecord} (h : s.emails.get? address = some r)
    (hr : r.owner = some account) :
    step (.markVerified address account) s =
      (.ok (.count 1), {s with emails := s.emails.put address {r with verified := true}}) := by
  simp only [step, h, hr, if_true]

theorem step_mark_lost (h : ∀ r, s.emails.get? address = some r → r.owner ≠ some account) :
    step (.markVerified address account) s = (.ok (.count 0), s) := by
  simp only [step]
  split
  · rename_i r hr
    rw [if_neg (h r hr)]
  · rfl

/-- A mark verifies the record at its own address, for its own account, and changes nothing else
of it. -/
theorem mark_verifies {address' : String} {r r' : EmailRecord}
    (hr : s.emails.get? address' = some r)
    (hr' : (step (.markVerified address account) s).2.emails.get? address' = some r')
    (hv : r.verified = false) (hv' : r'.verified = true) :
    address' = address ∧ r.owner = some account ∧ r' = {r with verified := true} := by
  have hc := (step_transition (.markVerified address account) s).change address'
  rw [hr, hr'] at hc
  cases hc with
  | kept =>
    rw [hv] at hv'
    cases hv'
  | claimed _ hmade => cases hmade
  | reissued _ _ hmade => cases hmade
  | verified ho hmade =>
    cases hmade
    exact ⟨rfl, ho, rfl⟩

end Writes

/-- A write always has an answer. -/
theorem step_write_answers {c : Call} (hc : c.isWrite = true) (s : State) :
    ∃ reply, (step c s).1 = .ok reply := by
  cases c with
  | createEmail address owner code =>
    cases hr : s.emails.get? address with
    | none => exact ⟨_, congrArg Prod.fst (step_create hr)⟩
    | some r => exact ⟨_, congrArg Prod.fst (step_create_known hr)⟩
  | claimUnowned address account code =>
    simp only [step]
    split
    · split <;> exact ⟨_, rfl⟩
    · exact ⟨_, rfl⟩
  | reissueCode address account code =>
    simp only [step]
    split
    · split <;> exact ⟨_, rfl⟩
    · exact ⟨_, rfl⟩
  | markVerified address account =>
    simp only [step]
    split
    · split <;> exact ⟨_, rfl⟩
    · exact ⟨_, rfl⟩
  | deleteEmail email account =>
    simp only [step]
    split <;> exact ⟨_, rfl⟩
  | _ => cases hc

/-- A step that fails changes nothing: only look-ups fail. -/
theorem step_fault {c : Call} {s s' : State} {fault : Fault} (h : step c s = (.error fault, s')) :
    s' = s := by
  cases hc : c.isWrite with
  | false => rw [← step_of_read hc s, h]
  | true =>
    obtain ⟨reply, hreply⟩ := step_write_answers hc s
    rw [h] at hreply
    cases hreply

/-! ### Calls under a context -/

section Perform
variable {κ : Type} {context : Context κ} {now : Float}

theorem perform_live (h : context.isDone now = false) (c : Call) (s : State) :
    perform context now c s = step c s := by
  unfold perform
  rw [(Context.check_eq_ok_iff context now).2 h]

theorem perform_done (h : context.isDone now = true) (c : Call) (s : State) :
    ∃ m, perform context now c s = (.error (.interrupted m), s) := by
  unfold perform
  cases hc : context.check now with
  | ok u =>
    rw [(Context.check_eq_ok_iff context now).1 hc] at h
    cases h
  | error i => exact ⟨_, rfl⟩

/-- A call under a context is a step of the store, or the request is done and nothing happens. -/
theorem perform_cases (context : Context κ) (now : Float) (c : Call) (s : State) :
    context.isDone now = false ∧ perform context now c s = step c s ∨
      context.isDone now = true ∧ ∃ m, perform context now c s = (.error (.interrupted m), s) := by
  cases h : context.isDone now with
  | false => exact .inl ⟨rfl, perform_live h c s⟩
  | true => exact .inr ⟨rfl, perform_done h c s⟩

end Perform
end EmailOwnership.Store.Memory
