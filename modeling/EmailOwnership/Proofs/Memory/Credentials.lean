import EmailOwnership.Proofs.Memory.Accounts
import EmailOwnership.Proofs.Memory.Step
import EmailOwnership.Proofs.Password

/-! Credentials of the memory store.

Several accounts may have one handle, and an account may have any number of methods. A handle
stands for the first of its accounts that has a password method, and for the first hash of this
account (`State.login?`). Secrets of other services are not looked at: what a handle stands for
depends on the profiles and on the password hashes alone (`login?_congr`). Over the stores that
seeding comes to (`Reached`) the look-up never fails (`step_credential`). -/
namespace EmailOwnership.Store.Memory

/-! ### Password hashes -/

/-- The hashes of an account's password methods. -/
def State.hashes (s : State) (account : Uuid) : List String :=
  (((s.authentication.get? account).getD []).filter fun m => m.1.service == passwordService).map
    Prod.snd

/-- An account has this handle. -/
def State.Bears (s : State) (account : Uuid) (handle : String) : Prop :=
  ∃ profile, s.accounts.get? account = some profile ∧ profile.handle = handle

/-- The password hashes of all accounts can be read. -/
def State.Hashed (s : State) : Prop :=
  ∀ account, ∀ hash ∈ s.hashes account, Password.Readable hash

/-- The first account with this handle that has a password, and its first hash. -/
def State.login? (s : State) (handle : String) : Option (Uuid × String) :=
  s.accounts.rows.findSome? fun row =>
    if row.2.handle = handle then (s.hashes row.1).head?.map fun hash => (row.1, hash) else none

theorem passwordOf_eq {s : State} {account : Uuid} {methods : List (AuthenticationMethod × String)}
    (h : s.authentication.get? account = some methods) :
    passwordOf methods = (s.hashes account).head? := by
  simp [passwordOf, State.hashes, h]

section
variable {s s' : State} {handle hash : String} {account : Uuid}

/-- The account that a handle stands for has this handle and a password method with this hash. -/
theorem login?_sound (h : s.login? handle = some (account, hash)) :
    s.Bears account handle ∧ hash ∈ s.hashes account := by
  obtain ⟨⟨id, profile⟩, hrow, hfound⟩ := List.exists_of_findSome?_eq_some h
  dsimp only at hfound
  split at hfound
  · rename_i hhandle
    obtain ⟨found, hhead, heq⟩ := Option.map_eq_some_iff.1 hfound
    cases heq
    exact ⟨⟨profile, Table.get?_eq_some_iff.2 hrow, hhandle⟩, List.mem_of_head? hhead⟩
  · cases hfound

/-- A handle stands for nothing exactly if no account that has it has a password method. -/
theorem login?_eq_none_iff :
    s.login? handle = none ↔ ∀ account, s.Bears account handle → s.hashes account = [] := by
  simp only [State.login?, List.findSome?_eq_none_iff]
  constructor
  · rintro h account ⟨profile, hprofile, hhandle⟩
    have hrow := h (account, profile) (Table.get?_eq_some_iff.1 hprofile)
    simpa [hhandle] using hrow
  · rintro h ⟨account, profile⟩ hrow
    by_cases hhandle : profile.handle = handle
    · simp [h account ⟨profile, Table.get?_eq_some_iff.2 hrow, hhandle⟩]
    · simp [hhandle]

/-- **Only profiles and password hashes tell what a handle stands for.** -/
theorem login?_congr (haccounts : s.accounts = s'.accounts) (hhashes : s.hashes = s'.hashes)
    (handle : String) : s.login? handle = s'.login? handle := by
  simp only [State.login?, haccounts, hhashes]

/-! ### The look-up -/

/-- Where the methods of all these accounts are there, the look-up finds the first password. -/
theorem credential_eq (h : Linked s) (handle : String) {rows : List (Uuid × Profile)}
    (hrows : ∀ row ∈ rows, s.knows row.1 = true) :
    credential handle s rows = .ok (rows.findSome? fun row =>
      if row.2.handle = handle then (s.hashes row.1).head?.map fun hash => (row.1, hash)
      else none) := by
  induction rows with
  | nil => rfl
  | cons row rest ih =>
    obtain ⟨account, profile⟩ := row
    have hrest := ih fun row hrow => hrows row (List.mem_cons_of_mem _ hrow)
    obtain ⟨methods, hmethods⟩ := Option.isSome_iff_exists.1
      ((h.authentication account).trans (hrows _ (List.mem_cons_self ..)))
    unfold credential
    rw [List.findSome?_cons]
    by_cases hhandle : profile.handle = handle
    · simp only [hhandle, ne_eq, not_true_eq_false, if_false, if_true, hmethods,
        passwordOf_eq hmethods, hrest]
      cases (s.hashes account).head? with
      | none => rfl
      | some hash => rfl
    · simp only [hhandle, ne_eq, not_false_eq_true, if_true, if_false, hrest]

theorem credential_of_linked (h : Linked s) (handle : String) :
    credential handle s s.accounts.rows = .ok (s.login? handle) :=
  credential_eq h handle fun row hrow =>
    Option.isSome_iff_exists.2 ⟨row.2, Table.get?_eq_some_iff.2 hrow⟩

/-- **The look-up of a credential answers with what the handle stands for.** -/
theorem step_credential (h : Linked s) (handle : String) :
    step (.passwordCredential handle) s = (.ok (.ofCredential? (s.login? handle)), s) := by
  simp only [step, credential_of_linked h, Except.map]

end

/-! ### Stores that seeding comes to -/

/-- The stores that come of the empty one by seeding, also where calls come between. -/
inductive Reached : State → Prop
  | empty : Reached .empty
  | account {s : State} (handle : String) (name : Option String) (id : Option Uuid) :
    Reached s → Reached (addAccount handle name id s).2
  | password {s : State} (account : Uuid) (hash : String) :
    Reached s → Reached (addPassword account hash s).2
  | method {s : State} (account : Uuid) (method : AuthenticationMethod) (secret : String) :
    Reached s → Reached (addMethod account method secret s).2
  | role {s : State} (account : Uuid) (name : String) :
    Reached s → Reached (addRole account name s).2
  | tag {s : State} (account : Uuid) (name : String) :
    Reached s → Reached (addTag account name s).2
  | record {s : State} (record : EmailRecord) : Reached s → Reached (putRecord record s)
  | call {s : State} (c : Call) : Reached s → Reached (step c s).2

theorem Reached.linked {s : State} (h : Reached s) : Linked s := by
  induction h with
  | empty => exact linked_empty
  | account handle name id _ ih => exact ih.addAccount handle name id
  | password account hash _ ih => exact ih.addPassword account hash
  | method account method secret _ ih => exact ih.addMethod account method secret
  | role account name _ ih => exact ih.addRole account name
  | tag account name _ ih => exact ih.addTag account name
  | record record _ ih => exact ⟨ih.authentication, ih.roles, ih.tags⟩
  | call c _ ih => exact ih.edit (step_edit c _)

/-- The store with one account and this text for its password hash. -/
def aliceWith (hash : String) : State :=
  (addMethod ⟨1⟩ ⟨⟨2⟩, passwordService, "alice"⟩ hash (addAccount "alice" none (some ⟨1⟩) .empty).2).2

theorem aliceWith_reached (hash : String) : Reached (aliceWith hash) :=
  .method _ _ _ (.account _ _ _ .empty)

end EmailOwnership.Store.Memory
