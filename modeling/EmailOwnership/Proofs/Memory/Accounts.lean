import EmailOwnership.Proofs.Memory.Filing

/-! Accounts of the memory store.

Seeding puts the edges of an account beside it, and no step of the store takes them away or
touches accounts at all (`Linked`). So the account of an owner that was seeded can always be
built (`buildAccount_of_linked`), and look-ups of its addresses do not fail. -/
namespace EmailOwnership.Store.Memory

/-- The edges of an account stand beside it: the four tables have the same keys. -/
structure Linked (s : State) : Prop where
  authentication : ∀ account, (s.authentication.get? account).isSome = (s.accounts.get? account).isSome
  roles : ∀ account, (s.roles.get? account).isSome = (s.accounts.get? account).isSome
  tags : ∀ account, (s.tags.get? account).isSome = (s.accounts.get? account).isSome

/-- Whether an account has been seeded. -/
def State.knows (s : State) (account : Uuid) : Bool := (s.accounts.get? account).isSome

theorem linked_empty : Linked .empty := ⟨fun _ => rfl, fun _ => rfl, fun _ => rfl⟩

theorem Linked.edit {s s' : State} (h : Linked s) (he : Edit s s') : Linked s' := by
  cases he <;> exact ⟨h.authentication, h.roles, h.tags⟩

theorem Edit.knows {s s' : State} (he : Edit s s') : s'.knows = s.knows := by
  cases he <;> rfl

theorem buildAccount_of_linked {s : State} (h : Linked s) {account : Uuid}
    (hknown : s.knows account = true) (withRoles : Bool) :
    ∃ a, buildAccount account withRoles s = .ok a := by
  obtain ⟨profile, hp⟩ := Option.isSome_iff_exists.1 hknown
  obtain ⟨methods, hm⟩ := Option.isSome_iff_exists.1 ((h.authentication account).trans hknown)
  obtain ⟨roles, hr⟩ := Option.isSome_iff_exists.1 ((h.roles account).trans hknown)
  obtain ⟨tags, ht⟩ := Option.isSome_iff_exists.1 ((h.tags account).trans hknown)
  cases withRoles <;> simp [buildAccount, hp, hm, hr, ht]

/-! ### Seeding -/

theorem isSome_get?_put {κ α : Type} [DecidableEq κ] (t : Table κ α) (k k' : κ) (a : α) :
    ((t.put k' a).get? k).isSome = (decide (k' = k) || (t.get? k).isSome) := by
  rw [Table.get?_put]
  by_cases h : k' = k <;> simp [h]

theorem isSome_get?_putIfAbsent {κ α : Type} [DecidableEq κ] (t : Table κ α) (k k' : κ) (a : α) :
    ((t.putIfAbsent k' a).get? k).isSome = (decide (k' = k) || (t.get? k).isSome) := by
  unfold Table.putIfAbsent Table.contains
  split
  · rename_i hsome
    by_cases h : k' = k
    · subst h
      simp [hsome]
    · simp [h]
  · exact isSome_get?_put ..

/-- Storing under a key that has a row leaves the keys as they are. -/
theorem isSome_get?_put_of_some {κ α : Type} [DecidableEq κ] {t : Table κ α} {k : κ} {b : α}
    (h : t.get? k = some b) (a : α) (k' : κ) : ((t.put k a).get? k').isSome = (t.get? k').isSome := by
  rw [isSome_get?_put]
  by_cases hk : k = k'
  · subst hk
    simp [h]
  · simp [hk]

theorem Linked.addAccount {s : State} (h : Linked s) (handle : String) (name : Option String)
    (id : Option Uuid) : Linked (addAccount handle name id s).2 := by
  have hput : ∀ (s : State) (account : Uuid) (p : Profile), Linked s → Linked {s with
      accounts := s.accounts.put account p
      authentication := s.authentication.putIfAbsent account []
      roles := s.roles.putIfAbsent account []
      tags := s.tags.putIfAbsent account []} := by
    intro s account p h
    constructor <;> intro other <;> simp only [isSome_get?_put, isSome_get?_putIfAbsent]
    · rw [h.authentication]
    · rw [h.roles]
    · rw [h.tags]
  cases id with
  | some id => exact hput s id _ h
  | none => exact hput s.draw.2 s.draw.1 _ ⟨h.authentication, h.roles, h.tags⟩

theorem Linked.addMethod {s : State} (h : Linked s) (account : Uuid) (method : AuthenticationMethod)
    (secret : String) : Linked (addMethod account method secret s).2 := by
  unfold Memory.addMethod
  split
  · exact h
  · rename_i methods hm
    exact ⟨fun other => (isSome_get?_put_of_some hm _ other).trans (h.authentication other),
      h.roles, h.tags⟩

theorem Linked.addPassword {s : State} (h : Linked s) (account : Uuid) (hash : String) :
    Linked (addPassword account hash s).2 := by
  unfold Memory.addPassword
  split
  · exact h
  · exact Linked.addMethod (s := s.draw.2) ⟨h.authentication, h.roles, h.tags⟩ ..

theorem Linked.addRole {s : State} (h : Linked s) (account : Uuid) (name : String) :
    Linked (addRole account name s).2 := by
  unfold Memory.addRole
  split
  · exact h
  · rename_i roles hr
    exact ⟨h.authentication, fun other => (isSome_get?_put_of_some hr _ other).trans (h.roles other),
      h.tags⟩

theorem Linked.addTag {s : State} (h : Linked s) (account : Uuid) (name : String) :
    Linked (addTag account name s).2 := by
  unfold Memory.addTag
  split
  · exact h
  · rename_i tags ht
    exact ⟨h.authentication, h.roles,
      fun other => (isSome_get?_put_of_some ht _ other).trans (h.tags other)⟩

end EmailOwnership.Store.Memory
