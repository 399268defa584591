import EmailOwnership.Entity
import EmailOwnership.Store.Value

/-! Rows with the fields of an entity.

A storage gives cells; nothing but the store's own care makes them an entity. So a row may
have any cell in any field. `EmailRow.ofRecord` and `AccountRow.ofAccount` give the rows of
entities; `EmailRow.record?` and `AccountRow.account?` read them back, if every cell has its
kind. -/
namespace EmailOwnership.Store

structure EmailRow where
  id : Value
  address : Value
  owner : Value
  code : Value
  verified : Value
  deriving DecidableEq, Inhabited

structure AuthenticationRow where
  id : Value
  service : Value
  identifier : Value
  deriving DecidableEq, Inhabited

structure RoleRow where
  id : Value
  name : Value
  deriving DecidableEq, Inhabited

structure AccountRow where
  id : Value
  handle : Value
  name : Value
  emails : List EmailRow
  authentication : List AuthenticationRow
  roles : List RoleRow
  tags : List Value
  deriving DecidableEq, Inhabited

/-! ### Rows of entities, and back -/

def EmailRow.ofRecord (r : EmailRecord) : EmailRow :=
  ⟨.uuid r.id, .text r.address, .ofOwner r.owner, .text r.code, .bool r.verified⟩

def EmailRow.record? : EmailRow → Option EmailRecord
  | ⟨.uuid id, .text address, .uuid owner, .text code, .bool verified⟩ =>
    some ⟨id, address, some owner, code, verified⟩
  | ⟨.uuid id, .text address, .null, .text code, .bool verified⟩ =>
    some ⟨id, address, none, code, verified⟩
  | _ => none

@[simp] theorem EmailRow.record?_ofRecord (r : EmailRecord) : (ofRecord r).record? = some r := by
  obtain ⟨id, address, owner, code, verified⟩ := r
  cases owner <;> rfl

def AuthenticationRow.ofMethod (m : AuthenticationMethod) : AuthenticationRow :=
  ⟨.uuid m.id, .text m.service, .text m.identifier⟩

def AuthenticationRow.method? : AuthenticationRow → Option AuthenticationMethod
  | ⟨.uuid id, .text service, .text identifier⟩ => some ⟨id, service, identifier⟩
  | _ => none

@[simp] theorem AuthenticationRow.method?_ofMethod (m : AuthenticationMethod) :
    (ofMethod m).method? = some m := rfl

def RoleRow.ofRole (r : Role) : RoleRow := ⟨.uuid r.id, .text r.name⟩

def RoleRow.role? : RoleRow → Option Role
  | ⟨.uuid id, .text name⟩ => some ⟨id, name⟩
  | _ => none

@[simp] theorem RoleRow.role?_ofRole (r : Role) : (ofRole r).role? = some r := rfl

def AccountRow.ofAccount (a : Account) : AccountRow :=
  ⟨.uuid a.id, .text a.handle, .text a.name, a.emails.map EmailRow.ofRecord,
    a.authentication.map AuthenticationRow.ofMethod, a.roles.map RoleRow.ofRole,
    a.tags.map Value.text⟩

def AccountRow.account? : AccountRow → Option Account
  | ⟨.uuid id, .text handle, .text name, emails, authentication, roles, tags⟩ => do
    pure ⟨id, handle, name, ← emails.mapM EmailRow.record?,
      ← authentication.mapM AuthenticationRow.method?, ← roles.mapM RoleRow.role?,
      ← tags.mapM Value.text?⟩
  | _ => none

/-- Reading each item back gives the items. -/
theorem mapM_map_eq_some {α β : Type} {f : α → β} {g : β → Option α} (h : ∀ a, g (f a) = some a)
    (l : List α) : (l.map f).mapM g = some l := by
  induction l with
  | nil => rfl
  | cons a rest ih => simp [List.mapM_cons, h, ih]

@[simp] theorem AccountRow.account?_ofAccount (a : Account) : (ofAccount a).account? = some a := by
  obtain ⟨id, handle, name, emails, authentication, roles, tags⟩ := a
  simp only [ofAccount, account?, mapM_map_eq_some EmailRow.record?_ofRecord,
    mapM_map_eq_some AuthenticationRow.method?_ofMethod, mapM_map_eq_some RoleRow.role?_ofRole,
    mapM_map_eq_some (g := Value.text?) (f := Value.text) fun _ => rfl]
  rfl

end EmailOwnership.Store
