import EmailOwnership.Proofs.Memory.Step

/-! How the memory store files its records.

A step edits the table of records in one of four ways (`Edit`), and touches nothing else but
the count of identifiers drawn. So records stay `Filed`: each under its own address, their
identifiers pairwise distinct and none of those still to be drawn. An identifier then names at
most one record, and a removal by it erases that one (`step_delete`). -/
namespace EmailOwnership.Store.Memory

/-! ### Editing the table of records -/

/-- What a step makes of the store. -/
inductive Edit (s : State) : State → Prop
  | nothing : Edit s s
  | create {address : String} {owner : Option Uuid} {code : String} :
    s.emails.get? address = none →
    Edit s {s with
      emails := s.emails.put address (s.fresh address owner code)
      drawn := s.drawn + 1}
  | replace {address : String} {r r' : EmailRecord} :
    s.emails.get? address = some r → r'.id = r.id → r'.address = r.address →
    Edit s {s with emails := s.emails.put address r'}
  | erase {address : String} {r : EmailRecord} :
    s.emails.get? address = some r → Edit s {s with emails := s.emails.erase address}

theorem step_edit (c : Call) (s : State) : Edit s (step c s).2 := by
  cases hc : c.isWrite with
  | false =>
    rw [step_of_read hc]
    exact .nothing
  | true =>
    cases c with
    | createEmail address owner code =>
      cases hr : s.emails.get? address with
      | some r =>
        rw [step_create_known hr]
        exact .nothing
      | none =>
        rw [step_create hr]
        exact .create hr
    | claimUnowned address account code =>
      simp only [step]
      split
      · rename_i r hr
        split
        · exact .replace hr rfl rfl
        · exact .nothing
      · exact .nothing
    | reissueCode address account code =>
      simp only [step]
      split
      · rename_i r hr
        split
        · exact .replace hr rfl rfl
        · exact .nothing
      · exact .nothing
    | markVerified address account =>
      simp only [step]
      split
      · rename_i r hr
        split
        · exact .replace hr rfl rfl
        · exact .nothing
      · exact .nothing
    | deleteEmail email account =>
      simp only [step]
      split
      · rename_i hfind
        exact .erase (Table.get?_eq_some_iff.2 (List.mem_of_find?_eq_some hfind))
      · exact .nothing
    | _ => cases hc

/-- Nothing but the records and the count of identifiers is edited. -/
theorem Edit.frame {s s' : State} (h : Edit s s') :
    s' = {s with emails := s'.emails, drawn := s'.drawn} := by
  cases h <;> rfl

/-! ### Records -/

/-- Every record stands under its own address, and no two share an identifier. -/
structure Keyed (s : State) : Prop where
  address : ∀ x r, s.emails.get? x = some r → r.address = x
  ids : ∀ x y r r', s.emails.get? x = some r → s.emails.get? y = some r' → r.id = r'.id → x = y

/-- Besides, no record has an identifier that is still to be drawn. -/
structure Filed (s : State) : Prop extends Keyed s where
  unused : ∀ x r, s.emails.get? x = some r → ∀ n, s.drawn < n → r.id ≠ .drawn n

theorem filed_of_no_records {s : State} (h : s.emails = .empty) : Filed s := by
  have hnone : ∀ x r, s.emails.get? x ≠ some r := fun x r hr => by simp [h] at hr
  exact ⟨⟨fun x r hr => absurd hr (hnone x r), fun x _ r _ hr => absurd hr (hnone x r)⟩,
    fun x r hr => absurd hr (hnone x r)⟩

section Filed
variable {s : State} (h : Filed s)
include h

theorem Filed.create {address : String} (owner : Option Uuid) (code : String) :
    Filed {s with
      emails := s.emails.put address (s.fresh address owner code)
      drawn := s.drawn + 1} := by
  -- each record is the new one, or one from before at another address
  have hcases : ∀ x r, (s.emails.put address (s.fresh address owner code)).get? x = some r →
      x = address ∧ r = s.fresh address owner code ∨ x ≠ address ∧ s.emails.get? x = some r := by
    intro x r hr
    rw [Table.get?_put] at hr
    split at hr
    · rename_i hx
      cases hr
      exact .inl ⟨hx.symm, rfl⟩
    · rename_i hx
      exact .inr ⟨fun e => hx e.symm, hr⟩
  refine ⟨⟨fun x r hr => ?_, fun x y r r' hr hr' hid => ?_⟩, fun x r hr => ?_⟩
  · rcases hcases x r hr with ⟨rfl, rfl⟩ | ⟨-, hr⟩
    · rfl
    · exact h.address x r hr
  · rcases hcases x r hr with ⟨hx, rfl⟩ | ⟨-, hr⟩ <;>
      rcases hcases y r' hr' with ⟨hy, rfl⟩ | ⟨-, hr'⟩
    · rw [hx, hy]
    · exact absurd hid.symm (h.unused y r' hr' _ (Nat.lt_succ_self _))
    · exact absurd hid (h.unused x r hr _ (Nat.lt_succ_self _))
    · exact h.ids x y r r' hr hr' hid
  · intro n hn heq
    replace hn : s.drawn + 1 < n := hn
    rcases hcases x r hr with ⟨-, rfl⟩ | ⟨-, hr⟩
    · exact absurd (Uuid.drawn_injective heq) (Nat.ne_of_lt hn)
    · exact h.unused x r hr n (Nat.lt_of_succ_lt hn) heq

theorem Filed.replace {address : String} {r r' : EmailRecord}
    (hr : s.emails.get? address = some r) (hid : r'.id = r.id) (haddress : r'.address = r.address) :
    Filed {s with emails := s.emails.put address r'} := by
  -- each record has a counterpart of the same identifier and address from before
  have hcases : ∀ x q, (s.emails.put address r').get? x = some q →
      ∃ q', s.emails.get? x = some q' ∧ q.id = q'.id ∧ q.address = q'.address := by
    intro x q hq
    rw [Table.get?_put] at hq
    split at hq
    · rename_i hx
      cases hq
      exact ⟨r, hx ▸ hr, hid, haddress⟩
    · exact ⟨q, hq, rfl, rfl⟩
  refine ⟨⟨fun x q hq => ?_, fun x y p q hp hq hpq => ?_⟩, fun x q hq => ?_⟩
  · obtain ⟨q', hq', -, ha⟩ := hcases x q hq
    rw [ha]
    exact h.address x q' hq'
  · obtain ⟨p', hp', hpid, -⟩ := hcases x p hp
    obtain ⟨q', hq', hqid, -⟩ := hcases y q hq
    exact h.ids x y p' q' hp' hq' (by rw [← hpid, ← hqid, hpq])
  · obtain ⟨q', hq', hqid, -⟩ := hcases x q hq
    rw [hqid]
    exact h.unused x q' hq'

theorem Filed.erase (address : String) : Filed {s with emails := s.emails.erase address} := by
  have hcases : ∀ x r, (s.emails.erase address).get? x = some r → s.emails.get? x = some r := by
    intro x r hr
    rw [Table.get?_erase] at hr
    split at hr
    · cases hr
    · exact hr
  exact ⟨⟨fun x r hr => h.address x r (hcases x r hr),
    fun x y r r' hr hr' hid => h.ids x y r r' (hcases x r hr) (hcases y r' hr') hid⟩,
    fun x r hr => h.unused x r (hcases x r hr)⟩

theorem Filed.edit {s' : State} (he : Edit s s') : Filed s' := by
  cases he with
  | nothing => exact h
  | create _ => exact h.create ..
  | replace hr hid haddress => exact h.replace hr hid haddress
  | erase _ => exact h.erase _

end Filed

/-- A removal that names a record by identifier and owner removes this record. -/
theorem step_delete {s : State} (h : Keyed s) {address : String} {r : EmailRecord} {account : Uuid}
    (hr : s.emails.get? address = some r) (ho : r.owner = some account) :
    step (.deleteEmail r.id account) s =
      (.ok (.count 1), {s with emails := s.emails.erase address}) := by
  simp only [step]
  cases hfind : s.emails.rows.find? fun q => decide (q.2.id = r.id ∧ q.2.owner = some account) with
  | none =>
    have hnone := List.find?_eq_none.1 hfind (address, r) (Table.get?_eq_some_iff.1 hr)
    simp [ho] at hnone
  | some q =>
    obtain ⟨x, r'⟩ := q
    have hq := List.find?_some hfind
    simp only [decide_eq_true_eq] at hq
    have hmem := Table.get?_eq_some_iff.2 (List.mem_of_find?_eq_some hfind)
    obtain rfl : x = address := h.ids x address r' r hmem hr hq.1
    rfl

/-- In any store, a removal does nothing, or erases a record of this identifier and owner. -/
theorem step_delete_cases (email account : Uuid) (s : State) :
    (step (.deleteEmail email account) s).2 = s ∨
      ∃ address r, s.emails.get? address = some r ∧ r.id = email ∧ r.owner = some account ∧
        (step (.deleteEmail email account) s).2 = {s with emails := s.emails.erase address} := by
  simp only [step]
  cases hfind : s.emails.rows.find? fun q => decide (q.2.id = email ∧ q.2.owner = some account) with
  | none => exact .inl rfl
  | some q =>
    have hq := List.find?_some hfind
    simp only [decide_eq_true_eq] at hq
    exact .inr ⟨q.1, q.2, Table.get?_eq_some_iff.2 (List.mem_of_find?_eq_some hfind), hq.1, hq.2, rfl⟩

theorem step_delete_lost {s : State} {email account : Uuid}
    (hnone : ∀ x r, s.emails.get? x = some r → r.id = email → r.owner ≠ some account) :
    step (.deleteEmail email account) s = (.ok (.count 0), s) := by
  simp only [step]
  cases hfind : s.emails.rows.find? fun q => decide (q.2.id = email ∧ q.2.owner = some account) with
  | none => rfl
  | some q =>
    have hq := List.find?_some hfind
    simp only [decide_eq_true_eq] at hq
    have hmem := Table.get?_eq_some_iff.2 (List.mem_of_find?_eq_some hfind)
    exact absurd hq.2 (hnone q.1 q.2 hmem hq.1)

end EmailOwnership.Store.Memory
