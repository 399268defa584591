import EmailOwnership.Proofs.Database.Ask
import EmailOwnership.Proofs.Memory.Filing
import EmailOwnership.Store.Database.EmailTable

/-! The table of records as a mirror of the memory store.

A table mirrors the records of the memory store if it has their rows, in the same order, up to a
renaming of identifiers (`Mirrors`). The statement of a call then does to the table what the
call's step does to the records, and reads the same off it (`apply_mirrors`). -/
namespace EmailOwnership

def EmailRecord.rename (ρ : Uuid → Uuid) (r : EmailRecord) : EmailRecord := {r with id := ρ r.id}

namespace Store
open Database

/-! ### Renaming -/

/-- Only identifiers are renamed. -/
def EmailRow.rename (ρ : Uuid → Uuid) (row : EmailRow) : EmailRow :=
  match row.id with
  | .uuid u => {row with id := .uuid (ρ u)}
  | _ => row

def Call.rename (ρ : Uuid → Uuid) : Call → Call
  | .deleteEmail email account => .deleteEmail (ρ email) account
  | c => c

def Reply.rename (ρ : Uuid → Uuid) : Reply → Reply
  | .record row => .record (row.rename ρ)
  | reply => reply

@[simp] theorem onRecords_rename (ρ : Uuid → Uuid) (c : Call) :
    (c.rename ρ).onRecords = c.onRecords := by cases c <;> rfl

@[simp] theorem draws_rename (ρ : Uuid → Uuid) (c : Call) : (c.rename ρ).draws = c.draws := by
  cases c <;> rfl

/-! To rename nothing is no change. -/

@[simp] theorem EmailRow.rename_self (row : EmailRow) : row.rename (fun u => u) = row := by
  obtain ⟨id, address, owner, code, verified⟩ := row
  cases id <;> rfl

@[simp] theorem Call.rename_self (c : Call) : c.rename (fun u => u) = c := by cases c <;> rfl

@[simp] theorem Reply.rename_self (reply : Reply) : reply.rename (fun u => u) = reply := by
  cases reply <;> simp [Reply.rename]

namespace Database
open Store.Memory (Keyed step)

/-- The row of a record under a renaming. -/
def rowOf (ρ : Uuid → Uuid) (r : EmailRecord) : EmailRow := .ofRecord (r.rename ρ)

/-- The rows are those of the records. -/
def Mirrors (ρ : Uuid → Uuid) (m : Memory.State) (rows : List EmailRow) : Prop :=
  rows = m.emails.values.map (rowOf ρ)

/-! ### Tests on the rows of records -/

section Tests
variable (ρ : Uuid → Uuid) (r : EmailRecord)

@[simp] theorem holds_address (x : String) :
    RowTest.holds (rowOf ρ r) (.equals .address (.text x)) = decide (r.address = x) := by
  simp [RowTest.holds, EmailRow.get, rowOf, EmailRow.ofRecord, EmailRecord.rename]

@[simp] theorem holds_account (u : Uuid) :
    RowTest.holds (rowOf ρ r) (.equals .account (.uuid u)) = decide (r.owner = some u) := by
  cases h : r.owner <;>
    simp [RowTest.holds, EmailRow.get, rowOf, EmailRow.ofRecord, EmailRecord.rename, Value.ofOwner, h]

@[simp] theorem holds_unowned :
    RowTest.holds (rowOf ρ r) (.isNull .account) = decide (r.owner = none) := by
  cases h : r.owner <;>
    simp [RowTest.holds, EmailRow.get, rowOf, EmailRow.ofRecord, EmailRecord.rename, Value.ofOwner, h]

@[simp] theorem holds_verified (b : Bool) :
    RowTest.holds (rowOf ρ r) (.equals .verified (.bool b)) = decide (r.verified = b) := by
  simp [RowTest.holds, EmailRow.get, rowOf, EmailRow.ofRecord, EmailRecord.rename]

@[simp] theorem holds_id (u : Uuid) :
    RowTest.holds (rowOf ρ r) (.equals .id (.uuid u)) = decide (ρ r.id = u) := by
  simp [RowTest.holds, EmailRow.get, rowOf, EmailRow.ofRecord, EmailRecord.rename]

end Tests

/-! ### Statements on mirrored rows -/

section Statements
variable {ρ : Uuid → Uuid} {m : Memory.State} {rows : List EmailRow}

/-- Tests that only rows of one address pass select the row of this address. -/
theorem filter_of_address (hkeyed : Keyed m) (hrows : Mirrors ρ m rows) {x : String}
    {tests : List RowTest} (htests : .equals .address (.text x) ∈ tests) :
    rows.filter (allHold tests) =
      ((m.emails.get? x).toList.map (rowOf ρ)).filter (allHold tests) := by
  rw [hrows]
  refine Table.filter_map_values fun q b hb hpass => ?_
  have hholds := List.all_eq_true.1 hpass _ htests
  rw [holds_address, decide_eq_true_eq] at hholds
  rw [← hkeyed.address q b hb, hholds]

/-- A row of the table is the row of a record. -/
theorem Mirrors.mem_iff (hrows : Mirrors ρ m rows) {row : EmailRow} :
    row ∈ rows ↔ ∃ y r, m.emails.get? y = some r ∧ rowOf ρ r = row := by
  rw [hrows, List.mem_map]
  constructor
  · rintro ⟨r, hr, rfl⟩
    obtain ⟨y, hy⟩ := Table.mem_values_iff.1 hr
    exact ⟨y, r, hy, rfl⟩
  · rintro ⟨y, r, hy, rfl⟩
    exact ⟨r, Table.mem_values_iff.2 ⟨y, hy⟩, rfl⟩

section Update
variable {x : String} {tests : List RowTest} {cells : List (Column × Value)}
  (hkeyed : Keyed m) (hrows : Mirrors ρ m rows) (htests : .equals .address (.text x) ∈ tests)
include hkeyed hrows htests

/-- An update of the row that a record has is an update of the record. -/
theorem update_granted {r r' : EmailRecord} (hr : m.emails.get? x = some r)
    (hpass : allHold tests (rowOf ρ r) = true)
    (hassign : EmailRow.assign cells (rowOf ρ r) = rowOf ρ r') :
    (rows.filter (allHold tests)).map (EmailRow.assign cells) = [rowOf ρ r'] ∧
      (rows.map fun row => if allHold tests row then EmailRow.assign cells row else row) =
        (m.emails.put x r').values.map (rowOf ρ) := by
  constructor
  · rw [filter_of_address hkeyed hrows htests, hr]
    simp [hpass, hassign]
  · rw [hrows]
    refine (Table.map_values_put hr ?_ fun q b hb hq => ?_).symm
    · rw [if_pos hpass, hassign]
    · rw [if_neg]
      intro hpassb
      have hholds := List.all_eq_true.1 hpassb _ htests
      rw [holds_address, decide_eq_true_eq, hkeyed.address q b hb] at hholds
      exact hq hholds

/-- An update whose tests the row of its address does not pass changes nothing. -/
theorem update_lost (cells : List (Column × Value))
    (hfail : ∀ r, m.emails.get? x = some r → allHold tests (rowOf ρ r) = false) :
    rows.filter (allHold tests) = [] ∧
      (rows.map fun row => if allHold tests row then EmailRow.assign cells row else row) = rows := by
  have hnone : rows.filter (allHold tests) = [] := by
    rw [filter_of_address hkeyed hrows htests]
    cases hr : m.emails.get? x with
    | none => rfl
    | some r => simp [hfail r hr]
  refine ⟨hnone, ?_⟩
  rw [List.filter_eq_nil_iff] at hnone
  calc
    _ = rows.map fun row => row := List.map_congr_left fun row hrow => if_neg (hnone row hrow)
    _ = rows := List.map_id' rows

end Update

/-! ### Calls -/

/-- The statement does to the rows what the call's step does to the records, and the same is read
off it. -/
def Follows (ρ : Uuid → Uuid) (m : Memory.State) (rows : List EmailRow) (c : Call) (a : Ask) : Prop :=
  ∃ result rows', a.statement.applyTo? a.parameters rows = some (result, rows') ∧
    a.read result = (step c m).1.map (Reply.rename ρ) ∧ Mirrors ρ (step c m).2 rows'

section Calls
variable {x code : String} {account u : Uuid} {a : Ask} (hkeyed : Keyed m)
  (hrows : Mirrors ρ m rows)
include hkeyed hrows

theorem follows_get (ha : (Call.getEmail x).ask? u = some a) :
    Follows ρ m rows (.getEmail x) a := by
  cases ha
  refine ⟨returned recordColumns (rows.filter (allHold [.equals .address (.text x)])), rows, rfl, ?_,
    hrows⟩
  rw [filter_of_address hkeyed hrows (List.mem_singleton.2 rfl)]
  cases hr : m.emails.get? x with
  | none => simp [step, hr]; rfl
  | some r =>
    have hpass : allHold [.equals .address (.text x)] (rowOf ρ r) = true := by
      simp [allHold, hkeyed.address x r hr]
    simp [step, hr, hpass]
    rfl

/-- An update by address follows a step that is granted where the row passes the tests, and lost
elsewhere. -/
theorem follows_update {c : Call} {returning : List Column} (x : String) (tests : List RowTest)
    (cells : List (Column × Value))
    (hstatement : a.statement.applyTo? a.parameters rows =
      some (returned returning ((rows.filter (allHold tests)).map (EmailRow.assign cells)),
        rows.map fun row => if allHold tests row then EmailRow.assign cells row else row))
    (htests : .equals .address (.text x) ∈ tests)
    (hstep : (∃ r r', m.emails.get? x = some r ∧ allHold tests (rowOf ρ r) = true ∧
        EmailRow.assign cells (rowOf ρ r) = rowOf ρ r' ∧
        a.read (returned returning [rowOf ρ r']) = (step c m).1.map (Reply.rename ρ) ∧
        (step c m).2.emails = m.emails.put x r') ∨
      (∀ r, m.emails.get? x = some r → allHold tests (rowOf ρ r) = false) ∧
        a.read (returned returning []) = (step c m).1.map (Reply.rename ρ) ∧ (step c m).2 = m) :
    Follows ρ m rows c a := by
  refine ⟨_, _, hstatement, ?_⟩
  rcases hstep with ⟨r, r', hr, hpass, hassign, hread, hput⟩ | ⟨hfail, hread, hkept⟩
  · obtain ⟨hreturned, hupdated⟩ := update_granted hkeyed hrows htests hr hpass hassign
    rw [hreturned, hupdated, Mirrors, hput]
    exact ⟨hread, rfl⟩
  · obtain ⟨hreturned, hupdated⟩ := update_lost hkeyed hrows htests cells hfail
    rw [hreturned, hupdated, hkept]
    exact ⟨hread, hrows⟩

theorem follows_claim (ha : (Call.claimUnowned x account code).ask? u = some a) :
    Follows ρ m rows (.claimUnowned x account code) a := by
  cases ha
  refine follows_update hkeyed hrows x [.equals .address (.text x), .isNull .account]
    [(.account, .uuid account), (.code, .text code), (.verified, .bool false)] rfl (by simp) ?_
  by_cases h : ∃ r, m.emails.get? x = some r ∧ r.owner = none
  · obtain ⟨r, hr, ho⟩ := h
    rw [Memory.step_claim hr ho]
    exact .inl ⟨r, _, hr, by simp [allHold, hkeyed.address x r hr, ho], rfl, rfl, rfl⟩
  · have hlost : ∀ r, m.emails.get? x = some r → r.owner ≠ none := fun r hr ho => h ⟨r, hr, ho⟩
    rw [Memory.step_claim_lost hlost]
    exact .inr ⟨fun r hr => by simp [allHold, hlost r hr], rfl, rfl⟩

theorem follows_reissue (ha : (Call.reissueCode x account code).ask? u = some a) :
    Follows ρ m rows (.reissueCode x account code) a := by
  cases ha
  refine follows_update hkeyed hrows x [.equals .address (.text x), .equals .account (.uuid account),
    .equals .verified (.bool false)] [(.code, .text code)] rfl (by simp) ?_
  by_cases h : ∃ r, m.emails.get? x = some r ∧ r.owner = some account ∧ r.verified = false
  · obtain ⟨r, hr, ho, hv⟩ := h
    rw [Memory.step_reissue hr ho hv]
    exact .inl ⟨r, _, hr, by simp [allHold, hkeyed.address x r hr, ho, hv], rfl, rfl, rfl⟩
  · have hlost : ∀ r, m.emails.get? x = some r → r.owner = some account → r.verified = true := by
      intro r hr ho
      cases hv : r.verified with
      | true => rfl
      | false => exact absurd ⟨r, hr, ho, hv⟩ h
    rw [Memory.step_reissue_lost hlost]
    refine .inr ⟨fun r hr => ?_, rfl, rfl⟩
    by_cases ho : r.owner = some account
    · simp [allHold, hlost r hr ho]
    · simp [allHold, ho]

theorem follows_mark (ha : (Call.markVerified x account).ask? u = some a) :
    Follows ρ m rows (.markVerified x account) a := by
  cases ha
  refine follows_update hkeyed hrows x [.equals .address (.text x), .equals .account (.uuid account)]
    [(.verified, .bool true)] rfl (by simp) ?_
  by_cases h : ∃ r, m.emails.get? x = some r ∧ r.owner = some account
  · obtain ⟨r, hr, ho⟩ := h
    rw [Memory.step_mark hr ho]
    exact .inl ⟨r, _, hr, by simp [allHold, hkeyed.address x r hr, ho], rfl, rfl, rfl⟩
  · have hlost : ∀ r, m.emails.get? x = some r → r.owner ≠ some account := fun r hr ho => h ⟨r, hr, ho⟩
    rw [Memory.step_mark_lost hlost]
    exact .inr ⟨fun r hr => by simp [allHold, hlost r hr], rfl, rfl⟩

theorem follows_delete {email : Uuid} (hinjective : Function.Injective ρ)
    (ha : ((Call.deleteEmail email account).rename ρ).ask? u = some a) :
    Follows ρ m rows (.deleteEmail email account) a := by
  cases ha
  let tests : List RowTest := [.equals .id (.uuid (ρ email)), .equals .account (.uuid account)]
  refine ⟨returned [] (rows.filter (allHold tests)), rows.filter fun row => !allHold tests row, rfl, ?_⟩
  have hpass : ∀ r : EmailRecord, allHold tests (rowOf ρ r) = true ↔
      r.id = email ∧ r.owner = some account := by
    intro r
    simp [tests, allHold, hinjective.eq_iff]
  by_cases h : ∃ y r, m.emails.get? y = some r ∧ r.id = email ∧ r.owner = some account
  · obtain ⟨y, r, hr, rfl, ho⟩ := h
    have hfound : rows.filter (allHold tests) = [rowOf ρ r] := by
      rw [hrows, Table.filter_map_values (k := y) fun q b hb hb' =>
        hkeyed.ids q y b r hb hr ((hpass b).1 hb').1, hr]
      simp [(hpass r).2 ⟨rfl, ho⟩]
    have hleft : (rows.filter fun row => !allHold tests row) =
        (m.emails.erase y).values.map (rowOf ρ) := by
      rw [hrows]
      refine (Table.map_values_erase fun q b hb => ?_).symm
      by_cases hq : q = y
      · subst hq
        rw [hr] at hb
        cases hb
        simp [(hpass r).2 ⟨rfl, ho⟩]
      · have hfail : ¬ allHold tests (rowOf ρ b) = true := fun hb' =>
          hq (hkeyed.ids q y b r hb hr ((hpass b).1 hb').1)
        simp [hfail, hq]
    rw [Memory.step_delete hkeyed hr ho, hfound, hleft]
    exact ⟨rfl, rfl⟩
  · have hnone : ∀ y r, m.emails.get? y = some r → r.id = email → r.owner ≠ some account :=
      fun y r hr hid ho => h ⟨y, r, hr, hid, ho⟩
    have hfail : ∀ row ∈ rows, ¬ allHold tests row = true := by
      intro row hrow hpassed
      obtain ⟨y, r, hr, rfl⟩ := hrows.mem_iff.1 hrow
      obtain ⟨hid, ho⟩ := (hpass r).1 hpassed
      exact hnone y r hr hid ho
    rw [Memory.step_delete_lost hnone, List.filter_eq_nil_iff.2 hfail,
      List.filter_eq_self.2 fun row hrow => by simp [hfail row hrow]]
    exact ⟨rfl, hrows⟩

/-- An insertion that goes through takes the identifier of the new record. -/
theorem follows_create {owner : Option Uuid} (hinjective : Function.Injective ρ)
    (hunused : ∀ y r, m.emails.get? y = some r → r.id ≠ .drawn (m.drawn + 1))
    (hu : m.emails.get? x = none → u = ρ (.drawn (m.drawn + 1)))
    (ha : (Call.createEmail x owner code).ask? u = some a) :
    Follows ρ m rows (.createEmail x owner code) a := by
  cases ha
  let row : EmailRow := ⟨.uuid u, .text x, .ofOwner owner, .text code, .bool false⟩
  have hstatement : Database.createEmail.applyTo? [.uuid u, .ofOwner owner, .text x, .text code] rows =
      if taken .address row rows then some (returned recordColumns [], rows)
      else if taken .id row rows then none
      else some (returned recordColumns [row], rows ++ [row]) := rfl
  have haddress : taken .address row rows = true ↔ m.emails.get? x ≠ none := by
    rw [taken, show row.get .address = .text x from rfl, List.any_eq_true]
    constructor
    · rintro ⟨other, hother, hsame⟩ hnone
      obtain ⟨y, r, hr, rfl⟩ := hrows.mem_iff.1 hother
      rw [holds_address, decide_eq_true_eq] at hsame
      rw [← hsame, hkeyed.address y r hr, hr] at hnone
      cases hnone
    · intro hsome
      obtain ⟨r, hr⟩ := Option.ne_none_iff_exists'.1 hsome
      exact ⟨rowOf ρ r, hrows.mem_iff.2 ⟨x, r, hr, rfl⟩, by simp [hkeyed.address x r hr]⟩
  cases hr : m.emails.get? x with
  | some r =>
    rw [if_pos (haddress.2 (by simp [hr]))] at hstatement
    refine ⟨_, _, hstatement, ?_⟩
    rw [Memory.step_create_known hr]
    exact ⟨rfl, hrows⟩
  | none =>
    obtain rfl := hu hr
    have hid : taken .id row rows = false := by
      rw [taken, show row.get .id = .uuid (ρ (.drawn (m.drawn + 1))) from rfl, List.any_eq_false]
      intro other hother
      obtain ⟨y, r, hr, rfl⟩ := hrows.mem_iff.1 hother
      rw [holds_id, decide_eq_true_eq]
      exact fun hsame => hunused y r hr (hinjective hsame)
    rw [if_neg fun h => haddress.1 h hr, hid, if_neg Bool.false_ne_true] at hstatement
    refine ⟨_, _, hstatement, ?_⟩
    rw [Memory.step_create hr]
    refine ⟨rfl, ?_⟩
    rw [Mirrors, Table.values_put_of_none hr, List.map_append, ← hrows]
    rfl

/-- **The statement of a call does to the table what the step of the call does to the records.** -/
theorem apply_mirrors {c : Call} (hinjective : Function.Injective ρ)
    (hunused : ∀ y r, m.emails.get? y = some r → r.id ≠ .drawn (m.drawn + 1))
    (hu : ∀ y owner k, c = .createEmail y owner k → m.emails.get? y = none →
      u = ρ (.drawn (m.drawn + 1)))
    (ha : (c.rename ρ).ask? u = some a) : Follows ρ m rows c a := by
  cases c with
  | getEmail address => exact follows_get hkeyed hrows ha
  | createEmail address owner code => exact follows_create hkeyed hrows hinjective hunused (hu _ _ _ rfl) ha
  | claimUnowned address account code => exact follows_claim hkeyed hrows ha
  | reissueCode address account code => exact follows_reissue hkeyed hrows ha
  | markVerified address account => exact follows_mark hkeyed hrows ha
  | deleteEmail email account => exact follows_delete hkeyed hrows hinjective ha
  | _ => cases ha

end Calls
end Statements
end Database
end Store
end EmailOwnership
