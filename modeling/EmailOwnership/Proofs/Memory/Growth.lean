import EmailOwnership.Proofs.Memory.Credentials
import Mathlib.Data.List.Nodup

/-! How the memory store grows.

Whatever is done to the store is a step of a call, or seeding (`Grows`). A step brings at most
one record into being (`newcomers`), under the next identifier. So in a run from the empty
store all records that ever were have identifiers of their own (`Registered`), and one that is
gone never comes back (`Gone`). Accounts keep their edges, so a call fails only for an owner
that never was an account (`step_fault_of_linked`). -/
namespace EmailOwnership.Store

/-- Whether a call brings an empty code for a record. -/
def Call.codeless : Call → Bool
  | .createEmail _ _ code | .claimUnowned _ _ code | .reissueCode _ _ code => decide (code = "")
  | _ => false

namespace Memory

/-- What seeding makes of the store: records stay, and so does what accounts have. -/
structure Seeds (s s' : State) : Prop where
  emails : s'.emails = s.emails
  drawn : s.drawn ≤ s'.drawn
  linked : Linked s → Linked s'
  knows : ∀ account, s.knows account = true → s'.knows account = true

/-- What may become of the store in one go, if only calls in `P` are made. -/
inductive Grows (P : Call → Prop) (s : State) : State → Prop
  | kept : Grows P s s
  | step {c : Call} : P c → Grows P s (step c s).2
  | seeded {s' : State} : Seeds s s' → Grows P s s'

/-! ### Seeding -/

theorem Seeds.refl (s : State) : Seeds s s := ⟨rfl, Nat.le_refl _, id, fun _ => id⟩

theorem addAccount_knows (handle : String) (name : Option String) (id : Option Uuid) (s : State) :
    (addAccount handle name id s).2.knows (addAccount handle name id s).1 = true := by
  cases id <;> exact congrArg Option.isSome (Table.get?_put_self ..)

theorem addAccount_seeds (handle : String) (name : Option String) (id : Option Uuid) (s : State) :
    Seeds s (addAccount handle name id s).2 := by
  refine ⟨addAccount_emails .., ?_, fun h => h.addAccount .., fun account hknown => ?_⟩
  · cases id with
    | none => exact Nat.le_succ _
    | some id => exact Nat.le_refl _
  · have hput : ∀ (id : Uuid) (p : Profile), ((s.accounts.put id p).get? account).isSome = true := by
      intro id p
      rw [isSome_get?_put, show (s.accounts.get? account).isSome = true from hknown, Bool.or_true]
    cases id <;> exact hput ..

theorem addMethod_seeds (account : Uuid) (method : AuthenticationMethod) (secret : String)
    (s : State) : Seeds s (addMethod account method secret s).2 := by
  refine ⟨addMethod_emails .., ?_, fun h => h.addMethod .., fun other hknown => ?_⟩ <;>
    unfold addMethod
  · split <;> exact Nat.le_refl _
  · split <;> exact hknown

theorem addPassword_seeds (account : Uuid) (hash : String) (s : State) :
    Seeds s (addPassword account hash s).2 := by
  refine ⟨addPassword_emails .., ?_, fun h => h.addPassword .., fun other hknown => ?_⟩ <;>
    unfold addPassword
  · split
    · exact Nat.le_refl _
    · exact Nat.le_trans (Nat.le_succ _) (addMethod_seeds _ _ _ s.draw.2).drawn
  · split
    · exact hknown
    · exact (addMethod_seeds _ _ _ s.draw.2).knows other hknown

theorem addRole_seeds (account : Uuid) (name : String) (s : State) :
    Seeds s (addRole account name s).2 := by
  refine ⟨addRole_emails .., ?_, fun h => h.addRole .., fun other hknown => ?_⟩ <;> unfold addRole
  · split
    · exact Nat.le_refl _
    · exact Nat.le_succ _
  · split <;> exact hknown

theorem addTag_seeds (account : Uuid) (name : String) (s : State) :
    Seeds s (addTag account name s).2 := by
  refine ⟨addTag_emails .., ?_, fun h => h.addTag .., fun other hknown => ?_⟩ <;> unfold addTag
  · split <;> exact Nat.le_refl _
  · split <;> exact hknown

/-! ### Records that come into being -/

/-- The records at addresses that had none before. -/
def newcomers (s s' : State) : List EmailRecord :=
  (s'.emails.rows.filter fun row => (s.emails.get? row.1).isNone).map Prod.snd

section Records
variable {s s' : State} {P : Call → Prop} {births : List EmailRecord} {id : Uuid}

theorem mem_newcomers {r : EmailRecord} :
    r ∈ newcomers s s' ↔ ∃ x, s'.emails.get? x = some r ∧ s.emails.get? x = none := by
  simp only [newcomers, List.mem_map, List.mem_filter, Option.isNone_iff_eq_none]
  constructor
  · rintro ⟨⟨x, r⟩, ⟨hrow, hnone⟩, rfl⟩
    exact ⟨x, Table.get?_eq_some_iff.2 hrow, hnone⟩
  · rintro ⟨x, hr, hnone⟩
    exact ⟨(x, r), ⟨Table.get?_eq_some_iff.1 hr, hnone⟩, rfl⟩

theorem newcomers_of_emails_eq (h : s'.emails = s.emails) : newcomers s s' = [] := by
  refine List.eq_nil_iff_forall_not_mem.2 fun r hr => ?_
  obtain ⟨x, hr, hnone⟩ := mem_newcomers.1 hr
  rw [h, hnone] at hr
  cases hr

/-- A record is an earlier one of the same identity, or new under the next identifier. -/
theorem Edit.record (he : Edit s s') {x : String} {r : EmailRecord}
    (hr : s'.emails.get? x = some r) :
    (∃ old, s.emails.get? x = some old ∧ r.id = old.id ∧ r.address = old.address) ∨
      s.emails.get? x = none ∧ r.id = .drawn (s.drawn + 1) ∧ r.address = x ∧
        s'.drawn = s.drawn + 1 := by
  cases he with
  | nothing => exact .inl ⟨r, hr, rfl, rfl⟩
  | create hnone =>
    rw [Table.get?_put] at hr
    split at hr
    · rename_i hx
      subst hx
      cases hr
      exact .inr ⟨hnone, rfl, rfl, rfl⟩
    · exact .inl ⟨r, hr, rfl, rfl⟩
  | replace hold hid haddress =>
    rw [Table.get?_put] at hr
    split at hr
    · rename_i hx
      subst hx
      cases hr
      exact .inl ⟨_, hold, hid, haddress⟩
    · exact .inl ⟨r, hr, rfl, rfl⟩
  | erase _ =>
    rw [Table.get?_erase] at hr
    split at hr
    · cases hr
    · exact .inl ⟨r, hr, rfl, rfl⟩

theorem Edit.drawn (he : Edit s s') : s.drawn ≤ s'.drawn := by
  cases he with
  | create _ => exact Nat.le_succ _
  | _ => exact Nat.le_refl _

/-- Records that stand side by side have identifiers of their own, the new ones among them. -/
theorem newcomers_nodup (h : Keyed s') : ((newcomers s s').map EmailRecord.id).Nodup := by
  rw [newcomers, List.map_map]
  refine List.Nodup.map_on ?_ (s'.emails.keys_nodup.of_map.filter _)
  rintro ⟨x, r⟩ hx ⟨y, r'⟩ hy hid
  have hr := Table.get?_eq_some_iff.2 (List.mem_of_mem_filter hx)
  have hr' := Table.get?_eq_some_iff.2 (List.mem_of_mem_filter hy)
  obtain rfl : x = y := h.ids x y r r' hr hr' hid
  rw [Option.some.inj (hr.symm.trans hr')]

/-- Records stand under their own addresses, and all that ever came into being, those that still
stand among them, have drawn identifiers that are pairwise distinct. -/
structure Registered (births : List EmailRecord) (s : State) : Prop where
  filed : Filed s
  drawn : ∀ b ∈ births, ∃ n, n ≤ s.drawn ∧ b.id = .drawn n
  distinct : (births.map EmailRecord.id).Nodup
  present : ∀ x r, s.emails.get? x = some r → ∃ b ∈ births, b.id = r.id ∧ b.address = x

theorem registered_of_no_records (h : s.emails = .empty) : Registered [] s := by
  refine ⟨filed_of_no_records h, (fun b hb => nomatch hb), List.nodup_nil, fun x r hr => ?_⟩
  rw [h] at hr
  cases hr

theorem Registered.edit (h : Registered births s) (he : Edit s s') :
    Registered (births ++ newcomers s s') s' := by
  have hnew : ∀ b ∈ newcomers s s', b.id = .drawn (s.drawn + 1) ∧ s'.drawn = s.drawn + 1 := by
    intro b hb
    obtain ⟨x, hr, hnone⟩ := mem_newcomers.1 hb
    rcases he.record hr with ⟨old, hold, -⟩ | ⟨-, hid, -, hdrawn⟩
    · rw [hnone] at hold
      cases hold
    · exact ⟨hid, hdrawn⟩
  have hfiled := h.filed.edit he
  refine ⟨hfiled, fun b hb => ?_, ?_, fun x r hr => ?_⟩
  · rcases List.mem_append.1 hb with hold | hborn
    · obtain ⟨n, hn, hid⟩ := h.drawn b hold
      exact ⟨n, Nat.le_trans hn he.drawn, hid⟩
    · obtain ⟨hid, hdrawn⟩ := hnew b hborn
      exact ⟨s.drawn + 1, Nat.le_of_eq hdrawn.symm, hid⟩
  · rw [List.map_append, List.nodup_append]
    refine ⟨h.distinct, newcomers_nodup hfiled.toKeyed, fun old hold new hmem heq => ?_⟩
    obtain ⟨b, hb, rfl⟩ := List.mem_map.1 hold
    obtain ⟨b', hb', rfl⟩ := List.mem_map.1 hmem
    -- what was drawn before is not drawn again
    obtain ⟨n, hn, hid⟩ := h.drawn b hb
    rw [hid, (hnew b' hb').1] at heq
    exact Nat.not_succ_le_self _ (Uuid.drawn_injective heq ▸ hn)
  · rcases he.record hr with ⟨old, hold, hid, -⟩ | ⟨hnone, -, haddress, -⟩
    · obtain ⟨b, hb, hbid, hbaddress⟩ := h.present x old hold
      exact ⟨b, List.mem_append_left _ hb, hbid.trans hid.symm, hbaddress⟩
    · exact ⟨r, List.mem_append_right _ (mem_newcomers.2 ⟨x, hr, hnone⟩), rfl, haddress⟩

theorem Registered.seeds (h : Registered births s) (hs : Seeds s s') : Registered births s' := by
  refine ⟨⟨⟨?_, ?_⟩, ?_⟩, fun b hb => ?_, h.distinct, ?_⟩
  · rw [hs.emails]
    exact h.filed.address
  · rw [hs.emails]
    exact h.filed.ids
  · rw [hs.emails]
    exact fun x r hr n hn => h.filed.unused x r hr n (Nat.lt_of_le_of_lt hs.drawn hn)
  · obtain ⟨n, hn, hid⟩ := h.drawn b hb
    exact ⟨n, Nat.le_trans hn hs.drawn, hid⟩
  · rw [hs.emails]
    exact h.present

/-- **Whatever is done, records that come into being have new identifiers.** -/
theorem Registered.grows (h : Registered births s) (hg : Grows P s s') :
    Registered (births ++ newcomers s s') s' := by
  cases hg with
  | kept => exact h.edit .nothing
  | step _ => exact h.edit (step_edit _ s)
  | seeded hs =>
    rw [newcomers_of_emails_eq hs.emails, List.append_nil]
    exact h.seeds hs

/-! ### Records that are gone -/

/-- The identifier has been drawn, and no record has it. -/
structure Gone (id : Uuid) (s : State) : Prop where
  drawn : ∃ n, n ≤ s.drawn ∧ id = .drawn n
  absent : ∀ x r, s.emails.get? x = some r → r.id ≠ id

theorem Gone.edit (h : Gone id s) (he : Edit s s') : Gone id s' := by
  obtain ⟨n, hn, rfl⟩ := h.drawn
  refine ⟨⟨n, Nat.le_trans hn he.drawn, rfl⟩, fun x r hr hid => ?_⟩
  rcases he.record hr with ⟨old, hold, hkept, -⟩ | ⟨-, hnew, -⟩
  · exact h.absent x old hold (hkept.symm.trans hid)
  · exact Nat.not_succ_le_self _ (Uuid.drawn_injective (hid.symm.trans hnew) ▸ hn)

/-- **What is gone stays gone.** -/
theorem Gone.grows (h : Gone id s) (hg : Grows P s s') : Gone id s' := by
  cases hg with
  | kept => exact h
  | step _ => exact h.edit (step_edit _ s)
  | seeded hs =>
    obtain ⟨n, hn, hid⟩ := h.drawn
    refine ⟨⟨n, Nat.le_trans hn hs.drawn, hid⟩, ?_⟩
    rw [hs.emails]
    exact h.absent

/-- A removal of what is gone removes nothing. -/
theorem Gone.delete (h : Gone id s) (account : Uuid) :
    step (.deleteEmail id account) s = (.ok (.count 0), s) :=
  step_delete_lost fun x r hr hid => absurd hid (h.absent x r hr)

end Records

/-! ### Codes -/

section Codes
variable {s s' : State}

/-- Every record has a code. -/
def Coded (s : State) : Prop := ∀ x r, s.emails.get? x = some r → r.code ≠ ""

theorem coded_of_no_records (h : s.emails = .empty) : Coded s := by
  intro x r hr
  rw [h] at hr
  cases hr

/-- Where no call brings an empty code, no record comes to have one. -/
theorem Coded.grows (h : Coded s) (hg : Grows (fun c => c.codeless = false) s s') : Coded s' := by
  cases hg with
  | kept => exact h
  | seeded hs =>
    rw [Coded, hs.emails]
    exact h
  | @step c hc =>
    intro x r hr
    have hchange := (step_transition c s).change x
    generalize hold : s.emails.get? x = old at hchange
    rw [hr] at hchange
    cases hchange with
    | kept => exact h x r hold
    | created hmade =>
      cases hmade
      exact of_decide_eq_false hc
    | claimed _ hmade =>
      cases hmade
      exact of_decide_eq_false hc
    | reissued _ _ hmade =>
      cases hmade
      exact of_decide_eq_false hc
    | @verified old _ _ _ => exact h x old hold

end Codes

/-! ### Accounts -/

section Accounts
variable {s s' : State} {P : Call → Prop}

theorem Linked.grows (h : Linked s) (hg : Grows P s s') : Linked s' := by
  cases hg with
  | kept => exact h
  | step _ => exact h.edit (step_edit _ s)
  | seeded hs => exact hs.linked h

theorem Grows.knows (hg : Grows P s s') {account : Uuid} (h : s.knows account = true) :
    s'.knows account = true := by
  cases hg with
  | kept => exact h
  | step _ =>
    rw [(step_edit _ s).knows]
    exact h
  | seeded hs => exact hs.knows account h

/-- Only for an owner that never was an account an account is not built. -/
theorem knows_of_fault (h : Linked s) {account : Uuid} {withRoles : Bool} {f : Account → Reply}
    {fault : Fault} (hf : (buildAccount account withRoles s).map f = .error fault) :
    s.knows account = false := by
  cases hknown : s.knows account with
  | false => rfl
  | true =>
    obtain ⟨a, ha⟩ := buildAccount_of_linked h hknown withRoles
    rw [ha] at hf
    cases hf

/-- **A call fails only for an owner that never was an account**: it looks for the account of an
address of this owner. -/
theorem step_fault_of_linked (h : Linked s) {c : Call} {fault : Fault}
    (hf : (step c s).1 = .error fault) :
    ∃ address r owner, s.emails.get? address = some r ∧ r.owner = some owner ∧
      s.knows owner = false ∧
      (c = .accountByEmail address ∨ ∃ code, c = .accountByCode address code) := by
  cases hc : c.isWrite with
  | true =>
    obtain ⟨reply, hreply⟩ := step_write_answers hc s
    rw [hf] at hreply
    cases hreply
  | false =>
    cases c with
    | accountByCode address code =>
      simp only [step] at hf
      split at hf
      · rename_i owner stored verified hr
        split at hf
        · exact ⟨address, _, owner, hr, rfl, knows_of_fault h hf, .inr ⟨code, rfl⟩⟩
        · cases hf
      · cases hf
    | accountByEmail address =>
      simp only [step] at hf
      split at hf
      · rename_i owner stored verified hr
        exact ⟨address, _, owner, hr, rfl, knows_of_fault h hf, .inl rfl⟩
      · cases hf
    | passwordCredential handle =>
      rw [step_credential h] at hf
      cases hf
    | getEmail address => cases hf
    | ping => cases hf
    | _ => cases hc

end Accounts
end Memory
end EmailOwnership.Store
