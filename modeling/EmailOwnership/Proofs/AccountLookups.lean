import EmailOwnership.Proofs.MissingOwner
import EmailOwnership.Proofs.Spelling

/-! What look-ups of accounts show.

An address leads to the account that owns its record (`State.account?`), and the account shows
every record that it owns. Records stand in the order in which they came into being, also where
others were removed and claimed again (`Ordered`), so an account shows each of its records once and
in this order. Where all owners were seeded both look-ups answer with this account, the one by code
only for the code that is stored, and without roles and tags (`account_lookups_partition`). -/
namespace EmailOwnership

/-- What an account shows to who checks a code: neither roles nor tags. -/
def Account.bare (a : Account) : Account := {a with roles := [], tags := []}

namespace Store.Memory

/-! ### Accounts as they are built -/

/-- The account that owns the record at an address, with all its edges. -/
def State.account? (s : State) (address : String) : Option Account :=
  (s.owner? address).bind fun owner => (buildAccount owner true s).toOption

/-- The account is one of the store's, with all its edges. -/
def State.Has (s : State) (a : Account) : Prop := buildAccount a.id true s = .ok a

section Built
variable {s : State} {owner : Uuid} {a : Account}

theorem emails_of_buildAccount {withRoles : Bool} (h : buildAccount owner withRoles s = .ok a) :
    a.emails = s.emails.values.filter fun r => decide (r.owner = some owner) := by
  unfold buildAccount at h
  split at h
  · cases withRoles with
    | false =>
      cases h
      rfl
    | true =>
      rw [if_pos rfl] at h
      split at h
      · cases h
        rfl
      · cases h
  · cases h

theorem mem_emails_iff {withRoles : Bool} (h : buildAccount owner withRoles s = .ok a)
    {r : EmailRecord} :
    r ∈ a.emails ↔ (∃ x, s.emails.get? x = some r) ∧ r.owner = some owner := by
  simp [emails_of_buildAccount h, Table.mem_values_iff]

/-- A record that nobody owns is shown by no account. -/
theorem not_shown {r : EmailRecord} (ho : r.owner = none) (ha : s.Has a) : r ∉ a.emails := by
  intro hmem
  rw [((mem_emails_iff ha).1 hmem).2] at ho
  cases ho

/-- Without roles the same account is built. -/
theorem buildAccount_bare (h : buildAccount owner true s = .ok a) :
    buildAccount owner false s = .ok a.bare := by
  unfold buildAccount at h ⊢
  split at h
  · rw [if_pos rfl] at h
    split at h
    · cases h
      rfl
    · cases h
  · cases h

theorem account?_eq_some {address : String} (h : s.account? address = some a) :
    s.owner? address = some a.id ∧ s.Has a := by
  obtain ⟨owner, howner, ha⟩ := Option.bind_eq_some_iff.1 h
  have hbuilt : buildAccount owner true s = .ok a := by
    cases hb : buildAccount owner true s with
    | ok b => rw [hb] at ha; cases ha; rfl
    | error _ => rw [hb] at ha; cases ha
  obtain rfl := buildAccount_id hbuilt
  exact ⟨howner, hbuilt⟩

end Built

/-! ### Look-ups -/

section LookUps
variable {s : State} (hlinked : Linked s)
  (howners : ∀ address owner, s.owner? address = some owner → s.knows owner = true)
include hlinked howners

theorem account?_of_owner {address : String} {owner : Uuid} (h : s.owner? address = some owner) :
    ∃ a, s.account? address = some a ∧ a.id = owner ∧ buildAccount owner true s = .ok a := by
  obtain ⟨a, ha⟩ := buildAccount_of_linked hlinked (howners address owner h) true
  exact ⟨a, by simp [State.account?, h, ha, Except.toOption], buildAccount_id ha, ha⟩

theorem map_id_account? (address : String) :
    (s.account? address).map Account.id = s.owner? address := by
  cases h : s.owner? address with
  | none => simp [State.account?, h]
  | some owner =>
    obtain ⟨a, ha, hid, -⟩ := account?_of_owner hlinked howners h
    rw [ha, Option.map_some, hid]

/-- **A record with an owner is shown by exactly one account.** -/
theorem shown_by_one {address : String} {r : EmailRecord} (hr : s.emails.get? address = some r)
    (ho : r.owner ≠ none) : ∃! a, s.Has a ∧ r ∈ a.emails := by
  obtain ⟨owner, ho⟩ := Option.ne_none_iff_exists'.1 ho
  have howner : s.owner? address = some owner := Option.bind_eq_some_iff.2 ⟨r, hr, ho⟩
  obtain ⟨a, -, rfl, ha⟩ := account?_of_owner hlinked howners howner
  refine ⟨a, ⟨ha, (mem_emails_iff ha).2 ⟨⟨address, hr⟩, ho⟩⟩, fun b hb => ?_⟩
  -- another account that shows the record is its owner's too
  have hsame := ((mem_emails_iff hb.1).1 hb.2).2
  rw [ho] at hsame
  have hbuilt : buildAccount b.id true s = .ok b := hb.1
  rw [← Option.some.inj hsame, ha] at hbuilt
  cases hbuilt
  rfl

theorem step_accountByEmail (address : String) :
    step (.accountByEmail address) s = (.ok (.ofAccount? (s.account? address)), s) := by
  cases h : s.owner? address with
  | none =>
    rw [step_accountByEmail_unowned h]
    simp [State.account?, h, Reply.ofAccount?]
  | some owner =>
    obtain ⟨a, ha, -, hbuilt⟩ := account?_of_owner hlinked howners h
    rw [step_accountByEmail_owned h hbuilt, ha]

/-- The look-up by code finds what the other finds, if the code is the stored one. -/
theorem step_accountByCode_eq (address code : String) :
    step (.accountByCode address code) s =
      (.ok (.ofAccount? (if (s.emails.get? address).map EmailRecord.code = some code then
        (s.account? address).map Account.bare else none)), s) := by
  cases hr : s.emails.get? address with
  | none => simp [step, hr, Reply.ofAccount?]
  | some r =>
    obtain ⟨id, stored, owner?, code', verified⟩ := r
    cases owner? with
    | none =>
      have hnone : s.account? address = none := by simp [State.account?, State.owner?, hr]
      simp [step, hr, hnone, Reply.ofAccount?]
    | some owner =>
      have howner : s.owner? address = some owner := by simp [State.owner?, hr]
      obtain ⟨a, ha, -, hbuilt⟩ := account?_of_owner hlinked howners howner
      by_cases hcode : code' = code
      · simp [step, hr, hcode, ha, buildAccount_bare hbuilt, Except.map]
      · simp [step, hr, hcode, Reply.ofAccount?]

end LookUps

/-! ### The order of records -/

/-- Records stand in the order in which they came into being. -/
def Ordered (births : List EmailRecord) (s : State) : Prop :=
  (s.emails.values.map EmailRecord.id).Sublist (births.map EmailRecord.id)

section Order
variable {births : List EmailRecord} {s s' : State}

theorem ordered_of_no_records (h : s.emails = .empty) : Ordered births s := by
  rw [Ordered, h]
  exact List.nil_sublist _

/-- Only what comes into being is appended; the rest stays where it is, or goes. -/
theorem Ordered.edit (h : Ordered births s) (he : Edit s s') :
    Ordered (births ++ newcomers s s') s' := by
  have hmore : (births.map EmailRecord.id).Sublist
      ((births ++ newcomers s s').map EmailRecord.id) := (List.sublist_append_left ..).map _
  cases he with
  | nothing => exact h.trans hmore
  | @create address owner code hnone =>
    have hborn : s.fresh address owner code ∈ newcomers s {s with
        emails := s.emails.put address (s.fresh address owner code)
        drawn := s.drawn + 1} :=
      mem_newcomers.2 ⟨address, Table.get?_put_self .., hnone⟩
    rw [Ordered, Table.values_put_of_none hnone, List.map_append, List.map_append]
    exact h.append (List.singleton_sublist.2 (List.mem_map_of_mem hborn))
  | replace hr hid _ =>
    rw [Ordered, Table.map_values_put (g := id) hr hid.symm fun _ _ _ _ => rfl, List.map_id]
    exact h.trans hmore
  | erase _ => exact ((List.filter_sublist.map _).map _).trans (h.trans hmore)

theorem Ordered.grows {P : Call → Prop} (h : Ordered births s) (hg : Grows P s s') :
    Ordered (births ++ newcomers s s') s' := by
  cases hg with
  | kept => exact h.edit .nothing
  | step _ => exact h.edit (step_edit _ s)
  | seeded hs =>
    rw [newcomers_of_emails_eq hs.emails, List.append_nil, Ordered, hs.emails]
    exact h

end Order
end Store.Memory

/-! ### Runs of look-ups -/

namespace Registry
open Rehearsal
open Store (Reply)
open Store.Memory (step)
variable {sender : Sender} {context : Context String} {w : World}

/-- A look-up whose call the store answers ends with this answer. -/
theorem run_lookup (hlive : context.isDone w.clock = false) {operation : String} {details : Details}
    {c : Store.Call} {reply : Reply} (hstep : step c w.memory = (.ok reply, w.memory)) :
    (stored operation details c).run (plainHandler sender context) w = (.ok reply, w) := by
  have hperform : plainHandler sender context (.store c) w = (.ok reply, w) := by
    show w.perform context c = _
    rw [perform_step hlive, hstep]
    rfl
  show Program.run _ (Program.ask (.store c) _) w = _
  rw [Program.run_ask, hperform]
  rfl

end Registry

namespace Rehearsal
open Store.Memory (Linked Ordered Registered State)

/-- **Look-ups of accounts agree, and share out the owned records.** After any history from the
empty store in which all owners were seeded, an address leads to an account exactly if its record
has an owner, and then to this owner's; so addresses of one owner lead to one account. It shows the
records that it owns as the store keeps them, which is the order in which they came into being, each
once and the one at the address among them. So a record with an owner is shown by exactly one of all
the accounts, and one without by none. Under a live context a look-up answers with the account of
the address and changes nothing; a look-up by code does so exactly for the code that is stored, and
leaves out roles and tags. -/
theorem account_lookups_partition (codeLength : Nat) (requests : List Request) {w : World}
    (hw : w.memory = .empty) {past : List Moment} (hpast : ∀ m ∈ past, m.injects = false)
    (howners : let start := Crowd.start codeLength requests w
      ∀ x r owner, (start.history codeLength past).record? x = some r → r.owner = some owner →
        start.Seeded codeLength past owner) :
    let start := Crowd.start codeLength requests w
    let now := start.history codeLength past
    let s := now.world.memory
    (∀ x, (s.account? x).map Account.id = s.owner? x) ∧
    (∀ x y, s.owner? x = s.owner? y → s.account? x = s.account? y) ∧
    (∀ x a, s.account? x = some a → s.Has a ∧
      a.emails = s.emails.values.filter (fun r => decide (r.owner = some a.id)) ∧
      (a.emails.map EmailRecord.id).Sublist ((start.births codeLength past).map EmailRecord.id) ∧
      a.emails.Nodup ∧ ∃ r ∈ a.emails, now.record? x = some r) ∧
    (∀ x r, now.record? x = some r →
      (r.owner ≠ none → ∃! a, s.Has a ∧ r ∈ a.emails) ∧
      (r.owner = none → ∀ a, s.Has a → r ∉ a.emails)) ∧
    ∀ sender (context : Context String) requestId, context.isDone now.world.clock = false → ∀ x,
      (Registry.lookupAccount requestId x).run (plainHandler sender context) now.world =
        (.ok (.ofAccount? (s.account? x)), now.world) ∧
      ∀ code, (Registry.lookupCode requestId x code).run (plainHandler sender context) now.world =
        (.ok (.ofAccount? (if (now.record? x).map EmailRecord.code = some code then
          (s.account? x).map Account.bare else none)), now.world) := by
  intro start now s
  have hemails : w.memory.emails = .empty := by rw [hw]; rfl
  have hasks : start.Asks fun _ => True := start_asks codeLength requests w
  have hmoments : ∀ m ∈ past, m.Asks (fun _ => True) codeLength :=
    fun m hm => Moment.asks (hpast m hm) codeLength
  have hregistered : Registered (start.births codeLength past) s :=
    registered_history hasks hmoments (Store.Memory.registered_of_no_records hemails)
  have hordered : Ordered (start.births codeLength past) s :=
    births_invariant (fun _ _ _ h hg => h.grows hg) [] hasks hmoments
      (Store.Memory.ordered_of_no_records hemails)
  have hlinked : Linked s :=
    history_invariant (fun _ _ h hg => h.grows hg) hasks hmoments
      (show Linked w.memory by rw [hw]; exact Store.Memory.linked_empty)
  have hknown : ∀ x owner, s.owner? x = some owner → s.knows owner = true := by
    intro x owner h
    obtain ⟨r, hr, ho⟩ := Option.bind_eq_some_iff.1 h
    exact knows_of_seeded hasks hmoments (howners x r owner hr ho)
  refine ⟨Store.Memory.map_id_account? hlinked hknown, fun x y h => ?_, fun x a ha => ?_,
    fun x r hr => ⟨fun ho => ?_, fun ho a ha => ?_⟩,
    fun sender context requestId hlive x => ⟨?_, fun code => ?_⟩⟩
  · rw [State.account?, State.account?, h]
  · obtain ⟨howner, hbuilt⟩ := Store.Memory.account?_eq_some ha
    obtain ⟨r, hr, ho⟩ := Option.bind_eq_some_iff.1 howner
    have hshown := Store.Memory.emails_of_buildAccount hbuilt
    have hborn : (a.emails.map EmailRecord.id).Sublist
        ((start.births codeLength past).map EmailRecord.id) := by
      rw [hshown]
      exact (List.filter_sublist.map _).trans hordered
    exact ⟨hbuilt, hshown, hborn, (hregistered.distinct.sublist hborn).of_map,
      r, (Store.Memory.mem_emails_iff hbuilt).2 ⟨⟨x, hr⟩, ho⟩, hr⟩
  · exact Store.Memory.shown_by_one hlinked hknown hr ho
  · exact Store.Memory.not_shown ho ha
  · exact Registry.run_lookup hlive (Store.Memory.step_accountByEmail hlinked hknown x)
  · exact Registry.run_lookup hlive (Store.Memory.step_accountByCode_eq hlinked hknown x code)

/-- Two accounts share out four addresses. One is claimed twice, with a removal in between; one
changes from nobody to an account; one stays with nobody. -/
def sharedOut : List Moment :=
  [.visit ⟨.addAccount "alice" none (some ⟨1⟩), .plain⟩,
    .visit ⟨.addAccount "bob" none (some ⟨2⟩), .plain⟩,
    .visit ⟨.addTag ⟨1⟩ "staff", .plain⟩,
    .visit ⟨.add ⟨1⟩ "a@x.com" "111111", .plain⟩,
    .visit ⟨.provision "c@x.com" "333333", .plain⟩,
    .visit ⟨.add ⟨1⟩ "b@x.com" "222222", .plain⟩,
    .visit ⟨.remove ⟨1⟩ (.drawn 1), .plain⟩,
    .visit ⟨.add ⟨2⟩ "c@x.com" "555555", .plain⟩,
    .visit ⟨.add ⟨1⟩ "a@x.com" "444444", .plain⟩,
    .visit ⟨.provision "d@x.com" "666666", .plain⟩]

/-- What stands after that. -/
def sharedCrowd : Crowd Result :=
  (Crowd.start 6 [] ⟨.empty, 0, .standard, []⟩).history 6 sharedOut

theorem sharedOut_injects : ∀ m ∈ sharedOut, m.injects = false := by
  simp [sharedOut, Moment.injects]

theorem seeded_of_sharedOut {x : String} {r : EmailRecord} {owner : Uuid}
    (hr : sharedCrowd.record? x = some r) (ho : r.owner = some owner) :
    (Crowd.start 6 [] ⟨.empty, 0, .standard, []⟩).Seeded 6 sharedOut owner := by
  have hrows : ∀ row ∈ sharedCrowd.world.memory.emails.rows,
      row.2.owner.all sharedCrowd.world.memory.knows = true := by decide +kernel
  have hknown : r.owner.all sharedCrowd.world.memory.knows = true :=
    hrows (x, r) (Table.get?_eq_some_iff.1 hr)
  rw [ho, Option.all_some] at hknown
  unfold sharedCrowd at hknown
  exact (known_iff_seeded [] rfl sharedOut_injects).1 hknown

/-- The address that was claimed again comes last, and whoever is looked up by it or by code is the
same account. -/
theorem account_lookups_partition_moved :
    let b : EmailRecord := ⟨.drawn 3, "b@x.com", some ⟨1⟩, "222222", false⟩
    let a : EmailRecord := ⟨.drawn 4, "a@x.com", some ⟨1⟩, "444444", false⟩
    let alice : Account := ⟨⟨1⟩, "alice", "alice", [b, a], [], [], ["staff"]⟩
    let handler := plainHandler .console (.new "r" none)
    (Registry.lookupAccount "r" "a@x.com").run handler sharedCrowd.world =
      (.ok (.ofAccount? (some alice)), sharedCrowd.world) ∧
    (Registry.lookupCode "r" "b@x.com" "222222").run handler sharedCrowd.world =
      (.ok (.ofAccount? (some alice.bare)), sharedCrowd.world) ∧
    ∃! account, sharedCrowd.world.memory.Has account ∧ a ∈ account.emails := by
  intro b a alice handler
  have halice : sharedCrowd.world.memory.account? "a@x.com" = some alice := by decide +kernel
  have hbare : (if (sharedCrowd.record? "b@x.com").map EmailRecord.code = some "222222" then
      (sharedCrowd.world.memory.account? "b@x.com").map Account.bare else none) =
        some alice.bare := by decide +kernel
  have ha : sharedCrowd.record? "a@x.com" = some a := by decide +kernel
  have hlive : (Context.new "r" none : Context String).isDone sharedCrowd.world.clock = false := by
    decide +kernel
  rw [← halice, ← hbare]
  unfold sharedCrowd at ha hlive ⊢
  obtain ⟨-, -, -, hrecords, hlookups⟩ := account_lookups_partition 6 [] rfl sharedOut_injects
    fun _ _ _ => seeded_of_sharedOut
  exact ⟨(hlookups .console _ "r" hlive "a@x.com").1,
    (hlookups .console _ "r" hlive "b@x.com").2 "222222",
    (hrecords "a@x.com" a ha).1 (by simp [a])⟩

end Rehearsal
end EmailOwnership
