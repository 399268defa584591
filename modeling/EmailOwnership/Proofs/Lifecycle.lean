import EmailOwnership.Proofs.Crowd.Advance
import EmailOwnership.Proofs.Registry.Writes
import Mathlib.Data.List.Induction

/-! The life of a record.

A history mixes whole calls, seeding and the turns of requests that interleave. Whatever
came before, the next moment changes at most one address, and a record there is kept,
claimed, given a new code, verified or removed, each by a call that its owner or claimant
made (`record_lifecycle`). So what a record has once stays with it until its owner removes
it: identifier and address always, the owner once there is one, everything once it is
verified (`Persists`).

Two things make this an invariant of runs (`Underway`): every request under way still makes
at most one write, of those that its action may ask for, and verified records have owners.
The second keeps a claim, which resets `verified`, away from verified records. -/
namespace EmailOwnership.Rehearsal
open Store (Call)
open Store.Memory (Change Transition step_transition)

/-! ### Histories -/

/-- One moment of a history. -/
inductive Moment
  /-- An action that nothing comes between. -/
  | visit (v : Visit)
  /-- A turn of the requests that are under way. -/
  | turn (t : Turn)

/-- Whether a record is put into the store directly. -/
def Moment.injects : Moment → Bool
  | .visit ⟨.putRecord _, _⟩ => true
  | _ => false

/-- The writes that a moment may make. -/
def Moment.Writes (requests : List Request) : Moment → Call → Prop
  | .visit v, call => v.action.Writes call
  | .turn (.proceed place), call => ∃ r, requests[place]? = some r ∧ r.action.Writes call
  | .turn _, _ => False

def Crowd.pass (codeLength : Nat) (c : Crowd Result) : Moment → Crowd Result
  | .visit v => {c with world := (v.perform codeLength c.world).2}
  | .turn t => c.take t

def Crowd.history (codeLength : Nat) (c : Crowd Result) (moments : List Moment) : Crowd Result :=
  moments.foldl (Crowd.pass codeLength) c

theorem Crowd.history_append (codeLength : Nat) (c : Crowd Result) (a b : List Moment) :
    c.history codeLength (a ++ b) = (c.history codeLength a).history codeLength b :=
  List.foldl_append

/-! ### What lasts -/

/-- What a record keeps: its identity, its owner, and everything once it is verified. -/
structure Persists (r r' : EmailRecord) : Prop where
  id : r'.id = r.id
  address : r'.address = r.address
  owner : ∀ account, r.owner = some account → r'.owner = some account
  verified : r.verified = true → r' = r

theorem Persists.refl (r : EmailRecord) : Persists r r := ⟨rfl, rfl, fun _ h => h, fun _ => rfl⟩

theorem Persists.trans {r r' r'' : EmailRecord} (h : Persists r r') (h' : Persists r' r'') :
    Persists r r'' := by
  refine ⟨h'.id.trans h.id, h'.address.trans h.address, fun a ha => h'.owner a (h.owner a ha), ?_⟩
  intro hv
  have hr := h.verified hv
  rw [h'.verified (by rw [hr]; exact hv), hr]

/-- A change of a record that has an owner if it is verified: it lasts, or its owner removes it. -/
theorem Persists.of_change {made : Call → Prop} {address : String} {r : EmailRecord}
    {r?' : Option EmailRecord} (h : Change made address (some r) r?')
    (howned : r.verified = true → r.owner ≠ none) :
    (∃ r', r?' = some r' ∧ Persists r r') ∨
      r?' = none ∧ ∃ account, r.owner = some account ∧ made (.deleteEmail r.id account) := by
  cases h with
  | kept => exact .inl ⟨r, rfl, .refl r⟩
  | claimed hr _ =>
    refine .inl ⟨_, rfl, rfl, rfl, fun account ha => ?_, fun hv => absurd hr (howned hv)⟩
    rw [hr] at ha
    cases ha
  | reissued _ hv _ =>
    refine .inl ⟨_, rfl, rfl, rfl, fun _ ha => ha, fun hv' => ?_⟩
    rw [hv] at hv'
    cases hv'
  | verified _ _ =>
    refine .inl ⟨_, rfl, rfl, rfl, fun _ ha => ha, fun hv => ?_⟩
    rw [← hv]
  | removed hr hm => exact .inr ⟨rfl, _, hr, hm⟩

/-- The record at `address`, with the identity of `r`, is removed in the course of `moments` by a
call of its owner that names it. -/
def Crowd.RemovedByOwner (codeLength : Nat) (requests : List Request) (c : Crowd Result)
    (moments : List Moment) (address : String) (r : EmailRecord) : Prop :=
  ∃ earlier m later r' account, moments = earlier ++ m :: later ∧
    (c.history codeLength earlier).record? address = some r' ∧ Persists r r' ∧
    r'.owner = some account ∧ m.Writes requests (.deleteEmail r.id account) ∧
    ((c.history codeLength earlier).pass codeLength m).record? address = none

/-! ### One moment -/

/-- What holds at every moment of a history. -/
structure Underway (requests : List Request) (c : Crowd Result) : Prop where
  writes : ∀ k p, c.program? k = some p →
    ∃ r, requests[k]? = some r ∧ p.Writes r.action.Writes 1
  owned : ∀ address r, c.record? address = some r → r.verified = true → r.owner ≠ none

theorem begin_writes (codeLength : Nat) (r : Request) :
    (r.begin codeLength).program.Writes r.action.Writes 1 := by
  unfold Request.begin
  cases h : r.action.program? r.context.requestId codeLength with
  | none => exact .done
  | some program => exact Action.program_writes h

theorem underway_start (codeLength : Nat) (requests : List Request) {w : World}
    (hw : w.memory.emails = .empty) : Underway requests (Crowd.start codeLength requests w) := by
  refine ⟨fun k p hp => ?_, fun address r hr => ?_⟩
  · simp only [Crowd.program?, Crowd.start, List.getElem?_map, Option.map_map,
      Option.map_eq_some_iff] at hp
    obtain ⟨r, hr, rfl⟩ := hp
    exact ⟨r, hr, begin_writes codeLength r⟩
  · have hnone : (Crowd.start codeLength requests w).record? address = none := by
      show w.memory.emails.get? address = none
      rw [hw]
      rfl
    rw [hnone] at hr
    cases hr

/-- Seeding, looking at the store and moving the clock leave the records alone. -/
theorem apply_emails {a : Action} (ha : ∀ record, a ≠ .putRecord record) (w : World) :
    (a.apply w).2.memory.emails = w.memory.emails := by
  cases a with
  | putRecord record => exact absurd rfl (ha record)
  | addAccount handle name id => exact Store.Memory.addAccount_emails ..
  | addPassword account hash => exact Store.Memory.addPassword_emails ..
  | addRole account name => exact Store.Memory.addRole_emails ..
  | addTag account name => exact Store.Memory.addTag_emails ..
  | addMethod account method secret => exact Store.Memory.addMethod_emails ..
  | _ => rfl

theorem visit_transition (codeLength : Nat) {v : Visit} (hv : (Moment.visit v).injects = false)
    (w : World) : Transition v.action.Writes w.memory (v.perform codeLength w).2.memory := by
  unfold Visit.perform
  dsimp only
  split
  · rename_i program h
    exact (Action.program_writes h).transition w
  · refine .of_emails_eq (apply_emails (fun record h => ?_) w)
    obtain ⟨action, context⟩ := v
    obtain rfl : action = .putRecord record := h
    cases hv

/-- A turn makes the write of the request whose turn it is, or none. -/
theorem turn_transition {requests : List Request} {c : Crowd Result}
    (h : ∀ k p, c.program? k = some p → ∃ r, requests[k]? = some r ∧ p.Writes r.action.Writes 1)
    (t : Turn) :
    Transition (Moment.Writes requests (.turn t)) c.world.memory (c.take t).world.memory := by
  cases c.take_advance t with
  | quiet _ hm _ => exact .of_emails_eq (by rw [hm])
  | aside _ _ hm _ _ => exact .of_emails_eq (by rw [hm])
  | refused _ _ hm _ _ => exact .of_emails_eq (by rw [hm])
  | @performed k call next _ hp hm _ _ =>
    obtain ⟨r, hr, hw⟩ := h k _ hp
    rw [hm]
    cases hcall : call.isWrite with
    | true =>
      refine (step_transition call _).mono fun made hmade => ?_
      rw [hmade]
      exact ⟨r, hr, hw.allowed hcall⟩
    | false =>
      rw [Store.Memory.step_of_read hcall]
      exact .of_emails_eq rfl

theorem Underway.owned_of_transition {requests : List Request} {c c' : Crowd Result}
    {made : Call → Prop} (h : Underway requests c)
    (ht : Transition made c.world.memory c'.world.memory) :
    ∀ address r, c'.record? address = some r → r.verified = true → r.owner ≠ none := by
  intro address r hr hv
  have hc := ht.change address
  generalize hold : c.world.memory.emails.get? address = old at hc
  generalize hnew : c'.world.memory.emails.get? address = new at hc
  rw [Crowd.record?, hnew] at hr
  cases hc with
  | kept => exact h.owned address r (hold.trans hr) hv
  | created _ => cases hr; cases hv
  | claimed _ _ => cases hr; cases hv
  | reissued ho _ _ => cases hr; rw [ho]; exact Option.some_ne_none _
  | verified ho _ => cases hr; rw [ho]; exact Option.some_ne_none _
  | removed _ _ => cases hr

/-- **One moment makes one transition**, by its own writes. -/
theorem Underway.transition {requests : List Request} {c : Crowd Result} (h : Underway requests c)
    (codeLength : Nat) {m : Moment} (hm : m.injects = false) :
    Transition (m.Writes requests) c.world.memory (c.pass codeLength m).world.memory := by
  cases m with
  | visit v => exact visit_transition codeLength hm c.world
  | turn t => exact turn_transition h.writes t

theorem Underway.pass {requests : List Request} {c : Crowd Result} (h : Underway requests c)
    (codeLength : Nat) {m : Moment} (hm : m.injects = false) :
    Underway requests (c.pass codeLength m) := by
  refine ⟨?_, h.owned_of_transition (h.transition codeLength hm)⟩
  cases m with
  | visit v => exact h.writes
  | turn t =>
    refine Crowd.forall_take (fun k effect next reply hk => ?_) h.writes t
    obtain ⟨r, hr, hw⟩ := hk
    exact ⟨r, hr, hw.next reply⟩

/-! ### Whole histories -/

theorem Underway.history {requests : List Request} {c : Crowd Result} (h : Underway requests c)
    (codeLength : Nat) {moments : List Moment} (hm : ∀ m ∈ moments, m.injects = false) :
    Underway requests (c.history codeLength moments) := by
  induction moments generalizing c with
  | nil => exact h
  | cons m rest ih =>
    exact ih (h.pass codeLength (hm m (List.mem_cons_self ..)))
      fun m' hm' => hm m' (List.mem_cons_of_mem m hm')

/-- From a moment with a record on, the record lasts or its owner removes it. -/
theorem Underway.persists {requests : List Request} {c : Crowd Result} (h : Underway requests c)
    (codeLength : Nat) {future : List Moment} (hf : ∀ m ∈ future, m.injects = false)
    {address : String} {r : EmailRecord} (hr : c.record? address = some r) :
    (∃ r', (c.history codeLength future).record? address = some r' ∧ Persists r r') ∨
      c.RemovedByOwner codeLength requests future address r := by
  induction future using List.reverseRecOn with
  | nil => exact .inl ⟨r, hr, .refl r⟩
  | append_singleton future m ih =>
    have hsplit : c.history codeLength (future ++ [m]) =
        (c.history codeLength future).pass codeLength m := c.history_append codeLength future [m]
    rcases ih fun m' hm' => hf m' (List.mem_append_left _ hm') with ⟨r', hr', hlast⟩ | hremoved
    · have hunder := h.history codeLength fun m' hm' => hf m' (List.mem_append_left [m] hm')
      have ht := hunder.transition codeLength (hf m (by simp))
      have hc := ht.change address
      rw [show (c.history codeLength future).world.memory.emails.get? address = some r' from hr'] at hc
      rcases Persists.of_change hc (hunder.owned address r' hr') with
        ⟨r'', hr'', hkeeps⟩ | ⟨hnone, account, howner, hmade⟩
      · exact .inl ⟨r'', by rw [hsplit]; exact hr'', hlast.trans hkeeps⟩
      · refine .inr ⟨future, m, [], r', account, rfl, hr', hlast, howner, ?_, hnone⟩
        rw [← hlast.id]
        exact hmade
    · obtain ⟨earlier, m', later, r', account, hcut, hrest⟩ := hremoved
      exact .inr ⟨earlier, m', later ++ [m], r', account, by simp [hcut], hrest⟩

/-- **The life of a record.** After any history from a store without records, whatever comes next
changes at most one address, as `Change` says and by its own writes; and in any future a record
keeps what `Persists` lists until its owner removes it. -/
theorem record_lifecycle (codeLength : Nat) (requests : List Request) (w : World)
    (hw : w.memory.emails = .empty) (past : List Moment) (hpast : ∀ m ∈ past, m.injects = false) :
    let now := (Crowd.start codeLength requests w).history codeLength past
    (∀ m : Moment, m.injects = false →
      Transition (m.Writes requests) now.world.memory (now.pass codeLength m).world.memory) ∧
    ∀ future : List Moment, (∀ m ∈ future, m.injects = false) →
      ∀ address r, now.record? address = some r →
        (∃ r', (now.history codeLength future).record? address = some r' ∧ Persists r r') ∨
          now.RemovedByOwner codeLength requests future address r := by
  intro now
  have hnow : Underway requests now := (underway_start codeLength requests hw).history codeLength hpast
  exact ⟨fun m hm => hnow.transition codeLength hm,
    fun future hf address r hr => hnow.persists codeLength hf hr⟩

/-- A claim that was verified: the record stays as it is until the account removes it. -/
theorem record_lifecycle_verified :
    let requests : List Request := [⟨.new "r" none, .add ⟨1⟩ "a@x.com" "111111"⟩]
    let past : List Moment := [.turn (.proceed 0), .turn (.proceed 0),
      .visit ⟨.verify ⟨1⟩ "a@x.com", .plain⟩]
    let now := (Crowd.start 6 requests ⟨.empty, 0, .standard, []⟩).history 6 past
    let r : EmailRecord := ⟨.drawn 1, "a@x.com", some ⟨1⟩, "111111", true⟩
    now.record? "a@x.com" = some r ∧
    ∀ future : List Moment, (∀ m ∈ future, m.injects = false) →
      (now.history 6 future).record? "a@x.com" = some r ∨
        now.RemovedByOwner 6 requests future "a@x.com" r := by
  intro requests past now r
  have hnow : now.record? "a@x.com" = some r := rfl
  refine ⟨hnow, fun future hf => ?_⟩
  have h := record_lifecycle 6 requests ⟨.empty, 0, .standard, []⟩ rfl past
    (by simp [past, Moment.injects])
  rcases h.2 future hf "a@x.com" r hnow with ⟨r', hr', hlast⟩ | hremoved
  · rw [hlast.verified rfl] at hr'
    exact .inl hr'
  · exact .inr hremoved

end EmailOwnership.Rehearsal
