import EmailOwnership.Proofs.Lifecycle
import EmailOwnership.Proofs.Memory.Growth

/-! What every reachable store is like.

Every moment of a history makes the store grow by one call, by seeding, or not at all
(`moment_grows`). So from the empty store on, whatever is called and however calls
interleave: records stand under their own addresses and never share an identifier, not even
with records that are gone; verified records have owners; accounts have their edges; and
records have codes, as long as nobody brings an empty one to the store itself
(`representation_invariant`). -/
namespace EmailOwnership.Rehearsal
open Program (Writes)
open Store (Call)
open Store.Memory (Coded Gone Grows Linked Registered Seeds State buildAccount newcomers step)

/-! ### Codes that are asked for -/

/-- Whether an action brings an empty code to the store itself. -/
def Action.codeless : Action → Bool
  | .store c => c.codeless
  | _ => false

def Moment.codeless : Moment → Bool
  | .visit v => v.action.codeless
  | .turn _ => false

theorem add_writes_code (requestId : String) (account : Uuid) (address code : String) :
    Writes (fun c => c.codeless = false) 1 (Registry.add requestId account address code) := by
  by_cases hcode : code = ""
  · subst hcode
    exact .fail
  · have hfilled : decide (code = "") = false := decide_eq_false hcode
    exact Registry.add_writes hfilled hfilled hfilled

theorem provision_writes_code (requestId address code : String) :
    Writes (fun c => c.codeless = false) 1 (Registry.provision requestId address code) := by
  by_cases hcode : code = ""
  · subst hcode
    exact .fail
  · exact Registry.provision_writes (decide_eq_false hcode)

/-- **No operation asks for an empty code**, be the codes that it draws empty: the registry refuses
these. -/
theorem Action.program_writes_code {requestId : String} {codeLength : Nat} {action : Action}
    {program : Program Result} (h : action.program? requestId codeLength = some program)
    (ha : action.codeless = false) : program.Writes (fun c => c.codeless = false) 1 := by
  cases action with
  | add account address code =>
    cases h
    exact (add_writes_code ..).map _
  | provision address code =>
    cases h
    exact (provision_writes_code ..).map _
  | addEmail sender account email =>
    cases h
    refine Writes.map (Writes.drawCode.after fun code => ?_) _
    refine (add_writes_code ..).before fun record => ?_
    exact Registry.getCode_writes.after fun stored => Writes.deliver.after fun _ => .pure
  | provisionEmail email =>
    cases h
    exact Writes.map (Writes.drawCode.after fun code => provision_writes_code ..) _
  | store c =>
    cases h
    exact (storeProgram_writes c).imp fun _ hc => hc ▸ ha
  | addAccount | addPassword | addRole | addTag | addMethod | putRecord | advance | dump => cases h
  | verifyEmail email code =>
    refine (Action.program_writes h).imp fun c hc => ?_
    cases hc with
    | verifyEmail hc =>
      cases hc
      rfl
  | removeEmail account email =>
    refine (Action.program_writes h).imp fun c hc => ?_
    cases hc with
    | removeEmail hc =>
      cases hc
      rfl
  | _ =>
    -- what is left asks for no write, or for one without a code
    refine (Action.program_writes h).imp fun c hc => ?_
    cases hc <;> rfl

/-! ### One moment -/

section Moment
variable {P : Call → Prop} {codeLength : Nat} {c : Crowd Result} {m : Moment}

/-- Every request under way makes at most one write, of those in `P`. -/
def Crowd.Asks (P : Call → Prop) (c : Crowd Result) : Prop :=
  ∀ k p, c.program? k = some p → p.Writes P 1

/-- A visit makes at most one write, of those in `P`, and puts no record into the store. -/
def Moment.Asks (P : Call → Prop) (codeLength : Nat) (m : Moment) : Prop :=
  m.injects = false ∧ ∀ v, m = .visit v → ∀ requestId p,
    v.action.program? requestId codeLength = some p → p.Writes P 1

theorem asks_start {requests : List Request} {w : World}
    (h : ∀ r ∈ requests, ∀ p, r.action.program? r.context.requestId codeLength = some p →
      p.Writes P 1) : (Crowd.start codeLength requests w).Asks P := by
  intro k p hp
  simp only [Crowd.program?, Crowd.start, List.getElem?_map, Option.map_map,
    Option.map_eq_some_iff] at hp
  obtain ⟨r, hr, rfl⟩ := hp
  show (r.begin codeLength).program.Writes P 1
  unfold Request.begin
  cases hprogram : r.action.program? r.context.requestId codeLength with
  | none => exact .done
  | some program => exact h r (List.mem_of_getElem? hr) program hprogram

/-- Every request makes at most one write, whatever it is. -/
theorem start_asks (codeLength : Nat) (requests : List Request) (w : World) :
    (Crowd.start codeLength requests w).Asks fun _ => True :=
  asks_start fun _ _ _ hp => (Action.program_writes hp).imp fun _ _ => trivial

theorem start_asks_code {requests : List Request} (h : ∀ r ∈ requests, r.action.codeless = false)
    (codeLength : Nat) (w : World) :
    (Crowd.start codeLength requests w).Asks fun c => c.codeless = false :=
  asks_start fun r hr _ hp => Action.program_writes_code hp (h r hr)

theorem Moment.asks (h : m.injects = false) (codeLength : Nat) : m.Asks (fun _ => True) codeLength :=
  ⟨h, fun _ _ _ _ hp => (Action.program_writes hp).imp fun _ _ => trivial⟩

theorem Moment.asks_code (h : m.injects = false) (hm : m.codeless = false) (codeLength : Nat) :
    m.Asks (fun c => c.codeless = false) codeLength := by
  refine ⟨h, fun v hv requestId p hp => ?_⟩
  subst hv
  exact Action.program_writes_code hp hm

theorem Crowd.Asks.pass (h : c.Asks P) : (c.pass codeLength m).Asks P := by
  cases m with
  | visit v => exact h
  | turn t => exact Crowd.forall_take (fun _ _ _ reply hk => hk.next reply) h t

/-- Seeding, looking at the store and moving the clock. -/
theorem apply_seeds {a : Action} (ha : ∀ record, a ≠ .putRecord record) (w : World) :
    Seeds w.memory (a.apply w).2.memory := by
  cases a with
  | putRecord record => exact absurd rfl (ha record)
  | addAccount handle name id => exact Store.Memory.addAccount_seeds ..
  | addPassword account hash => exact Store.Memory.addPassword_seeds ..
  | addRole account name => exact Store.Memory.addRole_seeds ..
  | addTag account name => exact Store.Memory.addTag_seeds ..
  | addMethod account method secret => exact Store.Memory.addMethod_seeds ..
  | _ => exact .refl _

/-- **One moment makes the store grow once.** -/
theorem moment_grows (h : c.Asks P) (hm : m.Asks P codeLength) :
    Grows P c.world.memory (c.pass codeLength m).world.memory := by
  cases m with
  | visit v =>
    show Grows P c.world.memory (v.perform codeLength c.world).2.memory
    unfold Visit.perform
    dsimp only
    split
    · rename_i program hprogram
      rcases (hm.2 v rfl _ program hprogram).run_step c.world with hkept | ⟨call, hcall, hstep⟩
      · rw [hkept]
        exact .kept
      · rw [hstep]
        exact .step hcall
    · refine .seeded (apply_seeds (fun record h => ?_) c.world)
      obtain ⟨action, context⟩ := v
      obtain rfl : action = .putRecord record := h
      cases hm.1
  | turn t =>
    show Grows P c.world.memory (c.take t).world.memory
    rcases c.take_memory t with hkept | ⟨k, call, next, rfl, hp, hstep⟩
    · rw [hkept]
      exact .kept
    · rw [hstep]
      cases hcall : call.isWrite with
      | true => exact .step ((h k _ hp).allowed hcall)
      | false =>
        rw [Store.Memory.step_of_read hcall]
        exact .kept

end Moment

/-! ### Whole histories -/

/-- The records that come into being in the course of a history, in this order. -/
def Crowd.births (codeLength : Nat) : Crowd Result → List Moment → List EmailRecord
  | _, [] => []
  | c, m :: rest =>
    newcomers c.world.memory (c.pass codeLength m).world.memory ++
      Crowd.births codeLength (c.pass codeLength m) rest

/-- In the course of the history the account is seeded. -/
def Crowd.Seeded (codeLength : Nat) (c : Crowd Result) (moments : List Moment) (account : Uuid) :
    Prop :=
  ∃ earlier handle name id context later,
    moments = earlier ++ .visit ⟨.addAccount handle name id, context⟩ :: later ∧
    (Store.Memory.addAccount handle name id (c.history codeLength earlier).world.memory).1 = account

section History
variable {P : Call → Prop} {codeLength : Nat} {c : Crowd Result} {moments : List Moment}

/-- What growth keeps, holds after any history. -/
theorem history_invariant {I : State → Prop} (hI : ∀ s s', I s → Grows P s s' → I s')
    (hasks : c.Asks P) (hmoments : ∀ m ∈ moments, m.Asks P codeLength)
    (h : I c.world.memory) : I (c.history codeLength moments).world.memory := by
  induction moments generalizing c with
  | nil => exact h
  | cons m rest ih =>
    have hgrows := moment_grows hasks (hmoments m (List.mem_cons_self ..))
    exact ih hasks.pass (fun m' hm' => hmoments m' (List.mem_cons_of_mem m hm')) (hI _ _ h hgrows)

/-- What growth keeps beside the records that come into being, holds after any history. -/
theorem births_invariant {I : List EmailRecord → State → Prop}
    (hI : ∀ births s s', I births s → Grows P s s' → I (births ++ newcomers s s') s')
    (born : List EmailRecord) (hasks : c.Asks P) (hmoments : ∀ m ∈ moments, m.Asks P codeLength)
    (h : I born c.world.memory) :
    I (born ++ c.births codeLength moments) (c.history codeLength moments).world.memory := by
  induction moments generalizing c born with
  | nil =>
    rw [Crowd.births, List.append_nil]
    exact h
  | cons m rest ih =>
    have hgrows := moment_grows hasks (hmoments m (List.mem_cons_self ..))
    have hrest := ih _ hasks.pass (fun m' hm' => hmoments m' (List.mem_cons_of_mem m hm'))
      (hI _ _ _ h hgrows)
    rw [Crowd.births, ← List.append_assoc]
    exact hrest

theorem registered_history {born : List EmailRecord} (hasks : c.Asks P)
    (hmoments : ∀ m ∈ moments, m.Asks P codeLength) (h : Registered born c.world.memory) :
    Registered (born ++ c.births codeLength moments) (c.history codeLength moments).world.memory :=
  births_invariant (fun _ _ _ h hg => h.grows hg) born hasks hmoments h

theorem Crowd.Asks.history (hasks : c.Asks P) (moments : List Moment) :
    (c.history codeLength moments).Asks P := by
  induction moments generalizing c with
  | nil => exact hasks
  | cons m rest ih => exact ih hasks.pass

/-- Who has been seeded is known from then on. -/
theorem knows_of_seeded (hasks : c.Asks P) (hmoments : ∀ m ∈ moments, m.Asks P codeLength)
    {account : Uuid} (h : c.Seeded codeLength moments account) :
    (c.history codeLength moments).world.memory.knows account = true := by
  obtain ⟨earlier, handle, name, id, context, later, rfl, rfl⟩ := h
  have hlater : ∀ m ∈ later, m.Asks P codeLength :=
    fun m hm => hmoments m (List.mem_append_right _ (List.mem_cons_of_mem _ hm))
  have hthen : ((c.history codeLength earlier).pass codeLength
      (.visit ⟨.addAccount handle name id, context⟩)).world.memory.knows _ = true :=
    Store.Memory.addAccount_knows ..
  rw [Crowd.history_append, Crowd.history, List.foldl_cons]
  exact history_invariant (fun _ _ h hg => hg.knows h) (hasks.history earlier).pass hlater hthen

end History

/-- **What every reachable store is like.** After any history from the empty store, whatever else is
called in it, the store is registered with the records that came into being; what is gone of these
stays gone and is not removed again; verified records have owners, and records have codes if no
empty one was brought to the store itself. Accounts have their edges, those that were seeded can be
built, and a call fails only for an owner that never was seeded. -/
theorem representation_invariant (codeLength : Nat) (requests : List Request) (w : World)
    (hw : w.memory = .empty) (past : List Moment) (hpast : ∀ m ∈ past, m.injects = false) :
    let start := Crowd.start codeLength requests w
    let now := start.history codeLength past
    Registered (start.births codeLength past) now.world.memory ∧
    (∀ b ∈ start.births codeLength past, (∀ x r, now.record? x = some r → r.id ≠ b.id) →
      ∀ future, (∀ m ∈ future, m.injects = false) →
        let later := (now.history codeLength future).world.memory
        (∀ x r, later.emails.get? x = some r → r.id ≠ b.id) ∧
        ∀ account, step (.deleteEmail b.id account) later = (.ok (.count 0), later)) ∧
    (∀ x r, now.record? x = some r → r.verified = true → r.owner ≠ none) ∧
    ((∀ r ∈ requests, r.action.codeless = false) → (∀ m ∈ past, m.codeless = false) →
      Coded now.world.memory) ∧
    Linked now.world.memory ∧
    (∀ account, start.Seeded codeLength past account →
      ∀ withRoles, ∃ a, buildAccount account withRoles now.world.memory = .ok a) ∧
    ∀ c fault, (step c now.world.memory).1 = .error fault →
      ∃ address r owner, now.record? address = some r ∧ r.owner = some owner ∧
        ¬ start.Seeded codeLength past owner ∧
        (c = .accountByEmail address ∨ ∃ code, c = .accountByCode address code) := by
  intro start now
  have hemails : w.memory.emails = .empty := by rw [hw]; rfl
  have hasks : start.Asks fun _ => True := start_asks codeLength requests w
  have hmoments : ∀ m ∈ past, m.Asks (fun _ => True) codeLength :=
    fun m hm => Moment.asks (hpast m hm) codeLength
  have hregistered : Registered (start.births codeLength past) now.world.memory :=
    registered_history hasks hmoments (Store.Memory.registered_of_no_records hemails)
  have hlinked : Linked now.world.memory :=
    history_invariant (fun _ _ h hg => h.grows hg) hasks hmoments
      (show Linked w.memory by rw [hw]; exact Store.Memory.linked_empty)
  have hknows : ∀ account, start.Seeded codeLength past account →
      now.world.memory.knows account = true :=
    fun account h => knows_of_seeded hasks hmoments h
  refine ⟨hregistered, fun b hb habsent future hfuture => ?_, ?_, fun hrequests hbrought => ?_,
    hlinked, fun account h => Store.Memory.buildAccount_of_linked hlinked (hknows account h),
    fun c fault hf => ?_⟩
  · intro later
    have hgone : Gone b.id later :=
      history_invariant (fun _ _ h hg => h.grows hg) (hasks.history past)
        (fun m hm => Moment.asks (hfuture m hm) codeLength) ⟨hregistered.drawn b hb, habsent⟩
    exact ⟨hgone.absent, hgone.delete⟩
  · exact ((underway_start codeLength requests hemails).history codeLength hpast).owned
  · exact history_invariant (fun _ _ h hg => h.grows hg) (start_asks_code hrequests codeLength w)
      (fun m hm => Moment.asks_code (hpast m hm) (hbrought m hm) codeLength)
      (Store.Memory.coded_of_no_records hemails)
  · obtain ⟨address, r, owner, hr, ho, hunknown, hcall⟩ :=
      Store.Memory.step_fault_of_linked hlinked hf
    refine ⟨address, r, owner, hr, ho, fun hseeded => ?_, hcall⟩
    rw [hknows owner hseeded] at hunknown
    cases hunknown

/-- An account claims an address, removes it, and claims it again. -/
def reclaimedOnce : List Moment :=
  [.visit ⟨.addAccount "alice" none (some ⟨1⟩), .plain⟩,
    .turn (.proceed 0), .turn (.proceed 0),
    .visit ⟨.remove ⟨1⟩ (.drawn 1), .plain⟩,
    .visit ⟨.add ⟨1⟩ "a@x.com" "222222", .plain⟩]

/-- The record that was removed is not the one that came after it: its identifier never names one
again, and a removal by it never removes anything. -/
theorem representation_invariant_reclaimed :
    let requests : List Request := [⟨.new "r" none, .add ⟨1⟩ "a@x.com" "111111"⟩]
    let start := Crowd.start 6 requests ⟨.empty, 0, .standard, []⟩
    let now := start.history 6 reclaimedOnce
    start.births 6 reclaimedOnce =
      [⟨.drawn 1, "a@x.com", some ⟨1⟩, "111111", false⟩,
        ⟨.drawn 2, "a@x.com", some ⟨1⟩, "222222", false⟩] ∧
    ∀ future, (∀ m ∈ future, m.injects = false) →
      let later := (now.history 6 future).world.memory
      step (.deleteEmail (.drawn 1) ⟨1⟩) later = (.ok (.count 0), later) := by
  intro requests start now
  have hbirths : start.births 6 reclaimedOnce =
      [⟨.drawn 1, "a@x.com", some ⟨1⟩, "111111", false⟩,
        ⟨.drawn 2, "a@x.com", some ⟨1⟩, "222222", false⟩] := by decide +kernel
  refine ⟨hbirths, fun future hfuture => ?_⟩
  have h := representation_invariant 6 requests ⟨.empty, 0, .standard, []⟩ rfl reclaimedOnce
    (by simp [reclaimedOnce, Moment.injects])
  have habsent : ∀ x r, now.record? x = some r → r.id ≠ .drawn 1 := by
    intro x r hr
    have hrows : ∀ row ∈ now.world.memory.emails.rows, row.2.id ≠ .drawn 1 := by decide +kernel
    exact hrows (x, r) (Table.get?_eq_some_iff.1 hr)
  exact (h.2.1 ⟨.drawn 1, "a@x.com", some ⟨1⟩, "111111", false⟩
    (hbirths ▸ List.mem_cons_self ..) habsent future hfuture).2 ⟨1⟩

end EmailOwnership.Rehearsal
