import EmailOwnership.Proofs.Database.Mirror

/-! The database store refines the memory store.

Over a table that mirrors the memory store's records, each call on records answers as the memory
store does and leaves a table that mirrors its records again, as long as the context is live and
the time left has a number of milliseconds. If it has none, the call fails and changes nothing.
Runs of such calls agree up to a renaming of the identifiers that they draw: a creation that is
lost draws one in the database and none in memory (`table_mirrors_memory`). -/
namespace EmailOwnership.Store.Database
open Store.Memory (Keyed Filed step)

/-! ### One call on the table -/

/-- The time left has a number of milliseconds, if there is a deadline at all. -/
def Bounded {κ : Type} (context : Context κ) (now : Float) : Prop :=
  ∀ seconds, context.remaining now = some seconds → milliseconds? seconds ≠ none

section Table
variable {s : State EmailTable} {c : Call}

/-- The table takes no time: when the connection is registered, as much is left as before. -/
theorem remaining_table (s : State EmailTable) :
    (s.asked EmailTable.server).2.register.2.context.remaining
      (s.asked EmailTable.server).2.register.2.clock = s.context.remaining s.clock :=
  register_remaining _

/-- A connection to the table opens, unless the time left is boundless. -/
theorem opens_table (hbounded : Bounded s.context s.clock) :
    ∃ r, Opens EmailTable.server s r ∧ r.server.working = s.server.rows ∧ r.drawn = s.drawn := by
  have hserver := register_server (s.asked EmailTable.server).2
  have hopened : ∃ r, (s.asked EmailTable.server).2.opened EmailTable.server = (.ok (), r) ∧
      r.server = (s.asked EmailTable.server).2.server := by
    simp only [State.opened]
    rw [remaining_table]
    cases hleft : s.context.remaining s.clock with
    | none => exact ⟨_, rfl, hserver⟩
    | some seconds =>
      obtain ⟨n, hn⟩ := Option.ne_none_iff_exists'.1 (hbounded seconds hleft)
      rw [limited_of_finite hn]
      exact ⟨_, rfl, hserver⟩
  obtain ⟨r, hr, hkept⟩ := hopened
  refine ⟨r, ⟨rfl, hr⟩, by rw [hkept]; rfl, ?_⟩
  have hdrawn := opened_drawn EmailTable.server (s.asked EmailTable.server).2
  rw [hr] at hdrawn
  exact hdrawn

theorem perform_boundless (hlive : s.context.isDone s.clock = false) {seconds : Float}
    (hleft : s.context.remaining s.clock = some seconds) (hnone : milliseconds? seconds = none) :
    (perform EmailTable.server c s).1 = .error .boundlessTimeout ∧
      (perform EmailTable.server c s).2.server.rows = s.server.rows := by
  have hserver := register_server (s.asked EmailTable.server).2
  have hopened : (s.asked EmailTable.server).2.opened EmailTable.server =
      (.error (.fault .boundlessTimeout), (s.asked EmailTable.server).2.register.2) := by
    simp only [State.opened]
    rw [remaining_table, hleft, limited_of_boundless hnone]
    rfl
  rw [perform_of_connected EmailTable.server hlive rfl, conduct_of_not_opened _ hopened]
  refine ⟨rfl, ?_⟩
  show (EmailTable.server.rollback (s.asked EmailTable.server).2.register.2.server).2.rows = _
  rw [hserver]
  rfl

/-- A statement of a call is applied to the rows. -/
theorem perform_table (hlive : s.context.isDone s.clock = false)
    (hbounded : Bounded s.context s.clock) {a : Ask} (ha : c.ask? (.drawn (s.drawn + 1)) = some a)
    {result : ResultSet} {rows : List EmailRow}
    (happly : a.statement.applyTo? a.parameters s.server.rows = some (result, rows)) :
    (perform EmailTable.server c s).1 = a.read result ∧
      (perform EmailTable.server c s).2.server.rows = rows ∧
      (perform EmailTable.server c s).2.drawn = s.drawn + c.draws := by
  obtain ⟨r, hopens, hworking, hdrawn⟩ := opens_table hbounded
  have hexecute : EmailTable.server.execute (.emails a.statement) (some a.parameters) r.server =
      (.none, result, {r.server with working := rows}) := by
    simp only [EmailTable.server, Option.getD_some, hworking, happly]
  obtain ⟨hanswer, hserver, hdrawn', -⟩ := perform_of_opened hlive hopens.1 hopens.2
    (hdrawn ▸ ha) hexecute rfl rfl rfl
  exact ⟨hanswer, congrArg EmailTable.rows hserver, hdrawn ▸ hdrawn'⟩

end Table

/-! ### One call over a mirror -/

section Mirror
variable {ρ : Uuid → Uuid} {m : Memory.State} {s : State EmailTable} {c : Call}

/-- **A call over a mirror answers as the step does, and leaves a mirror.** -/
theorem perform_mirrors (hinjective : Function.Injective ρ) (hkeyed : Keyed m)
    (hunused : ∀ y r, m.emails.get? y = some r → r.id ≠ .drawn (m.drawn + 1))
    (hmirrors : Mirrors ρ m s.server.rows)
    (hnext : ∀ y owner k, c = .createEmail y owner k → m.emails.get? y = none →
      .drawn (s.drawn + 1) = ρ (.drawn (m.drawn + 1)))
    (hrecords : c.onRecords = true) (hlive : s.context.isDone s.clock = false)
    (hbounded : Bounded s.context s.clock) :
    (perform EmailTable.server (c.rename ρ) s).1 = (step c m).1.map (Reply.rename ρ) ∧
      Mirrors ρ (step c m).2 (perform EmailTable.server (c.rename ρ) s).2.server.rows ∧
      (perform EmailTable.server (c.rename ρ) s).2.drawn = s.drawn + c.draws := by
  obtain ⟨a, ha⟩ := ask?_of_onRecords (c := c.rename ρ) (by rwa [onRecords_rename])
    (.drawn (s.drawn + 1))
  obtain ⟨result, rows, happly, hread, hrows⟩ := apply_mirrors hkeyed hmirrors hinjective hunused hnext ha
  obtain ⟨hanswer, htable, hdrawn⟩ := perform_table hlive hbounded ha happly
  rw [draws_rename] at hdrawn
  exact ⟨hanswer.trans hread, by rw [htable]; exact hrows, hdrawn⟩

end Mirror

/-! ### Renumbering -/

/-- An identifier that is drawn after the first `n`. -/
def DrawnAfter (n : Nat) (u : Uuid) : Prop := ∃ k, n < k ∧ u = .drawn k

/-- Leaves out the identifier that is drawn after the first `n`. -/
def skip (n : Nat) (u : Uuid) : Uuid :=
  if (Uuid.drawn n).number < u.number then ⟨u.number + 1⟩ else u

theorem skip_injective (n : Nat) : Function.Injective (skip n) := by
  intro u v h
  obtain ⟨u⟩ := u
  obtain ⟨v⟩ := v
  simp only [skip] at h
  split at h <;> split at h <;> simp only [Uuid.mk.injEq] at h ⊢ <;> omega

theorem skip_drawn {n k : Nat} (h : n < k) : skip n (.drawn k) = .drawn (k + 1) := by
  have hlt : (Uuid.drawn n).number < (Uuid.drawn k).number := by
    simp only [Uuid.drawn]
    omega
  rw [skip, if_pos hlt]
  rfl

theorem skip_of_not_drawn {n : Nat} {u : Uuid} (h : ¬ DrawnAfter n u) : skip n u = u := by
  rw [skip, if_neg]
  intro hlt
  simp only [Uuid.drawn] at hlt
  refine h ⟨u.number - 0x40008000000000000000, by omega, ?_⟩
  obtain ⟨number⟩ := u
  simp only [Uuid.drawn, Uuid.mk.injEq] at hlt ⊢
  omega

/-- A renaming that takes the identifiers drawn after the first `n` to those drawn after the first
`d`, in order. -/
structure Renumbers (ρ : Uuid → Uuid) (n d : Nat) : Prop where
  injective : Function.Injective ρ
  next : ∀ k, ρ (.drawn (n + 1 + k)) = .drawn (d + 1 + k)

theorem renumbers_self (n : Nat) : Renumbers (fun u => u) n n := ⟨fun _ _ h => h, fun _ => rfl⟩

section Renumbers
variable {ρ : Uuid → Uuid} {n d : Nat} (h : Renumbers ρ n d)
include h

/-- Both have drawn one more. -/
theorem Renumbers.succ : Renumbers ρ (n + 1) (d + 1) := by
  refine ⟨h.injective, fun k => ?_⟩
  have hk := h.next (k + 1)
  rwa [show n + 1 + (k + 1) = n + 1 + 1 + k by omega,
    show d + 1 + (k + 1) = d + 1 + 1 + k by omega] at hk

/-- One more has been drawn on the right. -/
theorem Renumbers.skip : Renumbers (Database.skip d ∘ ρ) n (d + 1) := by
  refine ⟨(skip_injective d).comp h.injective, fun k => ?_⟩
  rw [Function.comp_apply, h.next k, skip_drawn (by omega)]
  congr 1
  omega

/-- This changes nothing of the identifiers drawn before. -/
theorem Renumbers.skip_eq {u : Uuid} (hu : ¬ DrawnAfter n u) : Database.skip d (ρ u) = ρ u := by
  refine skip_of_not_drawn ?_
  rintro ⟨k, hk, hρ⟩
  have hn := h.next (k - d - 1)
  rw [show d + 1 + (k - d - 1) = k by omega, ← hρ] at hn
  exact hu ⟨n + 1 + (k - d - 1), by omega, (h.injective hn).symm⟩

end Renumbers

/-! ### Runs -/

/-- A call with the context and the time at which it is made. -/
structure Asking where
  call : Call
  context : Context Nat
  clock : Float

def Asking.rename (ρ : Uuid → Uuid) (q : Asking) : Asking := {q with call := q.call.rename ρ}

/-- A call on records, with time left, and not without bound. -/
structure Asking.Ordinary (q : Asking) : Prop where
  records : q.call.onRecords = true
  live : q.context.isDone q.clock = false
  bounded : Bounded q.context q.clock

/-- The calls in turn on the memory store, with the answers. -/
def runMemory : List Asking → Memory.State → List (Except Fault Reply) × Memory.State
  | [], m => ([], m)
  | q :: rest, m =>
    let (answer, m) := Memory.perform q.context q.clock q.call m
    let (answers, m) := runMemory rest m
    (answer :: answers, m)

/-- The calls in turn on the table, with the answers. -/
def runTable : List Asking → State EmailTable → List (Except Fault Reply) × State EmailTable
  | [], s => ([], s)
  | q :: rest, s =>
    let (answer, s) :=
      perform EmailTable.server q.call {s with context := q.context, clock := q.clock}
    let (answers, s) := runTable rest s
    (answer :: answers, s)

section Runs
variable {ρ : Uuid → Uuid} {m : Memory.State} {d : Nat}

/-- Only a creation draws an identifier. -/
theorem step_drawn {c : Call} (h : c.draws = 0) (m : Memory.State) : (step c m).2.drawn = m.drawn := by
  cases hc : c.isWrite with
  | false => rw [Memory.step_of_read hc]
  | true =>
    cases c with
    | createEmail => cases h
    | claimUnowned | reissueCode | markVerified =>
      simp only [step]
      split
      · split <;> rfl
      · rfl
    | deleteEmail =>
      simp only [step]
      split <;> rfl
    | _ => cases hc

/-- After a call there is a renumbering again, the same on what was drawn before. -/
theorem Renumbers.step (h : Renumbers ρ m.drawn d) (c : Call) :
    ∃ ρ', Renumbers ρ' (step c m).2.drawn (d + c.draws) ∧
      (∀ u, ¬ DrawnAfter m.drawn u → ρ' u = ρ u) ∧ m.drawn ≤ (step c m).2.drawn ∧
      ∀ y owner k, c = .createEmail y owner k → m.emails.get? y = none →
        (step c m).2.drawn = m.drawn + 1 ∧ ρ' (.drawn (m.drawn + 1)) = .drawn (d + 1) := by
  cases hc : c.draws with
  | zero =>
    have hdrawn := step_drawn hc m
    rw [hdrawn]
    refine ⟨ρ, h, fun _ _ => rfl, Nat.le_refl _, ?_⟩
    rintro y owner k rfl
    cases hc
  | succ n =>
    cases c with
    | createEmail x owner' code =>
      cases hc
      cases hr : m.emails.get? x with
      | some r =>
        rw [Memory.step_create_known hr]
        refine ⟨_, h.skip, fun u hu => h.skip_eq hu, Nat.le_refl _, ?_⟩
        intro y owner k heq hnone
        cases heq
        rw [hr] at hnone
        cases hnone
      | none =>
        rw [Memory.step_create hr]
        exact ⟨ρ, h.succ, fun _ _ => rfl, Nat.le_succ _, fun _ _ _ _ _ => ⟨rfl, h.next 0⟩⟩
    | _ => cases hc

/-- Renamings that agree on the identifiers of the records mirror them in the same rows. -/
theorem Mirrors.congr {ρ' : Uuid → Uuid} {rows : List EmailRow} (hfiled : Filed m)
    (h : Mirrors ρ m rows) (hsame : ∀ u, ¬ DrawnAfter m.drawn u → ρ' u = ρ u) :
    Mirrors ρ' m rows := by
  rw [Mirrors, h]
  refine List.map_congr_left fun r hr => ?_
  obtain ⟨y, hy⟩ := Table.mem_values_iff.1 hr
  rw [rowOf, rowOf, EmailRecord.rename, EmailRecord.rename, hsame]
  rintro ⟨k, hk, hid⟩
  exact hfiled.unused y r hy k hk hid

/-- **Runs agree up to a renaming**, which is chosen as the run goes on. -/
theorem run_mirrors {askings : List Asking} (hordinary : ∀ q ∈ askings, q.Ordinary)
    (hfiled : Filed m) (h : Renumbers ρ m.drawn d) :
    ∃ ρ', Function.Injective ρ' ∧ (∀ u, ¬ DrawnAfter m.drawn u → ρ' u = ρ u) ∧
      ∀ s : State EmailTable, s.drawn = d → Mirrors ρ' m s.server.rows →
        (runTable (askings.map (Asking.rename ρ')) s).1 =
          (runMemory askings m).1.map (fun answer => answer.map (Reply.rename ρ')) ∧
        Mirrors ρ' (runMemory askings m).2
          (runTable (askings.map (Asking.rename ρ')) s).2.server.rows := by
  induction askings generalizing m ρ d with
  | nil => exact ⟨ρ, h.injective, fun _ _ => rfl, fun s _ hmirrors => ⟨rfl, hmirrors⟩⟩
  | cons q rest ih =>
    obtain ⟨hrecords, hlive, hbounded⟩ := hordinary q (List.mem_cons_self ..)
    obtain ⟨ρ₁, hρ₁, hbefore, hgrows, hcreated⟩ := h.step q.call
    obtain ⟨ρ', hinjective, hagree, hrun⟩ := ih (fun q' hq' => hordinary q' (List.mem_cons_of_mem q hq'))
      (hfiled.edit (Memory.step_edit q.call m)) hρ₁
    refine ⟨ρ', hinjective, fun u hu => ?_, fun s hs hmirrors => ?_⟩
    · have hu' : ¬ DrawnAfter (step q.call m).2.drawn u := by
        rintro ⟨k, hk, rfl⟩
        exact hu ⟨k, by omega, rfl⟩
      rw [hagree u hu', hbefore u hu]
    · have hnext : ∀ y owner k, q.call = .createEmail y owner k → m.emails.get? y = none →
          .drawn (s.drawn + 1) = ρ' (.drawn (m.drawn + 1)) := by
        intro y owner k hc hnone
        obtain ⟨hone, hρ⟩ := hcreated y owner k hc hnone
        rw [hagree, hρ, hs]
        rintro ⟨j, hj, heq⟩
        have := Uuid.drawn_injective heq
        omega
      obtain ⟨hanswer, hmirrors', hdrawn⟩ := perform_mirrors (c := q.call)
        (s := {s with context := q.context, clock := q.clock}) hinjective hfiled.toKeyed
        (fun y r hr => hfiled.unused y r hr _ (Nat.lt_succ_self _)) hmirrors hnext hrecords hlive hbounded
      obtain ⟨hanswers, hlast⟩ := hrun _ (hdrawn.trans (by rw [← hs])) hmirrors'
      simp only [List.map_cons, runTable, runMemory, Memory.perform_live hlive, Asking.rename]
      exact ⟨by rw [hanswer]; exact congrArg _ hanswers, hlast⟩

end Runs

/-! ### The refinement -/

/-- A step on records always answers. -/
theorem step_answers {c : Call} (h : c.onRecords = true) (m : Memory.State) :
    ∃ reply, (step c m).1 = .ok reply := by
  cases c with
  | getEmail => exact ⟨_, rfl⟩
  | createEmail | deleteEmail =>
    simp only [step]
    split <;> exact ⟨_, rfl⟩
  | claimUnowned | reissueCode | markVerified =>
    simp only [step]
    split
    · split <;> exact ⟨_, rfl⟩
    · exact ⟨_, rfl⟩
  | _ => cases h

/-- **The database store refines the memory store**, call by call and over whole runs, except where
the time left has no number of milliseconds. -/
theorem table_mirrors_memory {m : Memory.State} {s : State EmailTable} (hkeyed : Keyed m)
    (hmirrors : Mirrors (fun u => u) m s.server.rows) (hdrawn : s.drawn = m.drawn)
    (hunused : ∀ y r, m.emails.get? y = some r → r.id ≠ .drawn (m.drawn + 1)) :
    (∀ c, c.onRecords = true → s.context.isDone s.clock = false →
      (Bounded s.context s.clock →
        (perform EmailTable.server c s).1 = (Memory.perform s.context s.clock c m).1 ∧
        Mirrors (fun u => u) (Memory.perform s.context s.clock c m).2
          (perform EmailTable.server c s).2.server.rows) ∧
      (¬ Bounded s.context s.clock →
        (perform EmailTable.server c s).1 = .error .boundlessTimeout ∧
        (perform EmailTable.server c s).2.server.rows = s.server.rows ∧
        ∃ reply, (Memory.perform s.context s.clock c m).1 = .ok reply)) ∧
    (Filed m → ∀ askings : List Asking, (∀ q ∈ askings, q.Ordinary) →
      ∃ ρ, Function.Injective ρ ∧ (∀ u, ¬ DrawnAfter m.drawn u → ρ u = u) ∧
        (runTable (askings.map (Asking.rename ρ)) s).1 =
          (runMemory askings m).1.map (fun answer => answer.map (Reply.rename ρ)) ∧
        Mirrors ρ (runMemory askings m).2
          (runTable (askings.map (Asking.rename ρ)) s).2.server.rows) := by
  refine ⟨fun c hrecords hlive => ⟨fun hbounded => ?_, fun hboundless => ?_⟩,
    fun hfiled askings hordinary => ?_⟩
  · rw [Memory.perform_live hlive]
    have hnext : ∀ y owner k, c = .createEmail y owner k → m.emails.get? y = none →
        Uuid.drawn (s.drawn + 1) = .drawn (m.drawn + 1) := fun _ _ _ _ _ => by rw [hdrawn]
    obtain ⟨hanswer, hmirrors', -⟩ := perform_mirrors (fun _ _ h => h) hkeyed hunused
      hmirrors hnext hrecords hlive hbounded
    rw [Call.rename_self] at hanswer hmirrors'
    refine ⟨hanswer.trans ?_, hmirrors'⟩
    cases (step c m).1 with
    | error fault => rfl
    | ok reply => exact congrArg Except.ok reply.rename_self
  · rw [Memory.perform_live hlive]
    simp only [Bounded, Classical.not_forall, Classical.not_not] at hboundless
    obtain ⟨seconds, hleft, hnone⟩ := hboundless
    obtain ⟨hanswer, hkept⟩ := perform_boundless (c := c) hlive hleft hnone
    exact ⟨hanswer, hkept, step_answers hrecords m⟩
  · obtain ⟨ρ, hinjective, hsame, hrun⟩ := run_mirrors hordinary hfiled (renumbers_self m.drawn)
    exact ⟨ρ, hinjective, hsame, hrun s hdrawn (hmirrors.congr hfiled hsame)⟩

/-- A memory store with one provisioned record. -/
def provisioned : Memory.State := (step (.createEmail "a@x.com" none "0") .empty).2

/-- The table of its record. -/
def provisionedTable : State EmailTable :=
  ⟨.ofRecords provisioned.emails.values, 0, .new "r" none, provisioned.drawn, []⟩

/-- A creation that is lost, and one that is not. -/
def creations : List Asking :=
  [⟨.createEmail "a@x.com" (some ⟨7⟩) "1", .new "r" none, 0⟩,
    ⟨.createEmail "b@x.com" (some ⟨7⟩) "2", .new "r" none, 0⟩]

/-- The record that the second creation makes has the second identifier in memory, and the third
in the database. -/
theorem table_mirrors_memory_lost :
    (perform EmailTable.server (.getEmail "a@x.com") provisionedTable).1 =
        (Memory.perform provisionedTable.context provisionedTable.clock (.getEmail "a@x.com")
          provisioned).1 ∧
      ∃ ρ, Function.Injective ρ ∧ ρ (.drawn 1) = .drawn 1 ∧ ρ (.drawn 2) = .drawn 3 ∧
        Mirrors ρ (runMemory creations provisioned).2
          (runTable (creations.map (Asking.rename ρ)) provisionedTable).2.server.rows := by
  have hfiled : Filed provisioned :=
    (Memory.filed_of_no_records rfl).edit (Memory.step_edit (.createEmail "a@x.com" none "0") .empty)
  obtain ⟨hone, hrun⟩ := table_mirrors_memory (s := provisionedTable) hfiled.toKeyed rfl rfl
    fun y r hr => hfiled.unused y r hr _ (Nat.lt_succ_self _)
  have hordinary : ∀ q ∈ creations, q.Ordinary := by
    intro q hq
    simp only [creations, List.mem_cons, List.not_mem_nil, or_false] at hq
    rcases hq with rfl | rfl <;> exact ⟨rfl, rfl, fun _ h => by cases h⟩
  obtain ⟨ρ, hinjective, hsame, hanswers, hmirrors⟩ := hrun hfiled creations hordinary
  refine ⟨((hone (.getEmail "a@x.com") rfl rfl).1 fun _ h => by cases h).1, ρ, hinjective,
    hsame _ ?_, ?_, hmirrors⟩
  · rintro ⟨k, hk, heq⟩
    exact absurd (Uuid.drawn_injective heq) (Nat.ne_of_lt hk)
  · have hsecond := congrArg (fun answers => answers[1]?) hanswers
    change some (Except.ok (Reply.record ⟨.uuid (.drawn 3), _, _, _, _⟩)) =
      some (Except.ok (Reply.record ⟨.uuid (ρ (.drawn 2)), _, _, _, _⟩)) at hsecond
    simp only [Option.some.injEq, Except.ok.injEq, Reply.record.injEq, EmailRow.mk.injEq,
      Value.uuid.injEq] at hsecond
    exact hsecond.1.symm

end EmailOwnership.Store.Database
