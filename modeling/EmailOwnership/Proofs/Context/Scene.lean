import EmailOwnership.Context
import Mathlib.Data.List.Nodup
import Mathlib.Data.List.Range

/-! Registrations of callbacks, and what becomes of them.

A context hands its callbacks out and leaves it to others to run them. A `Scene` follows both
sides: it numbers the registrations, and keeps the loops that are running callbacks. A callback
under way may make any call on its context, and ends by returning or by raising; a raise ends
the loop around it. So a list of events is a course that calls and callbacks may take, and every
list is one: nothing is asked of what callbacks do, or of whether it ever ends.

An event moves registrations on, from the pending ones into a loop and from there to those that
ran, and brings none back (`held_run`). Until a context is cancelled nothing runs (`Orderly`).
From the first cancellation on one loop has the callbacks that were pending, and every other
loop has nothing left to run (`Clearing`). -/
namespace EmailOwnership.Context

/-- One registration of a callback. The same callback may be registered many times. -/
structure Registration (κ : Type) where
  number : Nat
  callback : κ
  deriving DecidableEq

/-- A loop over callbacks: the one under way, and those still to run. -/
structure Loop (κ : Type) where
  running : Registration κ
  left : List (Registration κ)

structure Scene (κ : Type) where
  context : Context (Registration κ)
  /-- All registrations so far. -/
  registered : List (Registration κ)
  /-- Those whose callbacks have begun, in this order. -/
  ran : List (Registration κ)
  /-- Those whose callbacks have raised. -/
  raised : List (Registration κ)
  /-- The loops under way, innermost first. -/
  loops : List (Loop κ)

/-- What may happen next: a call on the context, from outside or from a callback, or the end of
the callback that is under way. -/
inductive Event (κ : Type)
  | register (callback : κ)
  | unregister (callback : κ)
  | cancel
  | finish
  | fail

/-- The callback that an event registers. -/
def Event.registers? {κ : Type} : Event κ → Option κ
  | .register k => some k
  | _ => none

namespace Scene
variable {κ : Type}

/-- A context that nobody is calling. Its pending callbacks are the first registrations. -/
def start (c : Context κ) : Scene κ :=
  let pending := c.pending.zipIdx.map fun x => ⟨x.2, x.1⟩
  ⟨⟨c.requestId, c.deadline, c.cancelled, pending⟩, pending, [], [], []⟩

/-- Begins a loop, if there is anything to run. -/
def enter (s : Scene κ) : List (Registration κ) → Scene κ
  | [] => s
  | r :: left => {s with ran := s.ran ++ [r], loops := ⟨r, left⟩ :: s.loops}

theorem registered_enter (s : Scene κ) (queue : List (Registration κ)) :
    (s.enter queue).registered = s.registered := by
  cases queue <;> rfl

theorem context_enter (s : Scene κ) (queue : List (Registration κ)) :
    (s.enter queue).context = s.context := by
  cases queue <;> rfl

/-- The registration that a call makes next. -/
def next (s : Scene κ) (k : κ) : Registration κ := ⟨s.registered.length, k⟩

section Course
variable [DecidableEq κ]

def step (s : Scene κ) : Event κ → Scene κ
  | .register k =>
    let (now?, context) := s.context.onCancel (s.next k)
    enter {s with context := context, registered := s.registered ++ [s.next k]} now?.toList
  | .unregister k =>
    let pending := s.context.pending.eraseP (fun r => decide (r.callback = k))
    {s with context := {s.context with pending := pending}}
  | .cancel =>
    let (callbacks, context) := s.context.cancel
    enter {s with context := context} callbacks
  | .finish =>
    match s.loops with
    | [] => s
    | loop :: outer => enter {s with loops := outer} loop.left
  | .fail =>
    match s.loops with
    | [] => s
    | loop :: outer => {s with raised := s.raised ++ [loop.running], loops := outer}

def run (s : Scene κ) (events : List (Event κ)) : Scene κ := events.foldl step s

variable {s : Scene κ}

theorem run_append (s : Scene κ) (a b : List (Event κ)) : s.run (a ++ b) = (s.run a).run b :=
  List.foldl_append

/-- A live context keeps the callback. -/
theorem step_register_live (h : s.context.cancelled = false) (k : κ) :
    s.step (.register k) =
      {s with
        context := {s.context with pending := s.context.pending ++ [s.next k]}
        registered := s.registered ++ [s.next k]} := by
  simp [step, onCancel, h, enter]

/-- A cancelled one runs it at once. -/
theorem step_register_cancelled (h : s.context.cancelled = true) (k : κ) :
    s.step (.register k) =
      {s with
        registered := s.registered ++ [s.next k]
        ran := s.ran ++ [s.next k]
        loops := ⟨s.next k, []⟩ :: s.loops} := by
  simp [step, onCancel, h, enter]

theorem step_cancel (s : Scene κ) :
    s.step .cancel =
      enter {s with context := {s.context with cancelled := true, pending := []}}
        s.context.pending := rfl

theorem step_finish {loop : Loop κ} {outer : List (Loop κ)} (h : s.loops = loop :: outer) :
    s.step .finish = enter {s with loops := outer} loop.left := by
  simp only [step, h]

theorem step_fail {loop : Loop κ} {outer : List (Loop κ)} (h : s.loops = loop :: outer) :
    s.step .fail = {s with raised := s.raised ++ [loop.running], loops := outer} := by
  simp only [step, h]

end Course

/-! ### The context behind the scene -/

/-- The context as it is without the numbers. -/
def shown (s : Scene κ) : Context κ :=
  ⟨s.context.requestId, s.context.deadline, s.context.cancelled,
    s.context.pending.map Registration.callback⟩

theorem map_callback_start (c : Context κ) :
    (start c).registered.map Registration.callback = c.pending := by
  simp [start, Function.comp_def]

theorem shown_start (c : Context κ) : (start c).shown = c :=
  congrArg (Context.mk c.requestId c.deadline c.cancelled) (map_callback_start c)

theorem shown_enter (s : Scene κ) (queue : List (Registration κ)) :
    (s.enter queue).shown = s.shown := by
  cases queue <;> rfl

theorem map_callback_eraseP [DecidableEq κ] (k : κ) (rs : List (Registration κ)) :
    (rs.eraseP fun r => decide (r.callback = k)).map Registration.callback =
      (rs.map Registration.callback).erase k := by
  induction rs with
  | nil => rfl
  | cons r rest ih =>
    by_cases h : r.callback = k
    · simp [h]
    · simp [h, ih]

/-- An event is the context's own operation, or none. -/
theorem shown_step [DecidableEq κ] (s : Scene κ) (e : Event κ) :
    (s.step e).shown =
      match e with
      | .register k => (s.shown.onCancel k).2
      | .unregister k => s.shown.unregister k
      | .cancel => s.shown.cancel.2
      | .finish | .fail => s.shown := by
  cases e with
  | register k =>
    cases h : s.context.cancelled with
    | true =>
      rw [step_register_cancelled h]
      simp [shown, onCancel, h]
    | false =>
      rw [step_register_live h]
      simp [shown, onCancel, h, next]
  | unregister k => exact congrArg (Context.mk _ _ _) (map_callback_eraseP k _)
  | cancel => exact shown_enter ..
  | finish =>
    cases h : s.loops with
    | nil => simp only [step, h]
    | cons loop outer =>
      rw [step_finish h]
      exact shown_enter ..
  | fail =>
    cases h : s.loops with
    | nil => simp only [step, h]
    | cons loop outer =>
      rw [step_fail h]
      rfl

section Cancelled
variable [DecidableEq κ]

/-- Only a cancellation cancels, and nothing undoes it. -/
theorem cancelled_step (s : Scene κ) (e : Event κ) :
    (s.step e).context.cancelled = true ↔ s.context.cancelled = true ∨ e = .cancel := by
  have hshown := congrArg Context.cancelled (shown_step s e)
  cases e with
  | register k =>
    simp only [shown, onCancel] at hshown
    cases h : s.context.cancelled <;> simp [hshown, h]
  | unregister | cancel | finish | fail => simp_all [shown, Context.cancel, Context.unregister]

theorem cancelled_run (s : Scene κ) (events : List (Event κ)) :
    (s.run events).context.cancelled = true ↔ s.context.cancelled = true ∨ .cancel ∈ events := by
  induction events generalizing s with
  | nil => simp [run]
  | cons e rest ih =>
    show ((s.step e).run rest).context.cancelled = true ↔ _
    rw [ih, cancelled_step, List.mem_cons, or_assoc, eq_comm (a := e)]

end Cancelled

/-! ### Registrations are only moved on -/

section Held
variable [DecidableEq κ] {s : Scene κ} {r : Registration κ}

/-- The registrations that have run or may still run. -/
def held (s : Scene κ) : List (Registration κ) :=
  s.ran ++ (s.loops.flatMap Loop.left ++ s.context.pending)

theorem count_enter (s : Scene κ) (queue : List (Registration κ)) (r : Registration κ) :
    (s.enter queue).held.count r = s.held.count r + queue.count r := by
  cases queue with
  | nil => rfl
  | cons a left =>
    simp only [enter, held, List.flatMap_cons, List.count_append, List.count_cons, List.count_nil]
    omega

/-- An event brings in no registration but the one it makes. -/
theorem held_step (s : Scene κ) (e : Event κ) (r : Registration κ) :
    (s.step e).held.count r + s.registered.count r ≤
      s.held.count r + (s.step e).registered.count r := by
  cases e with
  | register k =>
    cases h : s.context.cancelled with
    | true =>
      rw [step_register_cancelled h]
      simp only [held, List.flatMap_cons, List.count_append, List.nil_append]
      omega
    | false =>
      rw [step_register_live h]
      simp only [held, List.count_append]
      omega
  | unregister k =>
    have herase := (List.eraseP_sublist (p := fun x : Registration κ => decide (x.callback = k))
      (l := s.context.pending)).count_le r
    simp only [step, held, List.count_append]
    omega
  | cancel =>
    rw [step_cancel, count_enter, registered_enter]
    simp only [held, List.count_append, List.count_nil]
    omega
  | finish =>
    cases h : s.loops with
    | nil => simp only [step, h, Nat.le_refl]
    | cons loop outer =>
      rw [step_finish h, count_enter, registered_enter]
      simp only [held, h, List.flatMap_cons, List.count_append]
      omega
  | fail =>
    cases h : s.loops with
    | nil => simp only [step, h, Nat.le_refl]
    | cons loop outer =>
      rw [step_fail h]
      simp only [held, h, List.flatMap_cons, List.count_append]
      omega

theorem held_run (s : Scene κ) (events : List (Event κ)) (r : Registration κ) :
    (s.run events).held.count r + s.registered.count r ≤
      s.held.count r + (s.run events).registered.count r := by
  induction events generalizing s with
  | nil => exact Nat.le_refl _
  | cons e rest ih =>
    have hrest : (s.run (e :: rest)).held.count r + (s.step e).registered.count r ≤
        (s.step e).held.count r + (s.run (e :: rest)).registered.count r := ih (s.step e)
    have hstep := held_step s e r
    omega

/-- A call of `register` makes one registration, and nothing else does. -/
theorem registered_step (s : Scene κ) (e : Event κ) :
    (s.step e).registered = s.registered ++ (e.registers?.map s.next).toList := by
  cases e with
  | register k =>
    cases h : s.context.cancelled with
    | true =>
      rw [step_register_cancelled h]
      rfl
    | false =>
      rw [step_register_live h]
      rfl
  | unregister k => simp [step, Event.registers?]
  | cancel => simp [step_cancel, registered_enter, Event.registers?]
  | finish => cases h : s.loops <;> simp [step, h, registered_enter, Event.registers?]
  | fail => cases h : s.loops <;> simp [step, h, Event.registers?]

theorem registered_run (s : Scene κ) (events : List (Event κ)) :
    ∃ added, (s.run events).registered = s.registered ++ added ∧
      added.map Registration.callback = events.filterMap Event.registers? := by
  induction events generalizing s with
  | nil => exact ⟨[], by simp [run]⟩
  | cons e rest ih =>
    obtain ⟨added, hrun, hadded⟩ := ih (s.step e)
    refine ⟨(e.registers?.map s.next).toList ++ added, ?_, ?_⟩
    · show ((s.step e).run rest).registered = _
      rw [hrun, registered_step, List.append_assoc]
    · cases h : e.registers? <;> simp [h, hadded, next]

/-- No registration is forgotten. -/
theorem registered_prefix (s : Scene κ) (events : List (Event κ)) :
    s.registered <+: (s.run events).registered := by
  obtain ⟨added, hrun, -⟩ := registered_run s events
  exact ⟨added, hrun.symm⟩

end Held

/-! ### Order -/

/-- What holds of a scene at any time. -/
structure Orderly [DecidableEq κ] (s : Scene κ) : Prop where
  numbered : s.registered.map Registration.number = List.range s.registered.length
  held : ∀ r, s.held.count r ≤ s.registered.count r
  pending : s.context.pending.Sublist s.registered
  quiet : s.context.cancelled = false → s.ran = [] ∧ s.raised = [] ∧ s.loops = []
  settled : s.context.cancelled = true → s.context.pending = []

section Orderly
variable [DecidableEq κ] {s : Scene κ} {r : Registration κ}

theorem orderly_start {c : Context κ} (hc : c.cancelled = true → c.pending = []) :
    Orderly (start c) := by
  refine ⟨?_, fun r => ?_, List.Sublist.refl _, fun _ => ⟨rfl, rfl, rfl⟩, fun h => ?_⟩
  · simp [start, Function.comp_def, List.range_eq_range']
  · simp [start, Scene.held]
  · simp [start, hc h]

/-- The end of a callback touches the context in no way, and makes no registration. -/
theorem Orderly.end_callback {s' : Scene κ} (h : Orderly s) (hcontext : s'.context = s.context)
    (hregistered : s'.registered = s.registered) (hheld : ∀ r, s'.held.count r ≤ s'.registered.count r)
    (hcancelled : s.context.cancelled = true) : Orderly s' := by
  refine ⟨?_, hheld, ?_, fun hlive => ?_, ?_⟩
  · rw [hregistered]
    exact h.numbered
  · rw [hcontext, hregistered]
    exact h.pending
  · rw [hcontext, hcancelled] at hlive
    cases hlive
  · rw [hcontext]
    exact h.settled

theorem Orderly.step (h : Orderly s) (e : Event κ) : Orderly (s.step e) := by
  have hheld : ∀ r, (s.step e).held.count r ≤ (s.step e).registered.count r := by
    intro r
    have hstep := held_step s e r
    have hbefore := h.held r
    omega
  -- while a loop is under way, the context is cancelled
  have hloop : s.loops ≠ [] → s.context.cancelled = true := by
    intro hloops
    cases hc : s.context.cancelled with
    | true => rfl
    | false => exact absurd (h.quiet hc).2.2 hloops
  cases e with
  | register k =>
    have hnumbered : (s.registered ++ [s.next k]).map Registration.number =
        List.range (s.registered ++ [s.next k]).length := by
      simp [h.numbered, List.range_succ, next]
    cases hc : s.context.cancelled with
    | true =>
      rw [step_register_cancelled hc] at hheld ⊢
      refine ⟨hnumbered, hheld, h.pending.trans (List.sublist_append_left ..), fun hlive => ?_,
        h.settled⟩
      rw [hc] at hlive
      cases hlive
    | false =>
      rw [step_register_live hc] at hheld ⊢
      refine ⟨hnumbered, hheld, h.pending.append (List.Sublist.refl _), h.quiet, fun hdone => ?_⟩
      rw [hc] at hdone
      cases hdone
  | unregister k =>
    exact ⟨h.numbered, hheld, List.eraseP_sublist.trans h.pending, h.quiet, fun hc => by
      simp [Scene.step, h.settled hc]⟩
  | cancel =>
    have hcontext : (s.step .cancel).context = {s.context with cancelled := true, pending := []} :=
      context_enter ..
    have hregistered : (s.step .cancel).registered = s.registered := registered_enter ..
    refine ⟨?_, hheld, ?_, fun hlive => ?_, fun _ => ?_⟩
    · rw [hregistered]
      exact h.numbered
    · rw [hcontext]
      exact List.nil_sublist _
    · rw [hcontext] at hlive
      cases hlive
    · rw [hcontext]
  | finish =>
    cases hloops : s.loops with
    | nil => simpa only [Scene.step, hloops] using h
    | cons loop outer =>
      rw [step_finish hloops] at hheld ⊢
      exact h.end_callback (context_enter ..) (registered_enter ..) hheld (hloop (by simp [hloops]))
  | fail =>
    cases hloops : s.loops with
    | nil => simpa only [Scene.step, hloops] using h
    | cons loop outer =>
      rw [step_fail hloops] at hheld ⊢
      exact h.end_callback rfl rfl hheld (hloop (by simp [hloops]))

/-- **Whatever happens, a scene stays orderly.** -/
theorem Orderly.run (h : Orderly s) (events : List (Event κ)) : Orderly (s.run events) := by
  induction events generalizing s with
  | nil => exact h
  | cons e rest ih => exact ih (h.step e)

theorem Orderly.sorted (h : Orderly s) :
    s.registered.Pairwise fun a b => a.number < b.number := by
  have hrange := List.pairwise_lt_range (n := s.registered.length)
  rw [← h.numbered] at hrange
  exact List.pairwise_map.1 hrange

theorem Orderly.nodup (h : Orderly s) : s.registered.Nodup :=
  h.sorted.imp fun hlt heq => absurd (congrArg Registration.number heq) (Nat.ne_of_lt hlt)

theorem Orderly.mem_registered (h : Orderly s) (hr : r ∈ s.held) : r ∈ s.registered := by
  have hcount := h.held r
  rw [← List.count_pos_iff] at hr ⊢
  omega

theorem Orderly.ran_nodup (h : Orderly s) : s.ran.Nodup := by
  rw [List.nodup_iff_count_le_one]
  intro r
  have hran : s.ran.count r ≤ s.held.count r := by simp [Scene.held]
  have honce := List.nodup_iff_count_le_one.1 h.nodup r
  have hheld := h.held r
  omega

/-- The registration that a call makes next has not been there. -/
theorem Orderly.next_fresh (h : Orderly s) (k : κ) : s.next k ∉ s.registered := by
  intro hmem
  have hnumber : (s.next k).number ∈ s.registered.map Registration.number :=
    List.mem_map_of_mem hmem
  rw [h.numbered, List.mem_range] at hnumber
  exact Nat.lt_irrefl _ hnumber

/-- What is no longer held does not come back. -/
theorem Orderly.stays_out (h : Orderly s) (hr : r ∈ s.registered) (hout : r ∉ s.held)
    (events : List (Event κ)) : r ∉ (s.run events).held := by
  have hrun := held_run s events r
  have honce := List.nodup_iff_count_le_one.1 (h.run events).nodup r
  rw [← List.count_pos_iff] at hr
  rw [← List.count_eq_zero] at hout ⊢
  omega

/-- Withdrawing from a cancelled context changes nothing. -/
theorem Orderly.step_unregister (h : Orderly s) (hc : s.context.cancelled = true) (k : κ) :
    s.step (.unregister k) = s := by
  have hpending := h.settled hc
  obtain ⟨⟨_, _, _, pending⟩, _, _, _, _⟩ := s
  cases hpending
  rfl

/-- Nor does cancelling it again. -/
theorem Orderly.step_cancel (h : Orderly s) (hc : s.context.cancelled = true) :
    s.step .cancel = s := by
  have hpending := h.settled hc
  obtain ⟨⟨_, _, cancelled, pending⟩, _, _, _, _⟩ := s
  cases hc
  cases hpending
  rfl

end Orderly

/-! ### The callbacks that were pending at the first cancellation -/

/-- How far `ran` and `raised` are with the registrations `all`, and the loop over them while
there is one. -/
inductive Phase (all : List (Registration κ)) :
    (ran raised : List (Registration κ)) → Option (Loop κ) → Prop
  | underWay {begun left : List (Registration κ)} {r : Registration κ} :
      all = begun ++ r :: left → Phase all (begun ++ [r]) [] (some ⟨r, left⟩)
  | finished : Phase all all [] none
  | failed {begun skipped : List (Registration κ)} {r : Registration κ} :
      all = begun ++ r :: skipped → Phase all (begun ++ [r]) [r] none

namespace Phase
variable {all ran raised left : List (Registration κ)} {r next : Registration κ}

theorem prefix_ran {loop? : Option (Loop κ)} (h : Phase all ran raised loop?) : ran <+: all := by
  cases h with
  | underWay parts => simp [parts]
  | finished => exact List.prefix_refl _
  | failed parts => simp [parts]

theorem begin (all : List (Registration κ)) (h : all = r :: left) :
    Phase all [r] [] (some ⟨r, left⟩) := by
  show Phase all ([] ++ [r]) [] _
  exact underWay h

theorem running_mem (h : Phase all ran raised (some ⟨r, left⟩)) : r ∈ all ∧ ∀ x ∈ left, x ∈ all := by
  cases h with
  | underWay parts => simp +contextual [parts]

theorem go_on (h : Phase all ran raised (some ⟨r, next :: left⟩)) :
    Phase all (ran ++ [next]) raised (some ⟨next, left⟩) := by
  cases h with
  | underWay parts => exact underWay (by simp [parts])

theorem finish (h : Phase all ran raised (some ⟨r, []⟩)) : Phase all ran raised none := by
  cases h with
  | underWay parts => exact parts ▸ finished

theorem fail (h : Phase all ran raised (some ⟨r, left⟩)) : Phase all ran (raised ++ [r]) none := by
  cases h with
  | underWay parts => exact failed parts

/-- A loop that is over has run everything, unless a callback raised before the last. -/
theorem all_ran_iff (hnodup : all.Nodup) (h : Phase all ran raised none) :
    (∀ x ∈ all, x ∈ ran) ↔ ∀ x ∈ raised, all.getLast? = some x := by
  cases h with
  | finished => simp
  | @failed begun skipped r parts =>
    obtain rfl | ⟨rest, last, rfl⟩ := skipped.eq_nil_or_concat'
    · simp [parts]
    · -- the last one has been skipped
      have hall : all = (begun ++ r :: rest) ++ [last] := by simp [parts]
      have hlast : last ∉ begun ++ [r] := by
        rw [parts] at hnodup
        grind
      have hne : last ≠ r := fun heq => hlast (by simp [heq])
      refine iff_of_false (fun hran => hlast (hran last (by simp [hall]))) fun hraised => hne ?_
      have hr := hraised r (by simp)
      rw [hall, List.getLast?_concat] at hr
      exact Option.some.inj hr

end Phase

section Clearing
variable [DecidableEq κ] {s : Scene κ} {all : List (Registration κ)}

/-- What becomes of the registrations `all` that were pending at the first cancellation. Inside
the loop over them there may be other loops, each over one callback that was registered later. -/
inductive Clearing (all : List (Registration κ)) (s : Scene κ) : Prop
  | of (inner : List (Loop κ)) (loop? : Option (Loop κ))
      (loops : s.loops = inner ++ loop?.toList)
      (spent : ∀ loop ∈ inner, loop.left = [] ∧ loop.running ∉ all)
      (phase : Phase all (s.ran.filter (· ∈ all)) (s.raised.filter (· ∈ all)) loop?)

/-- The first cancellation begins the loop. -/
theorem clearing_cancel (h : Orderly s) (hc : s.context.cancelled = false) :
    Clearing s.context.pending (s.step .cancel) := by
  obtain ⟨hran, hraised, hloops⟩ := h.quiet hc
  rw [step_cancel]
  cases hpending : s.context.pending with
  | nil =>
    refine .of [] none hloops (by simp) ?_
    have hnone : s.ran.filter (· ∈ []) = [] := by simp
    have hcalm : s.raised.filter (· ∈ []) = [] := by simp
    simpa only [enter, hnone, hcalm] using Phase.finished
  | cons r left =>
    refine .of [] (some ⟨r, left⟩) ?_ (by simp) ?_
    · simp [enter, hloops]
    · simpa [enter, hran, hraised] using Phase.begin (r :: left) rfl

theorem Clearing.step (h : Clearing all s) (ho : Orderly s) (hc : s.context.cancelled = true)
    (hall : ∀ r ∈ all, r ∈ s.registered) (e : Event κ) : Clearing all (s.step e) := by
  obtain ⟨inner, loop?, hloops, hspent, hphase⟩ := h
  cases e with
  | register k =>
    have hnew : s.next k ∉ all := fun hmem => ho.next_fresh k (hall _ hmem)
    rw [step_register_cancelled hc]
    refine .of (⟨s.next k, []⟩ :: inner) loop? (by simp [hloops]) ?_ ?_
    · simpa using ⟨hnew, hspent⟩
    · simpa [hnew] using hphase
  | unregister k =>
    rw [ho.step_unregister hc]
    exact .of _ _ hloops hspent hphase
  | cancel =>
    rw [ho.step_cancel hc]
    exact .of _ _ hloops hspent hphase
  | finish =>
    cases inner with
    | cons loop rest =>
      have hleft := (hspent loop (by simp)).1
      rw [step_finish hloops, hleft]
      exact .of rest loop? rfl (fun l hl => hspent l (by simp [hl])) hphase
    | nil =>
      cases loop? with
      | none =>
        simp only [Scene.step, show s.loops = [] from hloops]
        exact .of _ _ hloops hspent hphase
      | some loop =>
        obtain ⟨r, left⟩ := loop
        rw [step_finish hloops]
        cases left with
        | nil => exact .of [] none rfl (by simp) hphase.finish
        | cons next left =>
          have hnext : next ∈ all := hphase.running_mem.2 next (by simp)
          refine .of [] (some ⟨next, left⟩) rfl (by simp) ?_
          simpa [enter, hnext] using hphase.go_on
  | fail =>
    cases inner with
    | cons loop rest =>
      have hother := (hspent loop (by simp)).2
      rw [step_fail hloops]
      refine .of rest loop? rfl (fun l hl => hspent l (by simp [hl])) ?_
      simpa [hother] using hphase
    | nil =>
      cases loop? with
      | none =>
        simp only [Scene.step, show s.loops = [] from hloops]
        exact .of _ _ hloops hspent hphase
      | some loop =>
        obtain ⟨r, left⟩ := loop
        rw [step_fail hloops]
        refine .of [] none rfl (by simp) ?_
        simpa [hphase.running_mem.1] using hphase.fail

theorem Clearing.run (h : Clearing all s) (ho : Orderly s) (hc : s.context.cancelled = true)
    (hall : ∀ r ∈ all, r ∈ s.registered) (events : List (Event κ)) :
    Clearing all (s.run events) := by
  induction events generalizing s with
  | nil => exact h
  | cons e rest ih =>
    exact ih (h.step ho hc hall e) (ho.step e) ((cancelled_step s e).2 (.inl hc)) fun r hr =>
      (s.registered_prefix [e]).subset (hall r hr)

/-- **From the first cancellation on, whatever happens, the callbacks that were pending run in
order, in one loop, up to the first that raises.** -/
theorem clearing_run (h : Orderly s) (hc : s.context.cancelled = false) (during : List (Event κ)) :
    Clearing s.context.pending ((s.step .cancel).run during) := by
  have hcancelled : (s.step .cancel).context.cancelled = true :=
    (cancelled_step s .cancel).2 (.inr rfl)
  exact (clearing_cancel h hc).run (h.step .cancel) hcancelled
    (fun r hr => (s.registered_prefix [.cancel]).subset (h.pending.subset hr)) during

end Clearing
end Scene
end EmailOwnership.Context
