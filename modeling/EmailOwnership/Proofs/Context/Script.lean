import EmailOwnership.Context.Script
import EmailOwnership.Proofs.Context.Scene

/-! Scripted callbacks as courses of a scene.

A script runs callbacks by calling itself: inside a cancellation there is a loop over callbacks,
inside a callback there are calls, and inside these there are loops again. `eventsWith` and the
functions around it write down the calls that a script makes on its context and the ends of its
callbacks, and nothing more; the scene that takes just these events is the one behind the script
at its end, with the same loops around it as before (`Follows`). The induction is on the depth,
and for each depth on the actions and on the callbacks to run.

A run that the bound on the depth cuts short is no course, so all this is about the other ones
(`Ended`). -/
namespace EmailOwnership.Context.Script

/-! ### The events of a script -/

/-- What a run of a callback does, for each desk that it starts from. -/
abbrev Course := String → Desk → List (Event String)

def eventsAll (run : Run) (course : Course) : List String → Desk → List (Event String)
  | [], _ => []
  | k :: rest, d =>
    course k d ++
      match run k d with
      | (.ok (), d) => .finish :: eventsAll run course rest d
      | (.error _, _) => [.fail]

def eventsWith (run : Run) (course : Course) : Action → Desk → List (Event String)
  | .cancel, d =>
    .cancel :: eventsAll run course d.context.pending {d with context := d.context.cancel.2}
  | .onCancel callback, d =>
    .register callback :: eventsAll run course (d.context.onCancel callback).1.toList d
  | .unregister handle, d =>
    match d.handle? handle with
    | some (some callback) => [.unregister callback]
    | some none | none => []
  | .advance _, _ | .remaining, _ | .isDone, _ | .isCancelled, _ | .check, _ | .describe, _
  | .rename _, _ | .fail _, _ => []

def eventsEach (run : Run) (course : Course) : List Action → Desk → List (Event String)
  | [], _ => []
  | action :: rest, d =>
    eventsWith run course action d ++
      match performWith run action d with
      | (.ok _, d) => eventsEach run course rest d
      | (.error _, _) => []

def eventsCallback (scripts : String → List Action) : (depth : Nat) → Course
  | 0, _, _ => []
  | depth + 1, k, d =>
    eventsEach (runCallback scripts depth) (eventsCallback scripts depth) (scripts k)
      {d with ran := d.ran ++ [k]}

/-! ### The scene behind a script -/

/-- The same context and the same callbacks run, but numbered. -/
structure Shows (s : Scene String) (d : Desk) : Prop where
  cancelled : s.context.cancelled = d.context.cancelled
  pending : s.context.pending.map Registration.callback = d.context.pending
  ran : s.ran.map Registration.callback = d.ran

/-- The scene is behind the desk and has these loops under way. -/
def Within (loops : List (Loop String)) (s : Scene String) (d : Desk) : Prop :=
  Shows s d ∧ s.loops = loops

/-- The bound on the depth was not met. -/
def Ended {α : Type} (outcome : Except Stop α) : Prop := outcome ≠ .error .tooDeep

theorem ended_ok {α : Type} (a : α) : Ended (.ok a) := by simp [Ended]

/-- From where a callback is noted, its course ends within the same loops. -/
def Follows (run : Run) (course : Course) : Prop :=
  ∀ (s : Scene String) (k : String) (d : Desk), Shows s {d with ran := d.ran ++ [k]} →
    Ended (run k d).1 → Within s.loops (s.run (course k d)) (run k d).2

theorem shows_start (clock : Float) (c : Context String) (handles : List (Option String)) :
    Shows (.start c) ⟨clock, c, handles, []⟩ :=
  ⟨rfl, congrArg Context.pending (Scene.shown_start c), rfl⟩

theorem runAll_singleton (run : Run) (k : String) (d : Desk) : runAll run [k] d = run k d := by
  unfold runAll
  rcases run k d with ⟨⟨⟩ | ⟨⟩, d₁⟩ <;> rfl

namespace Follows
variable {s : Scene String} {d : Desk} {run : Run} {course : Course}

/-- A loop that is entered is left again. -/
theorem runAll (h : Follows run course) (queue : List (Registration String)) (hs : Shows s d)
    (hended : Ended (runAll run (queue.map Registration.callback) d).1) :
    Within s.loops ((s.enter queue).run (eventsAll run course (queue.map Registration.callback) d))
      (runAll run (queue.map Registration.callback) d).2 := by
  induction queue generalizing s d with
  | nil => exact ⟨hs, rfl⟩
  | cons r left ih =>
    have hbegun : Shows (s.enter (r :: left)) {d with ran := d.ran ++ [r.callback]} :=
      ⟨hs.cancelled, hs.pending, by simp [Scene.enter, hs.ran]⟩
    have hcall := h _ r.callback d hbegun
    simp only [List.map_cons, Script.runAll, eventsAll, Scene.run_append] at hended ⊢
    cases hr : run r.callback d with
    | mk outcome d₁ =>
      rw [hr] at hcall hended
      cases outcome with
      | ok =>
        obtain ⟨hshows, hloops⟩ := hcall (ended_ok _)
        -- the end of the callback takes the loop on to the next one
        have hleft := ih (s := {(s.enter (r :: left)).run (course r.callback d) with loops := s.loops})
          ⟨hshows.cancelled, hshows.pending, hshows.ran⟩ hended
        rwa [← Scene.step_finish hloops] at hleft
      | error stop =>
        obtain ⟨hshows, hloops⟩ := hcall hended
        show Within _ (Scene.step _ .fail) d₁
        rw [Scene.step_fail hloops]
        exact ⟨⟨hshows.cancelled, hshows.pending, hshows.ran⟩, rfl⟩

theorem performWith (h : Follows run course) (action : Action) (hs : Shows s d)
    (hended : Ended (performWith run action d).1) :
    Within s.loops (s.run (eventsWith run course action d)) (performWith run action d).2 := by
  cases action with
  | cancel =>
    have hshows : Shows {s with context := {s.context with cancelled := true, pending := []}}
        {d with context := d.context.cancel.2} := ⟨rfl, rfl, hs.ran⟩
    have hloop := h.runAll s.context.pending hshows
    rw [hs.pending] at hloop
    show Within _ ((s.step .cancel).run _) _
    rw [Scene.step_cancel]
    simp only [Script.performWith, cancel] at hended hloop ⊢
    cases hr : Script.runAll run d.context.pending
        {d with context := {d.context with cancelled := true, pending := []}} with
    | mk outcome d₁ =>
      rw [hr] at hloop hended
      cases outcome with
      | ok => exact hloop (ended_ok _)
      | error stop => exact hloop fun heq => hended (by cases heq; rfl)
  | onCancel callback =>
    show Within _ ((s.step (.register callback)).run _) _
    cases hc : d.context.cancelled with
    | false =>
      rw [Scene.step_register_live (hs.cancelled.trans hc)]
      simp only [Script.performWith, onCancel, hc]
      exact ⟨⟨hs.cancelled.trans hc, by simp [hs.pending, Scene.next, eventsAll, Scene.run], hs.ran⟩,
        rfl⟩
    | true =>
      -- the callback is a loop of its own
      have hshows : Shows {s with registered := s.registered ++ [s.next callback]} d :=
        ⟨hs.cancelled, hs.pending, hs.ran⟩
      have hloop := h.runAll [s.next callback] hshows
      rw [List.map_singleton, show (s.next callback).callback = callback from rfl,
        runAll_singleton] at hloop
      rw [Scene.step_register_cancelled (hs.cancelled.trans hc)]
      simp only [Script.performWith, onCancel, hc, if_true] at hended ⊢
      cases hr : run callback d with
      | mk outcome d₁ =>
        simp only [hr] at hloop hended ⊢
        cases outcome with
        | ok =>
          obtain ⟨hs', hloops⟩ := hloop (ended_ok _)
          exact ⟨⟨hs'.cancelled, hs'.pending, hs'.ran⟩, hloops⟩
        | error stop => exact hloop fun heq => hended (by cases heq; rfl)
  | unregister handle =>
    simp only [Script.performWith, eventsWith]
    cases hhandle : d.handle? handle with
    | none => exact ⟨hs, rfl⟩
    | some callback? =>
      cases callback? with
      | none => exact ⟨hs, rfl⟩
      | some callback =>
        refine ⟨⟨hs.cancelled, ?_, hs.ran⟩, rfl⟩
        exact (Scene.map_callback_eraseP callback _).trans (congrArg (·.erase callback) hs.pending)
  | check =>
    simp only [Script.performWith]
    cases d.context.check d.clock <;> exact ⟨hs, rfl⟩
  | advance | remaining | isDone | isCancelled | describe | rename | fail =>
    exact ⟨⟨hs.cancelled, hs.pending, hs.ran⟩, rfl⟩

theorem performAll (h : Follows run course) (actions : List Action) (hs : Shows s d)
    (hended : Ended (performAll run actions d).1) :
    Within s.loops (s.run (eventsEach run course actions d)) (performAll run actions d).2 := by
  induction actions generalizing s d with
  | nil => exact ⟨hs, rfl⟩
  | cons action rest ih =>
    have hfirst := h.performWith action hs
    simp only [Script.performAll, eventsEach, Scene.run_append] at hended ⊢
    cases hr : Script.performWith run action d with
    | mk outcome d₁ =>
      rw [hr] at hfirst hended
      cases outcome with
      | ok =>
        obtain ⟨hshows, hloops⟩ := hfirst (ended_ok _)
        exact hloops ▸ ih hshows hended
      | error stop => exact hfirst fun heq => hended (by cases heq; rfl)

end Follows

/-- **A scripted callback is a course of events**, however deeply callbacks set each other off. -/
theorem follows_runCallback (scripts : String → List Action) (depth : Nat) :
    Follows (runCallback scripts depth) (eventsCallback scripts depth) := by
  induction depth with
  | zero => exact fun _ _ _ _ hended => absurd rfl hended
  | succ depth ih => exact fun s k d hs hended => ih.performAll (scripts k) hs hended

/-! ### Calls from outside -/

/-- Calls one after the other, from outside of all callbacks, with the events that they make of
it. A call that fails does not keep the next one from being made. -/
inductive Calls (scripts : String → List Action) (depth : Nat) :
    List Action → Desk → List (Event String) → Desk → Prop
  | nil {d : Desk} : Calls scripts depth [] d [] d
  | cons {action : Action} {rest : List Action} {d d' : Desk} {events : List (Event String)} :
      Ended (performWith (runCallback scripts depth) action d).1 →
      Calls scripts depth rest (performWith (runCallback scripts depth) action d).2 events d' →
      Calls scripts depth (action :: rest) d
        (eventsWith (runCallback scripts depth) (eventsCallback scripts depth) action d ++ events) d'

theorem Calls.within {scripts : String → List Action} {depth : Nat} {actions : List Action}
    {s : Scene String} {d d' : Desk} {events : List (Event String)}
    (h : Calls scripts depth actions d events d') (hs : Shows s d) :
    Within s.loops (s.run events) d' := by
  induction h generalizing s with
  | nil => exact ⟨hs, rfl⟩
  | cons hended _ ih =>
    obtain ⟨hshows, hloops⟩ := (follows_runCallback scripts depth).performWith _ hs hended
    rw [Scene.run_append]
    exact hloops ▸ ih hshows

end EmailOwnership.Context.Script
