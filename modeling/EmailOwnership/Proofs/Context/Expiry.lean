import EmailOwnership.Proofs.Context.Double
import EmailOwnership.Proofs.Context.Scene

/-! Contexts that are done, for good.

No time is left exactly once the clock has reached the deadline, or where the deadline is no
number: the difference of two doubles is positive only if they are in order (`isDone_iff`). Calls
on a context leave its deadline alone and never undo a cancellation, so under a clock that does
not go back a context that is done stays done through every course of events (`isDone_run`). -/
namespace EmailOwnership.Context
variable {κ : Type}

/-! ### Being done -/

theorem timeLeft_le_zero_iff (deadline now : Float) :
    timeLeft deadline now ≤ 0 ↔ ¬ now < deadline := by
  unfold timeLeft
  dsimp only
  split
  · rename_i h
    exact iff_of_false (Double.not_le_of_lt h) (not_not_intro (Double.sub_pos_iff.1 h))
  · rename_i h
    exact iff_of_true (by decide +kernel) (mt Double.sub_pos_iff.2 h)

theorem isDone_iff_not_lt {c : Context κ} {now : Float} :
    c.isDone now = true ↔
      c.cancelled = true ∨ ∃ deadline, c.deadline = some deadline ∧ ¬ now < deadline := by
  cases h : c.deadline <;> simp [isDone, remaining, h, timeLeft_le_zero_iff]

/-- What makes a context done: a cancellation, a deadline that is reached, or one that is no
number. -/
theorem isDone_iff {c : Context κ} {now : Float} (hnow : now.isNaN = false) :
    c.isDone now = true ↔ c.cancelled = true ∨
      ∃ deadline, c.deadline = some deadline ∧ (deadline ≤ now ∨ deadline.isNaN = true) := by
  simp only [isDone_iff_not_lt, Double.not_lt_iff hnow]

theorem check_eq_error_iff {c : Context κ} {now : Float} :
    (∃ why, c.check now = .error why) ↔ c.isDone now = true := by
  rw [← Bool.not_eq_false, ← check_eq_ok_iff]
  cases c.check now <;> simp

theorem check_of_expired {c : Context κ} {now : Float} (hc : c.cancelled = false)
    (h : c.isDone now = true) : c.check now = .error (.expired c.requestId) := by
  simp only [check, hc, h, Bool.false_eq_true, if_false, if_true]

/-! ### Staying done -/

/-- A later context with the same deadline is done if the earlier one was. -/
theorem isDone_of_isDone {c c' : Context κ} {now later : Float} (h : c.isDone now = true)
    (hdeadline : c'.deadline = c.deadline) (hcancelled : c.cancelled = true → c'.cancelled = true)
    (hclock : now ≤ later) : c'.isDone later = true := by
  rw [isDone_iff_not_lt] at h ⊢
  refine h.imp hcancelled ?_
  rintro ⟨deadline, heq, hreached⟩
  exact ⟨deadline, hdeadline.trans heq, fun hlt => hreached (Double.lt_of_le_of_lt hclock hlt)⟩

namespace Scene
variable [DecidableEq κ] (s : Scene κ)

theorem deadline_step (e : Event κ) : (s.step e).context.deadline = s.context.deadline := by
  refine (congrArg Context.deadline (shown_step s e)).trans ?_
  cases e with
  | register k =>
    dsimp only [onCancel]
    split <;> rfl
  | unregister | cancel | finish | fail => rfl

theorem deadline_run (events : List (Event κ)) :
    (s.run events).context.deadline = s.context.deadline := by
  induction events generalizing s with
  | nil => rfl
  | cons e rest ih => exact (ih (s.step e)).trans (deadline_step s e)

/-- **A context that is done stays done**, whatever is called on it and by its callbacks. -/
theorem isDone_run {now later : Float} (events : List (Event κ)) (hclock : now ≤ later)
    (h : s.shown.isDone now = true) : (s.run events).shown.isDone later = true :=
  isDone_of_isDone h (s.deadline_run events) (fun hc => (s.cancelled_run events).2 (.inl hc)) hclock

end Scene
end EmailOwnership.Context
