import EmailOwnership.Rehearsal.World

/-! Programs whose outcome is fixed.

Once only log lines are left, an operation will end as it will, whatever others do:
`settled?` is that outcome. Log lines on the way do not change it, and running what is left
gives it and does not touch the store (`run_of_settled`). -/
namespace EmailOwnership.Program
open Rehearsal
variable {α β : Type}

/-- The outcome of a program that has nothing but log lines to add. -/
def settled? : Program α → Option (Except Failure α)
  | .done outcome => some outcome
  | .ask (.log _) next => (next ()).settled?
  | .ask _ _ => none

@[simp] theorem settled?_done (outcome : Except Failure α) :
    (done outcome).settled? = some outcome := rfl

@[simp] theorem settled?_pure_bind (a : α) (f : α → Program β) :
    (pure a >>= f).settled? = (f a).settled? := rfl

/-- What follows a settled part decides the rest, unless the part failed. -/
theorem settled?_bind (p : Program α) (f : α → Program β) :
    (p >>= f).settled? = p.settled?.bind fun
      | .ok a => (f a).settled?
      | .error e => some (.error e) := by
  induction p with
  | done outcome => cases outcome <;> rfl
  | ask effect next ih =>
    cases effect with
    | log entry => exact ih ()
    | _ => rfl

theorem settled?_map (f : α → β) (p : Program α) :
    (f <$> p).settled? = p.settled?.map (Except.map f) := by
  induction p with
  | done outcome => cases outcome <;> rfl
  | ask effect next ih =>
    cases effect with
    | log entry => exact ih ()
    | _ => rfl

theorem bind_pure (p : Program α) : p >>= pure = p := by
  induction p with
  | done outcome => cases outcome <;> rfl
  | ask effect next ih => exact congrArg (ask effect) (funext ih)

theorem bind_assoc {γ : Type} (p : Program α) (f : α → Program β) (g : β → Program γ) :
    p >>= f >>= g = p >>= fun a => f a >>= g := by
  induction p with
  | done outcome => cases outcome <;> rfl
  | ask effect next ih => exact congrArg (ask effect) (funext ih)

/-- What is left of a settled program leads to its outcome and leaves the store alone. -/
theorem run_of_settled {p : Program α} {outcome : Except Failure α}
    (h : p.settled? = some outcome) (sender : Sender) (context : Context String) (w : World) :
    (p.run (plainHandler sender context) w).1 = outcome ∧
      (p.run (plainHandler sender context) w).2.memory = w.memory := by
  induction p generalizing w with
  | done outcome' =>
    cases h
    exact ⟨rfl, rfl⟩
  | ask effect next ih =>
    cases effect with
    | log entry => exact ih () h (w.note entry)
    | _ => cases h

/-- No effect but a store call moves the clock, and no store call either. -/
theorem run_clock (p : Program α) (sender : Sender) (context : Context String) (w : World) :
    (p.run (plainHandler sender context) w).2.clock = w.clock := by
  induction p generalizing w with
  | done outcome => rfl
  | ask effect next ih =>
    rw [run_ask, ih]
    cases effect with
    | deliver address code => cases sender <;> rfl
    | _ => rfl

end EmailOwnership.Program
