import EmailOwnership.Proofs.Crowd.Advance
import EmailOwnership.Proofs.Program.Settled

/-! Requests of a crowd whose outcome is fixed.

A request may have log lines left to add when its outcome is fixed already. No turn changes
such an outcome (`settled?_take`), and when every request has ended it is how the request
ended (`outcome?_of_isDone`). -/
namespace EmailOwnership.Rehearsal.Crowd
variable {α : Type}

/-- The outcome of the request at a place, once it is fixed. -/
def settled? (c : Crowd α) (place : Nat) : Option (Except Failure α) :=
  (c.program? place).bind Program.settled?

theorem settled?_eq {c : Crowd α} {k : Nat} {p : Program α} (h : c.program? k = some p) :
    c.settled? k = p.settled? := by
  rw [settled?, h, Option.bind_some]

theorem settled?_congr {c c' : Crowd α} {k : Nat} (h : c'.program? k = c.program? k) :
    c'.settled? k = c.settled? k := by
  rw [settled?, settled?, h]

/-! ### Outcomes stay -/

theorem settled?_take {c : Crowd α} {k : Nat} {outcome : Except Failure α}
    (h : c.settled? k = some outcome) (t : Turn) : (c.take t).settled? k = some outcome := by
  rcases (c.take_advance t).place k with hsame | ⟨effect, next, reply, _, hp, hk⟩
  · rw [settled?_congr hsame]
    exact h
  · rw [settled?_eq hp] at h
    rw [settled?_eq hk]
    -- all that a settled request can take is a log line
    cases effect with
    | log entry => exact h
    | _ => cases h

theorem settled?_run {c : Crowd α} {k : Nat} {outcome : Except Failure α}
    (h : c.settled? k = some outcome) (turns : List Turn) :
    (c.run turns).settled? k = some outcome := by
  induction turns generalizing c with
  | nil => exact h
  | cons t rest ih => exact ih (settled?_take h t)

/-- At the end nothing is left of any request. -/
theorem program?_of_isDone {c : Crowd α} (h : c.isDone = true) {k : Nat} {p : Program α}
    (hp : c.program? k = some p) : ∃ outcome, p = .done outcome ∧ c.outcome? k = some outcome := by
  simp only [program?, Option.map_eq_some_iff] at hp
  obtain ⟨q, hq, rfl⟩ := hp
  have hend := List.all_eq_true.1 h q (List.mem_of_getElem? hq)
  cases hprog : q.program with
  | done outcome =>
    refine ⟨outcome, rfl, ?_⟩
    rw [outcome?, hq, Option.bind_some, Participant.outcome?, hprog]
  | ask effect next => simp [Participant.outcome?, hprog] at hend

/-- A turn of a settled request leaves the store alone. -/
theorem memory_of_settled {c : Crowd α} {k : Nat} {outcome : Except Failure α}
    (h : c.settled? k = some outcome) :
    (c.take (.proceed k)).world.memory = c.world.memory := by
  cases c.take_advance (.proceed k) with
  | quiet _ hm _ => exact hm
  | aside _ _ hm _ _ => exact hm
  | refused _ _ hm _ _ => exact hm
  | performed _ hp _ _ _ =>
    rw [settled?_eq hp] at h
    cases h

/-- At the end a request has ended as it was settled to. -/
theorem outcome?_of_isDone {c : Crowd α} (h : c.isDone = true) (k : Nat) :
    c.outcome? k = c.settled? k := by
  cases hp : c.program? k with
  | none =>
    rw [program?, Option.map_eq_none_iff] at hp
    rw [settled?, outcome?, program?, hp]
    rfl
  | some p =>
    obtain ⟨outcome, rfl, ho⟩ := program?_of_isDone h hp
    rw [ho, settled?_eq hp, Program.settled?_done]

end EmailOwnership.Rehearsal.Crowd
