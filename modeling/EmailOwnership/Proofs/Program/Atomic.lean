import EmailOwnership.Proofs.Program.Settled
import EmailOwnership.Store.Memory

/-! Programs that take effect at one store call.

A program may read before it writes, and by then its reading may be stale. `Atomic` says
when that does no harm: whatever was read before, a store call either makes the program
succeed, and then a whole run from this very store would answer and write the same
(`Yields`), or it changes nothing. -/
namespace EmailOwnership.Program
open Rehearsal
open Store (Call)
open Store.Memory (State step)
variable {α β : Type}

/-- A whole run from `s` under a live context answers `a` and leaves `s'`. -/
def Yields (whole : Program α) (s : State) (a : α) (s' : State) : Prop :=
  ∀ (sender : Sender) (context : Context String) (w : World),
    context.isDone w.clock = false → w.memory = s →
    (whole.run (plainHandler sender context) w).1 = .ok a ∧
      (whole.run (plainHandler sender context) w).2.memory = s'

/-- Every store call that is left decides the success of the operation as a whole run from that
store would, or leaves the store alone. -/
inductive Atomic (whole : Program α) : Program α → Prop
  | done {outcome : Except Failure α} : Atomic whole (.done outcome)
  | log {entry : Log.Entry} {next : (Effect.log entry).Reply → Program α} :
    Atomic whole (next ()) → Atomic whole (.ask (.log entry) next)
  | store {call : Call} {next : (Effect.store call).Reply → Program α} :
    (∀ s, (∃ a, (next (step call s).1).settled? = some (.ok a) ∧
        whole.Yields s a (step call s).2) ∨
      (step call s).2 = s ∧ ∀ a, (next (step call s).1).settled? ≠ some (.ok a)) →
    (∀ m a, (next (.error (.interrupted m))).settled? ≠ some (.ok a)) →
    (∀ reply, Atomic whole (next reply)) → Atomic whole (.ask (.store call) next)

theorem Atomic.of_settled {whole p : Program α} {outcome : Except Failure α}
    (h : p.settled? = some outcome) : Atomic whole p := by
  induction p with
  | done outcome' => exact .done
  | ask effect next ih =>
    cases effect with
    | log entry => exact .log (ih () h)
    | _ => cases h

theorem Yields.map {whole : Program α} {s s' : State} {a : α} (h : whole.Yields s a s')
    (f : α → β) : (f <$> whole).Yields s (f a) s' := by
  intro sender context w hlive hw
  obtain ⟨houtcome, hmemory⟩ := h sender context w hlive hw
  have hmap : (f <$> whole) = whole >>= fun a => pure (f a) := rfl
  rw [hmap, run_bind]
  rcases hrun : whole.run (plainHandler sender context) w with ⟨outcome, w'⟩
  rw [hrun] at houtcome hmemory
  dsimp only at houtcome hmemory
  rw [houtcome]
  exact ⟨rfl, hmemory⟩

/-- What is left after an effect is atomic with the same whole. -/
theorem Atomic.next {whole : Program α} {effect : Effect} {next : effect.Reply → Program α}
    (h : Atomic whole (.ask effect next)) (reply : effect.Reply) : Atomic whole (next reply) := by
  cases h with
  | log hnext => exact hnext
  | store _ _ hnext => exact hnext reply

/-- Mapping the answer makes no failure a success. -/
theorem map_unsettled {p : Program α} (h : ∀ a, p.settled? ≠ some (.ok a)) (f : α → β) (b : β) :
    (f <$> p).settled? ≠ some (.ok b) := by
  intro hb
  rw [settled?_map, Option.map_eq_some_iff] at hb
  obtain ⟨outcome, ho, hmap⟩ := hb
  cases outcome with
  | ok a => exact h a ho
  | error e => cases hmap

theorem Atomic.map {whole p : Program α} (h : Atomic whole p) (f : α → β) :
    Atomic (f <$> whole) (f <$> p) := by
  induction h with
  | @done outcome => cases outcome <;> exact .done
  | log _ ih => exact .log ih
  | @store call next hstep hrefused _ ih =>
    refine .store (fun s => ?_) (fun m => map_unsettled (hrefused m) f) ih
    rcases hstep s with ⟨a, ha, hyields⟩ | ⟨hkept, ha⟩
    · refine .inl ⟨f a, ?_, hyields.map f⟩
      show (f <$> next (step call s).1).settled? = _
      rw [settled?_map, ha]
      rfl
    · exact .inr ⟨hkept, map_unsettled ha f⟩

end EmailOwnership.Program
