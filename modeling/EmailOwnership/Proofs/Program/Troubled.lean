import EmailOwnership.Proofs.Program.Alone
import EmailOwnership.Proofs.Program.Dialogue
import EmailOwnership.Proofs.Program.Writes
import EmailOwnership.Rehearsal.Trouble

/-! Operations in trouble, seen from the memory store.

Whatever happens to an operation, each of its exchanges with the store comes after some calls of
others, and is a step of the store or a failure without effect (`Passes`). Every run in trouble
passes so (`passes_run`). What all calls keep that are made, by others and by the operation,
holds at its end (`Passes.kept`). -/
namespace EmailOwnership.Program
open Rehearsal
open Store (Call Fault Reply)
open Store.Memory (State step)
variable {α : Type} {P : Call → Prop}

/-- From one store to the other by these exchanges, others making calls in `P` in between. -/
inductive Passes (P : Call → Prop) : List Exchange → State → State → Prop
  | done {s : State} : Passes P [] s s
  | failed {c : Call} {fault : Fault} {xs : List Exchange} {s s' : State} {others : List Call} :
    (∀ c ∈ others, P c) → Passes P xs (s.after others) s' →
    Passes P ((c, .error fault) :: xs) s s'
  | answered {c : Call} {xs : List Exchange} {s s' : State} {others : List Call} :
    (∀ c ∈ others, P c) → Passes P xs (step c (s.after others)).2 s' →
    Passes P ((c, (step c (s.after others)).1) :: xs) s s'

/-! ### What is kept -/

section Kept
variable {I : State → Prop} {s s' : State} {xs : List Exchange}

theorem after_kept (hI : ∀ c s, P c → I s → I (step c s).2) {others : List Call}
    (hothers : ∀ c ∈ others, P c) (h : I s) : I (s.after others) := by
  induction others generalizing s with
  | nil => exact h
  | cons c rest ih =>
    exact ih (fun c' hc' => hothers c' (List.mem_cons_of_mem _ hc'))
      (hI c s (hothers c (List.mem_cons_self ..)) h)

theorem Passes.kept (hI : ∀ c s, P c → I s → I (step c s).2)
    (hxs : ∀ x ∈ xs, ∀ s, I s → I (step x.1 s).2) (h : Passes P xs s s') (hs : I s) : I s' := by
  induction h with
  | done => exact hs
  | failed hothers _ ih =>
    exact ih (fun x hx => hxs x (List.mem_cons_of_mem _ hx)) (after_kept hI hothers hs)
  | answered hothers _ ih =>
    exact ih (fun x hx => hxs x (List.mem_cons_of_mem _ hx))
      (hxs _ (List.mem_cons_self ..) _ (after_kept hI hothers hs))

theorem passes_nil (h : Passes P [] s s') : s' = s := by
  cases h
  rfl

/-- A call that was answered by a reply is a step of the store, after calls of others. -/
theorem passes_answered {c : Call} {reply : Reply} (h : Passes P ((c, .ok reply) :: xs) s s') :
    ∃ others, (∀ c ∈ others, P c) ∧ (step c (s.after others)).1 = .ok reply ∧
      Passes P xs (step c (s.after others)).2 s' := by
  generalize hanswer : (.ok reply : Except Fault Reply) = answer at h
  cases h with
  | failed => cases hanswer
  | answered hothers h => exact ⟨_, hothers, rfl, h⟩

/-- The writes that a program asks for are those that it may ask for. -/
theorem Writes.of_leads {n : Nat} {p q : Program α} (hp : Writes P n p) (h : Leads p xs q)
    {x : Exchange} (hx : x ∈ xs) (hwrite : x.1.isWrite = true) : P x.1 := by
  induction h with
  | here => cases hx
  | call _ ih =>
    rcases List.mem_cons.1 hx with rfl | hx
    · exact hp.allowed hwrite
    · exact ih (hp.next _) hx
  | aside _ _ ih => exact ih (hp.next _) hx

end Kept

/-! ### Runs -/

section Runs
variable {t : Trouble}

/-- A store call in a world is one step of its store, or is refused. -/
theorem perform_world (context : Context String) (c : Call) (w : World) :
    w.perform context c = ((step c w.memory).1, {w with memory := (step c w.memory).2}) ∨
      ∃ message, w.perform context c = (.error (.interrupted message), w) := by
  unfold World.perform
  rcases Store.Memory.perform_cases context w.clock c w.memory with ⟨-, h⟩ | ⟨-, message, h⟩
  · exact .inl (by rw [h])
  · exact .inr ⟨message, by rw [h]⟩

/-- A call in trouble is one exchange, after calls of others. -/
theorem perform_troubled (hothers : ∀ m i, ∀ c ∈ t.intrusions m i, P c) (c : Call)
    (session : Session) {xs : List Exchange} {s : State}
    (h : Passes P xs (session.perform t.interposition c).2.world.memory s) :
    Passes P ((c, (session.perform t.interposition c).1) :: xs) session.world.memory s := by
  let i := session.countOf c.method
  let paused := Session.wait {session with calls := session.calls ++ [c]} (t.pace c.method i)
  have hpaused : paused.world.memory = session.world.memory := (wait_world ..).1
  -- the call meets the store after the intrusions
  let met := paused.intrude (t.intrusions c.method i)
  have hplanned : t.interposition.reply c i = (t.faults c i).map .error := rfl
  rw [← hpaused]
  cases hfault : t.faults c i with
  | some fault =>
    rw [hfault] at hplanned
    have hanswered : session.perform t.interposition c = (.error fault, met) := by
      rw [Session.perform, hplanned]
      rfl
    rw [hanswered] at h ⊢
    exact .failed (hothers c.method i) h
  | none =>
    rw [hfault] at hplanned
    have hanswered : session.perform t.interposition c =
        ((met.world.perform met.context c).1,
          {met with world := (met.world.perform met.context c).2}) := by
      rw [Session.perform, hplanned]
      rfl
    rw [hanswered] at h ⊢
    rcases perform_world met.context c met.world with hstep | ⟨message, hrefused⟩
    · rw [hstep] at h ⊢
      exact .answered (hothers c.method i) h
    · rw [hrefused] at h ⊢
      exact .failed (hothers c.method i) h

/-- **A run in trouble passes by its dialogue**, others making the calls that intrude. -/
theorem passes_run (hothers : ∀ m i, ∀ c ∈ t.intrusions m i, P c) (sender : Sender) (p : Program α)
    (session : Session) :
    Passes P (p.dialogue (sessionHandler t.interposition sender) session) session.world.memory
      (p.run (sessionHandler t.interposition sender) session).2.world.memory := by
  induction p generalizing session with
  | done outcome => exact .done
  | ask effect next ih =>
    cases effect with
    | store c => exact perform_troubled hothers c session (ih _ _)
    | log entry => exact ih () {session with world := session.world.note entry}
    | deliver address code => cases sender <;> exact ih _ _
    | drawCode length => exact ih _ _

end Runs
end EmailOwnership.Program
