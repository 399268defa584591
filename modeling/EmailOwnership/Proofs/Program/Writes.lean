import EmailOwnership.Proofs.Memory.Step
import EmailOwnership.Rehearsal.World

/-! How often an operation writes.

`Writes P n p` bounds a program along every path, whatever the store replies: at most `n`
write calls, each in `P`. Run against the memory store, a program that writes at most once
makes at most one transition of the records (`Writes.transition`). -/
namespace EmailOwnership.Program
open Store (Call)
variable {α β : Type} {P : Call → Prop}

/-- Along every path at most `n` write calls, each in `P`. -/
inductive Writes (P : Call → Prop) : Nat → Program α → Prop
  | done {n : Nat} {outcome : Except Failure α} : Writes P n (.done outcome)
  | write {n : Nat} {c : Call} {next : (Effect.store c).Reply → Program α} :
    P c → (∀ reply, Writes P n (next reply)) → Writes P (n + 1) (.ask (.store c) next)
  | read {n : Nat} {c : Call} {next : (Effect.store c).Reply → Program α} :
    c.isWrite = false → (∀ reply, Writes P n (next reply)) → Writes P n (.ask (.store c) next)
  | other {n : Nat} {effect : Effect} {next : effect.Reply → Program α} :
    (∀ c, effect ≠ .store c) → (∀ reply, Writes P n (next reply)) →
    Writes P n (.ask effect next)

namespace Writes

theorem mono {n m : Nat} {p : Program α} (h : Writes P n p) (hn : n ≤ m) : Writes P m p := by
  induction h generalizing m with
  | done => exact .done
  | write hc _ ih =>
    obtain ⟨k, rfl⟩ : ∃ k, m = k + 1 := ⟨m - 1, by omega⟩
    exact .write hc fun reply => ih reply (by omega)
  | read hc _ ih => exact .read hc fun reply => ih reply hn
  | other he _ ih => exact .other he fun reply => ih reply hn

theorem imp {P' : Call → Prop} (hP : ∀ c, P c → P' c) {n : Nat} {p : Program α}
    (h : Writes P n p) : Writes P' n p := by
  induction h with
  | done => exact .done
  | write hc _ ih => exact .write (hP _ hc) ih
  | read hc _ ih => exact .read hc ih
  | other he _ ih => exact .other he ih

/-- The writes of a sequence are those of its parts together. -/
theorem bind {m n : Nat} {p : Program α} {f : α → Program β} (hp : Writes P m p)
    (hf : ∀ a, Writes P n (f a)) : Writes P (m + n) (p >>= f) := by
  induction hp with
  | @done m outcome =>
    cases outcome with
    | ok a => exact (hf a).mono (Nat.le_add_left n m)
    | error e => exact .done
  | @write m c next hc _ ih =>
    rw [Nat.add_right_comm]
    exact .write hc ih
  | read hc _ ih => exact .read hc ih
  | other he _ ih => exact .other he ih

/-- A sequence whose first part only reads. -/
theorem after {n : Nat} {p : Program α} {f : α → Program β} (hp : Writes P 0 p)
    (hf : ∀ a, Writes P n (f a)) : Writes P n (p >>= f) := by
  have h := hp.bind hf
  rwa [Nat.zero_add] at h

/-- A sequence whose second part only reads. -/
theorem before {n : Nat} {p : Program α} {f : α → Program β} (hp : Writes P n p)
    (hf : ∀ a, Writes P 0 (f a)) : Writes P n (p >>= f) := hp.bind hf

theorem map {n : Nat} {p : Program α} (hp : Writes P n p) (f : α → β) : Writes P n (f <$> p) :=
  hp.before fun _ => .done

/-- What is left after an effect writes no more than the whole. -/
theorem next {n : Nat} {effect : Effect} {next : effect.Reply → Program α}
    (h : Writes P n (.ask effect next)) (reply : effect.Reply) : Writes P n (next reply) := by
  cases h with
  | write _ hnext => exact (hnext reply).mono (Nat.le_succ _)
  | read _ hnext => exact hnext reply
  | other _ hnext => exact hnext reply

theorem allowed {n : Nat} {c : Call} {next : (Effect.store c).Reply → Program α}
    (h : Writes P n (.ask (.store c) next)) (hc : c.isWrite = true) : P c := by
  cases h with
  | write hP _ => exact hP
  | read hread _ =>
    rw [hc] at hread
    cases hread
  | other hother _ => exact absurd rfl (hother c)

/-! ### Single effects -/

theorem fail {n : Nat} {e : Failure} : Writes P n (Program.fail e : Program α) := .done

theorem pure {n : Nat} {a : α} : Writes P n (Pure.pure a : Program α) := .done

theorem log {n : Nat} {entry : Log.Entry} : Writes P n (Program.log entry) :=
  .other (fun _ h => by cases h) fun _ => .done

theorem deliver {n : Nat} {address code : String} : Writes P n (Program.deliver address code) := by
  refine .other (fun _ h => by cases h) fun reply => ?_
  cases reply <;> exact .done

theorem drawCode {n length : Nat} : Writes P n (Program.drawCode length) :=
  .other (fun _ h => by cases h) fun _ => .done

theorem fieldOf {n : Nat} {reply : Store.Reply} {field : Store.Reply.Field} :
    Writes P n (Program.fieldOf reply field) := by
  unfold Program.fieldOf
  split <;> exact .done

theorem call_read {n : Nat} {c : Call} (hc : c.isWrite = false) : Writes P n (Program.call c) :=
  .read hc fun _ => .done

theorem call_write {c : Call} (hc : P c) : Writes P 1 (Program.call c) := .write hc fun _ => .done

end Writes

/-! ### What a run does to the memory store -/

section Memory
open Rehearsal
open Store.Memory (Transition step step_transition step_of_read perform_cases)

variable {sender : Sender} {context : Context String}

theorem perform_memory_of_read {c : Call} (hc : c.isWrite = false) (w : World) :
    (w.perform context c).2.memory = w.memory := by
  show (Store.Memory.perform context w.clock c w.memory).2 = w.memory
  rcases perform_cases context w.clock c w.memory with ⟨_, h⟩ | ⟨_, m, h⟩
  · rw [h, step_of_read hc]
  · rw [h]

theorem perform_memory (c : Call) (w : World) :
    (w.perform context c).2.memory = w.memory ∨
      (w.perform context c).2.memory = (step c w.memory).2 := by
  show (Store.Memory.perform context w.clock c w.memory).2 = _ ∨
    (Store.Memory.perform context w.clock c w.memory).2 = _
  rcases perform_cases context w.clock c w.memory with ⟨_, h⟩ | ⟨_, m, h⟩
  · exact .inr (congrArg Prod.snd h)
  · exact .inl (congrArg Prod.snd h)

theorem Writes.run_memory {p : Program α} (h : Writes P 0 p) (w : World) :
    (p.run (plainHandler sender context) w).2.memory = w.memory := by
  generalize hn : 0 = n at h
  induction h generalizing w with
  | done => rfl
  | write => cases hn
  | read hc _ ih =>
    rw [run_ask, ih _ _ hn]
    exact perform_memory_of_read hc w
  | other he _ ih =>
    rw [run_ask, ih _ _ hn]
    exact handle_memory he w

/-- A whole run of a program that writes at most once makes at most one step. -/
theorem Writes.run_step {p : Program α} (h : Writes P 1 p) (w : World) :
    (p.run (plainHandler sender context) w).2.memory = w.memory ∨
      ∃ c, P c ∧ (p.run (plainHandler sender context) w).2.memory = (step c w.memory).2 := by
  generalize hn : 1 = n at h
  induction h generalizing w with
  | done => exact .inl rfl
  | @write n c next hc hnext _ =>
    obtain rfl : n = 0 := by omega
    rw [run_ask, Writes.run_memory (hnext _)]
    exact (perform_memory c w).imp id fun h => ⟨c, hc, h⟩
  | @read n c next hc _ ih =>
    have hw : (w.perform context c).2.memory = w.memory := perform_memory_of_read hc w
    rw [run_ask, ← hw]
    exact ih _ _ hn
  | @other n effect next he _ ih =>
    have hw : (plainHandler sender context effect w).2.memory = w.memory := handle_memory he w
    rw [run_ask, ← hw]
    exact ih _ _ hn

/-- So it makes at most one transition. -/
theorem Writes.transition {p : Program α} (h : Writes P 1 p) (w : World) :
    Transition P w.memory (p.run (plainHandler sender context) w).2.memory := by
  rcases h.run_step w with hm | ⟨c, hc, hm⟩
  · exact .of_emails_eq (congrArg _ hm)
  · rw [hm]
    exact (step_transition c w.memory).mono fun _ h => h ▸ hc

end Memory
end EmailOwnership.Program
