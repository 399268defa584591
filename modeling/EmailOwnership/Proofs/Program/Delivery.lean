import EmailOwnership.Proofs.Program.Dialogue

/-! The codes that an operation hands to its sender.

`Hands` is a way of a program as in `Leads`, with the codes that go to the sender kept beside the
exchanges with the store. A part that takes no such effect, whatever it is answered, is `Mute`: in
a sequence it adds to the exchanges only (`hands_bind_mute`). -/
namespace EmailOwnership

/-- The code that an effect hands to the sender, with its address. -/
def Effect.handed? : Effect → Option (String × String)
  | .deliver address code => some (address, code)
  | _ => none

namespace Program
open Store (Call Fault Reply)
variable {α β : Type}

/-- The code that a program hands to the sender by its next effect. -/
def handed? : Program α → Option (String × String)
  | .ask effect _ => effect.handed?
  | .done _ => none

/-- These exchanges lead from one program to the other, with these codes handed over. -/
inductive Hands : Program α → List Exchange → List (String × String) → Program α → Prop
  | here {p : Program α} : Hands p [] [] p
  | call {c : Call} {next : (Effect.store c).Reply → Program α} {answer : Except Fault Reply}
    {xs : List Exchange} {sent : List (String × String)} {q : Program α} :
    Hands (next answer) xs sent q → Hands (.ask (.store c) next) ((c, answer) :: xs) sent q
  | aside {effect : Effect} {next : effect.Reply → Program α} {reply : effect.Reply}
    {xs : List Exchange} {sent : List (String × String)} {q : Program α} :
    (∀ c, effect ≠ .store c) → Hands (next reply) xs sent q →
    Hands (.ask effect next) xs (effect.handed?.toList ++ sent) q

theorem Hands.trans {p q r : Program α} {xs ys : List Exchange} {sent rest : List (String × String)}
    (h : Hands p xs sent q) (h' : Hands q ys rest r) : Hands p (xs ++ ys) (sent ++ rest) r := by
  induction h with
  | here => exact h'
  | call _ ih => exact .call (ih h')
  | aside he _ ih =>
    rw [List.append_assoc]
    exact .aside he (ih h')

/-! ### Ways to an end -/

section Ends
variable {xs : List Exchange} {sent : List (String × String)}

theorem hands_done {outcome o : Except Failure α} (h : Hands (.done outcome) xs sent (.done o)) :
    xs = [] ∧ sent = [] ∧ o = outcome := by
  cases h with
  | here => exact ⟨rfl, rfl, rfl⟩

/-- A code is handed over whether the sender delivers it or not. -/
theorem hands_deliver {address code : String} {f : Unit → Program α} {o : Except Failure α}
    (h : Hands (deliver address code >>= f) xs sent (.done o)) :
    (∃ message, sent = [(address, code)] ∧ o = .error (.delivery message)) ∨
      ∃ rest, sent = (address, code) :: rest ∧ Hands (f ()) xs rest (.done o) := by
  obtain ⟨next, hask, hsent, hunsent⟩ : ∃ next, deliver address code >>= f =
      .ask (.deliver address code) next ∧ next (.ok ()) = f () ∧
      ∀ message, next (.error message) = fail (.delivery message) := ⟨_, rfl, rfl, fun _ => rfl⟩
  rw [hask] at h
  cases h with
  | @aside _ _ reply _ rest _ _ h =>
    cases reply with
    | ok u =>
      have hrest : Hands (f ()) xs rest (.done o) := by rwa [← hsent]
      exact .inr ⟨rest, rfl, hrest⟩
    | error message =>
      rw [hunsent] at h
      obtain ⟨rfl, rfl, rfl⟩ := hands_done h
      exact .inl ⟨message, rfl, rfl⟩

theorem hands_map {f : α → β} {p : Program α} {o : Except Failure β}
    (h : Hands (f <$> p) xs sent (.done o)) :
    ∃ o', Hands p xs sent (.done o') ∧ o = o'.map f := by
  induction p generalizing xs sent with
  | done outcome =>
    have hdone : f <$> (done outcome : Program α) = done (outcome.map f) := by
      cases outcome <;> rfl
    rw [hdone] at h
    obtain ⟨rfl, rfl, rfl⟩ := hands_done h
    exact ⟨outcome, .here, rfl⟩
  | ask effect next ih =>
    replace h : Hands (.ask effect fun reply => f <$> next reply) xs sent (.done o) := h
    cases h with
    | call h =>
      obtain ⟨o', hp, ho⟩ := ih _ h
      exact ⟨o', .call hp, ho⟩
    | aside he h =>
      obtain ⟨o', hp, ho⟩ := ih _ h
      exact ⟨o', .aside he hp, ho⟩

end Ends

/-! ### Parts that hand nothing over -/

/-- No effect of the program hands a code over, whatever it is answered. -/
inductive Mute : Program α → Prop
  | done {outcome : Except Failure α} : Mute (.done outcome)
  | ask {effect : Effect} {next : effect.Reply → Program α} :
    effect.handed? = none → (∀ reply, Mute (next reply)) → Mute (.ask effect next)

namespace Mute

theorem bind {p : Program α} {f : α → Program β} (hp : Mute p) (hf : ∀ a, Mute (f a)) :
    Mute (p >>= f) := by
  induction hp with
  | @done outcome =>
    cases outcome with
    | ok a => exact hf a
    | error e => exact .done
  | ask he _ ih => exact .ask he ih

theorem pure {a : α} : Mute (Pure.pure a : Program α) := .done

theorem fail {e : Failure} : Mute (Program.fail e : Program α) := .done

theorem call {c : Call} : Mute (Program.call c) := .ask rfl fun _ => .done

theorem log {entry : Log.Entry} : Mute (Program.log entry) := .ask rfl fun _ => .done

theorem drawCode {length : Nat} : Mute (Program.drawCode length) := .ask rfl fun _ => .done

theorem fieldOf {reply : Reply} {field : Reply.Field} : Mute (Program.fieldOf reply field) := by
  unfold Program.fieldOf
  split <;> exact .done

end Mute

/-- The way of a sequence whose first part is mute is that of its first part, which may be where it
ends; every code is handed over after it. -/
theorem hands_bind_mute {p : Program α} (hp : Mute p) {f : α → Program β} {xs : List Exchange}
    {sent : List (String × String)} {o : Except Failure β}
    (h : Hands (p >>= f) xs sent (.done o)) :
    (∃ e, Ends p xs (.error e) ∧ sent = [] ∧ o = .error e) ∨
      ∃ a ys zs, xs = ys ++ zs ∧ Ends p ys (.ok a) ∧ Hands (f a) zs sent (.done o) := by
  induction hp generalizing xs sent with
  | @done outcome =>
    cases outcome with
    | ok a => exact .inr ⟨a, [], xs, rfl, .here, h⟩
    | error e =>
      obtain ⟨rfl, rfl, rfl⟩ := hands_done h
      exact .inl ⟨e, .here, rfl, rfl⟩
  | @ask effect next hmute _ ih =>
    replace h : Hands (.ask effect fun reply => next reply >>= f) xs sent (.done o) := h
    cases h with
    | call h =>
      rcases ih _ h with ⟨e, hend, hsent, ho⟩ | ⟨a, ys, zs, rfl, hend, hf⟩
      · exact .inl ⟨e, .call hend, hsent, ho⟩
      · exact .inr ⟨a, _, zs, rfl, .call hend, hf⟩
    | aside he h =>
      rw [hmute, Option.toList_none, List.nil_append]
      rcases ih _ h with ⟨e, hend, hsent, ho⟩ | ⟨a, ys, zs, rfl, hend, hf⟩
      · exact .inl ⟨e, .aside he hend, hsent, ho⟩
      · exact .inr ⟨a, ys, zs, rfl, .aside he hend, hf⟩

end Program
end EmailOwnership
