import EmailOwnership.Proofs.Program.Settled

/-! The dialogue of an operation with its store.

An operation learns of its store only what its calls are answered. `Leads` relates a program to
what is left of it after some calls with their answers, whatever these are; a run under any
handler goes such a way (`ends_run`). So what holds of every way holds over every store, be it
wrong, slow or shared with others. -/
namespace EmailOwnership.Program
open Store (Call Fault Reply)
variable {α β σ : Type}

/-- A store call with its answer. -/
abbrev Exchange := Call × Except Fault Reply

/-- These calls, answered so, lead from one program to the other; effects that are no store calls
may be answered in any way. -/
inductive Leads : Program α → List Exchange → Program α → Prop
  | here {p : Program α} : Leads p [] p
  | call {c : Call} {next : (Effect.store c).Reply → Program α} {answer : Except Fault Reply}
    {xs : List Exchange} {q : Program α} :
    Leads (next answer) xs q → Leads (.ask (.store c) next) ((c, answer) :: xs) q
  | aside {effect : Effect} {next : effect.Reply → Program α} {reply : effect.Reply}
    {xs : List Exchange} {q : Program α} :
    (∀ c, effect ≠ .store c) → Leads (next reply) xs q → Leads (.ask effect next) xs q

/-- The program may end so, with these exchanges on its way. -/
def Ends (p : Program α) (xs : List Exchange) (outcome : Except Failure α) : Prop :=
  Leads p xs (.done outcome)

theorem Leads.trans {p q r : Program α} {xs ys : List Exchange} (h : Leads p xs q)
    (h' : Leads q ys r) : Leads p (xs ++ ys) r := by
  induction h with
  | here => exact h'
  | call _ ih => exact .call (ih h')
  | aside he _ ih => exact .aside he (ih h')

/-! ### Ways to an end -/

theorem ends_done {outcome o : Except Failure α} {xs : List Exchange} :
    Ends (.done outcome) xs o ↔ xs = [] ∧ o = outcome := by
  constructor
  · intro h
    cases h with
    | here => exact ⟨rfl, rfl⟩
  · rintro ⟨rfl, rfl⟩
    exact .here

/-- A call is answered before anything else happens. -/
theorem ends_call {c : Call} {next : (Effect.store c).Reply → Program α} {xs : List Exchange}
    {o : Except Failure α} (h : Ends (.ask (.store c) next) xs o) :
    ∃ answer ys, xs = (c, answer) :: ys ∧ Ends (next answer) ys o := by
  cases h with
  | call h => exact ⟨_, _, rfl, h⟩
  | aside he _ => exact absurd rfl (he c)

/-- Once its outcome is settled, a program exchanges nothing more. -/
theorem ends_of_settled {p : Program α} {outcome o : Except Failure α} {xs : List Exchange}
    (hp : p.settled? = some outcome) (h : Ends p xs o) : xs = [] ∧ o = outcome := by
  induction p with
  | done outcome' =>
    cases hp
    exact ends_done.1 h
  | ask effect next ih =>
    cases effect with
    | log entry =>
      cases h with
      | aside _ h => exact ih () hp h
    | _ => cases hp

/-- The way of a sequence is that of its first part, which may be where it ends. -/
theorem ends_bind {p : Program α} {f : α → Program β} {xs : List Exchange} {o : Except Failure β}
    (h : Ends (p >>= f) xs o) :
    (∃ e, Ends p xs (.error e) ∧ o = .error e) ∨
      ∃ a ys zs, xs = ys ++ zs ∧ Ends p ys (.ok a) ∧ Ends (f a) zs o := by
  induction p generalizing xs with
  | done outcome =>
    cases outcome with
    | ok a => exact .inr ⟨a, [], xs, rfl, .here, h⟩
    | error e =>
      obtain ⟨rfl, rfl⟩ := ends_done.1 h
      exact .inl ⟨e, .here, rfl⟩
  | ask effect next ih =>
    replace h : Ends (.ask effect fun reply => next reply >>= f) xs o := h
    cases h with
    | call h =>
      rcases ih _ h with ⟨e, he, ho⟩ | ⟨a, ys, zs, rfl, hp, hf⟩
      · exact .inl ⟨e, .call he, ho⟩
      · exact .inr ⟨a, _, zs, rfl, .call hp, hf⟩
    | aside he h =>
      rcases ih _ h with ⟨e, hend, ho⟩ | ⟨a, ys, zs, rfl, hp, hf⟩
      · exact .inl ⟨e, .aside he hend, ho⟩
      · exact .inr ⟨a, ys, zs, rfl, .aside he hp, hf⟩

theorem ends_map {f : α → β} {p : Program α} {xs : List Exchange} {o : Except Failure β}
    (h : Ends (f <$> p) xs o) : ∃ o', Ends p xs o' ∧ o = o'.map f := by
  rcases ends_bind (f := fun a => pure (f a)) h with ⟨e, hp, rfl⟩ | ⟨a, ys, zs, rfl, hp, hf⟩
  · exact ⟨.error e, hp, rfl⟩
  · obtain ⟨rfl, rfl⟩ := ends_done.1 hf
    exact ⟨.ok a, by rwa [List.append_nil], rfl⟩

/-! ### Runs -/

/-- The store call that an effect is, if it is one. -/
def call? : Effect → Option Call
  | .store c => some c
  | _ => none

/-- The store calls of a run, each with the state that it meets. -/
def calls (handle : Handler σ) : Program α → σ → List (Call × σ)
  | done _, _ => []
  | ask effect next, s =>
    ((call? effect).map fun c => (c, s)).toList ++
      (next (handle effect s).1).calls handle (handle effect s).2

def dialogue (handle : Handler σ) (p : Program α) (s : σ) : List Exchange :=
  (p.calls handle s).map fun x => (x.1, (handle (.store x.1) x.2).1)

/-- **A run goes one of the ways of its program**, whatever the handler. -/
theorem ends_run (handle : Handler σ) (p : Program α) (s : σ) :
    Ends p (p.dialogue handle s) (p.run handle s).1 := by
  induction p generalizing s with
  | done outcome => exact .here
  | ask effect next ih =>
    have hnext := ih (handle effect s).1 (handle effect s).2
    cases effect with
    | store c => exact .call hnext
    | _ => exact .aside (fun c hc => by cases hc) hnext

end EmailOwnership.Program
