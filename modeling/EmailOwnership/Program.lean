import EmailOwnership.Failure
import EmailOwnership.Log

/-! Operations as programs of effects.

An operation is a tree: it asks its surroundings for one effect at a time and goes on
with the reply. It is the same value whether its store calls are answered by the
memory store, by a database, by a script, or in between other requests' calls; a
handler (`run`) gives the effects their meaning. -/
namespace EmailOwnership

inductive Effect
  | store (call : Store.Call)
  | log (entry : Log.Entry)
  /-- Hands a verification code to the sender. -/
  | deliver (address code : String)
  /-- Draws a code of so many decimal digits. -/
  | drawCode (length : Nat)

def Effect.Reply : Effect → Type
  | .store _ => Except Store.Fault Store.Reply
  | .log _ => Unit
  | .deliver .. => Except String Unit
  | .drawCode _ => String

inductive Program (α : Type) : Type
  | done (outcome : Except Failure α)
  | ask (effect : Effect) (next : effect.Reply → Program α)

namespace Program
variable {α β σ : Type}

protected def bind : Program α → (α → Program β) → Program β
  | done (.ok a), f => f a
  | done (.error e), _ => done (.error e)
  | ask effect next, f => ask effect (fun reply => (next reply).bind f)

instance : Monad Program where
  pure a := done (.ok a)
  bind := Program.bind

def fail (e : Failure) : Program α := done (.error e)

/-- Goes on with the outcome, failed or not. -/
def attempt : Program α → Program (Except Failure α)
  | done outcome => done (.ok outcome)
  | ask effect next => ask effect (fun reply => (next reply).attempt)

/-! ### Single effects -/

/-- A store call whose fault is the caller's to classify. -/
def call (c : Store.Call) : Program (Except Store.Fault Store.Reply) :=
  ask (.store c) (fun reply => done (.ok reply))

def log (entry : Log.Entry) : Program Unit :=
  ask (.log entry) (fun _ => done (.ok ()))

def deliver (address code : String) : Program Unit :=
  ask (.deliver address code) fun
    | .ok () => done (.ok ())
    | .error message => fail (.delivery message)

def drawCode (length : Nat) : Program String :=
  ask (.drawCode length) (fun code => done (.ok code))

/-- A field of a reply, which must have it. -/
def fieldOf (reply : Store.Reply) (field : Store.Reply.Field) : Program Store.Value :=
  match reply.field? field with
  | some v => pure v
  | none => fail (.missingField reply.kind field.name)

/-! ### Running -/

/-- What the surroundings do with an effect. -/
abbrev Handler (σ : Type) := (effect : Effect) → σ → effect.Reply × σ

def run (handle : Handler σ) : Program α → σ → Except Failure α × σ
  | done outcome, s => (outcome, s)
  | ask effect next, s => (next (handle effect s).1).run handle (handle effect s).2

@[simp] theorem run_done (handle : Handler σ) (outcome : Except Failure α) (s : σ) :
    (done outcome).run handle s = (outcome, s) := rfl

@[simp] theorem run_ask (handle : Handler σ) (effect : Effect)
    (next : effect.Reply → Program α) (s : σ) :
    (ask effect next).run handle s =
      (next (handle effect s).1).run handle (handle effect s).2 := rfl

/-- Running a sequence runs its first part, and the rest only if that succeeded. -/
theorem run_bind (handle : Handler σ) (p : Program α) (f : α → Program β) (s : σ) :
    (p >>= f).run handle s =
      match p.run handle s with
      | (.ok a, s') => (f a).run handle s'
      | (.error e, s') => (.error e, s') := by
  induction p generalizing s with
  | done outcome => cases outcome <;> rfl
  | ask effect next ih => exact ih _ _

/-- Mapping the answer runs the same effects. -/
theorem run_map (handle : Handler σ) (f : α → β) (p : Program α) (s : σ) :
    (f <$> p).run handle s = ((p.run handle s).1.map f, (p.run handle s).2) := by
  induction p generalizing s with
  | done outcome => cases outcome <;> rfl
  | ask effect next ih => exact ih _ _

theorem run_attempt (handle : Handler σ) (p : Program α) (s : σ) :
    p.attempt.run handle s = (.ok (p.run handle s).1, (p.run handle s).2) := by
  induction p generalizing s with
  | done outcome => rfl
  | ask effect next ih => exact ih _ _

end Program
end EmailOwnership
