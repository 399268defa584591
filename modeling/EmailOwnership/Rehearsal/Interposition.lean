import EmailOwnership.Rehearsal.Step

/-! Operations whose store calls are interfered with.

The `i`-th call of a store method is noted; then whatever is planned before it happens:
other steps act on the store, perhaps interfered with themselves, or the operation's
context is cancelled. Then the planned reply is given, or the store answers. -/
namespace EmailOwnership.Rehearsal
open Store (Call Fault Method Reply)

/-- What became of a step: its answer and, where its store calls were watched, these calls
and what became of the steps between them, oldest first. -/
inductive Report
  | plain (answer : Answer)
  | watched (answer : Answer) (calls : List Call) (inner : List Report)

/-- An operation under way: its world and context, its calls so far, oldest first, and what
became of the steps between them. -/
structure Session where
  world : World
  context : Context String
  calls : List Call
  inner : List Report

namespace Session

def start (world : World) (context : Context String) : Session := ⟨world, context, [], []⟩

def countOf (s : Session) (m : Method) : Nat := s.calls.countP (fun c => c.method == m)

/-- Cancels the context of the operation. -/
def cancel (s : Session) : Session :=
  {s with context := s.context.cancel.2, inner := s.inner ++ [.plain (.ok .nothing)]}

end Session

structure Interposition where
  /-- What happens before the `i`-th call of a method. -/
  before : Method → Nat → Session → Session
  /-- The reply to the `i`-th call of its method, if it is planned. -/
  reply : Call → Nat → Option (Except Fault Reply)

def Interposition.none : Interposition := ⟨fun _ _ s => s, fun _ _ => Option.none⟩

/-- A store call that the interposition sees first. -/
def Session.perform (plan : Interposition) (c : Call) (s : Session) :
    Except Fault Reply × Session :=
  let i := s.countOf c.method
  let s := plan.before c.method i {s with calls := s.calls ++ [c]}
  match plan.reply c i with
  | some reply => (reply, s)
  | none =>
    let (reply, world) := s.world.perform s.context c
    (reply, {s with world := world})

def sessionHandler (plan : Interposition) (sender : Sender) : Program.Handler Session
  | .store c, s => s.perform plan c
  | .log entry, s => ((), {s with world := s.world.note entry})
  | .deliver address code, s =>
    let (outcome, world) := deliver sender address code s.world
    (outcome, {s with world := world})
  | .drawCode length, s =>
    let (code, world) := s.world.draw length
    (code, {s with world := world})

/-- A step of a rehearsal; without a plan its store calls are not watched. -/
structure Step where
  visit : Visit
  plan : Option Interposition

/-- What becomes of a step, and the world after it. -/
def Step.perform (codeLength : Nat) (step : Step) (w : World) : Report × World :=
  match step.plan with
  | none =>
    let (answer, w) := step.visit.perform codeLength w
    (.plain answer, w)
  | some plan =>
    let context : Context String := step.visit.context.build w.clock
    match step.visit.action.program? context.requestId codeLength with
    | some program =>
      let (answer, s) :=
        program.run (sessionHandler plan step.visit.action.sender) (.start w context)
      (.watched answer s.calls s.inner, s.world)
    | none =>
      let (answer, w) := step.visit.action.apply w
      (.watched answer [] [], w)

/-- Lets a step act between two calls of an operation. -/
def Session.admit (codeLength : Nat) (step : Step) (s : Session) : Session :=
  let (report, world) := step.perform codeLength s.world
  {s with world := world, inner := s.inner ++ [report]}

end EmailOwnership.Rehearsal
