import EmailOwnership.Rehearsal.Exchange

/-! Requests that have the store to themselves and take their time.

A pace says what happens to a request while it waits for the store: before each of its calls
time may pass, and its context may be cancelled. No other request comes between, and the store
gives every reply. Without any pause nothing stands between request and store
(`steady_interposition`). -/
namespace EmailOwnership.Rehearsal
open Store (Method)

/-- What happens before one store call. -/
structure Pause where
  /-- The seconds that pass, if any do. -/
  seconds : Option Float
  cancels : Bool

def Pause.none : Pause := ⟨Option.none, false⟩

/-- Lets time pass. -/
def World.wait (w : World) : Option Float → World
  | some seconds => {w with clock := w.clock + seconds}
  | none => w

def Session.wait (s : Session) (p : Pause) : Session :=
  let s := {s with world := s.world.wait p.seconds}
  if p.cancels then s.cancel else s

/-- What happens before the `i`-th call of each method. -/
abbrev Pace := Method → Nat → Pause

namespace Pace

def steady : Pace := fun _ _ => .none

def interposition (pace : Pace) : Interposition := ⟨fun m i s => s.wait (pace m i), fun _ _ => none⟩

theorem steady_interposition : steady.interposition = .none := rfl

end Pace

/-! ### Requests in turn -/

/-- A request that comes after a while and takes its own time. -/
structure Arrival where
  after : Option Float
  request : Http.Request
  pace : Pace

/-- The answers to requests in turn, and the world after them. -/
def exchangeAll (settings : Settings) : List Arrival → World → List Api.Response × World
  | [], w => ([], w)
  | a :: rest, w =>
    let (response, w) := exchange settings a.pace.interposition a.request (w.wait a.after)
    let (responses, w) := exchangeAll settings rest w
    (response :: responses, w)

end EmailOwnership.Rehearsal
