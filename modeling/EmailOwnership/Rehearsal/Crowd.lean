import EmailOwnership.Rehearsal.Step

/-! Requests that act in turn on one world.

Each request is a program that stands where its last effect left it. A turn lets one
request take its next effect, cancels a request, or lets time pass; between two store
calls of a request any others may act. -/
namespace EmailOwnership.Rehearsal

/-- A request under way. -/
structure Participant (α : Type) where
  context : Context String
  sender : Sender
  program : Program α

structure Crowd (α : Type) where
  world : World
  participants : List (Participant α)

inductive Turn
  /-- The request at this place takes its next effect. -/
  | proceed (place : Nat)
  | cancel (place : Nat)
  | wait (seconds : Float)

variable {α : Type}

/-- One effect; a request that is done stays as it is. -/
def Participant.proceed (p : Participant α) (w : World) : Participant α × World :=
  match p.program with
  | .done _ => (p, w)
  | .ask effect next =>
    let (reply, w) := plainHandler p.sender p.context effect w
    ({p with program := next reply}, w)

def Participant.cancel (p : Participant α) : Participant α := {p with context := p.context.cancel.2}

def Participant.outcome? (p : Participant α) : Option (Except Failure α) :=
  match p.program with
  | .done outcome => some outcome
  | .ask .. => none

/-- The store call that a request makes when it takes its next effect. -/
def Participant.call? (p : Participant α) : Option Store.Call :=
  match p.program with
  | .ask (.store call) _ => some call
  | _ => none

namespace Crowd

def take (c : Crowd α) : Turn → Crowd α
  | .proceed place =>
    match c.participants[place]? with
    | none => c
    | some p =>
      let (p, w) := p.proceed c.world
      ⟨w, c.participants.set place p⟩
  | .cancel place => {c with participants := c.participants.modify place Participant.cancel}
  | .wait seconds => {c with world := {c.world with clock := c.world.clock + seconds}}

def run (c : Crowd α) (turns : List Turn) : Crowd α := turns.foldl take c

/-- What the turns of a run give, each at its own point, in order. -/
def collect {β : Type} (f : Crowd α → Turn → Option β) : Crowd α → List Turn → List β
  | _, [] => []
  | c, t :: rest => (f c t).toList ++ collect f (c.take t) rest

/-- Whether every request has ended. -/
def isDone (c : Crowd α) : Bool := c.participants.all (fun p => p.outcome?.isSome)

/-- What is left of the request at a place. -/
def program? (c : Crowd α) (place : Nat) : Option (Program α) :=
  c.participants[place]?.map Participant.program

/-- How the request at a place has ended, if it has. -/
def outcome? (c : Crowd α) (place : Nat) : Option (Except Failure α) :=
  c.participants[place]?.bind Participant.outcome?

/-- The store call that a turn makes, if it makes one. -/
def call? (c : Crowd α) : Turn → Option Store.Call
  | .proceed place => c.participants[place]?.bind Participant.call?
  | _ => none

theorem run_append (c : Crowd α) (a b : List Turn) : c.run (a ++ b) = (c.run a).run b :=
  List.foldl_append

theorem run_concat (c : Crowd α) (turns : List Turn) (t : Turn) :
    c.run (turns ++ [t]) = (c.run turns).take t := c.run_append turns [t]

theorem collect_concat {β : Type} (f : Crowd α → Turn → Option β) (c : Crowd α)
    (turns : List Turn) (t : Turn) :
    c.collect f (turns ++ [t]) = c.collect f turns ++ (f (c.run turns) t).toList := by
  induction turns generalizing c with
  | nil => exact List.append_nil _
  | cons u rest ih =>
    show (f c u).toList ++ (c.take u).collect f (rest ++ [t]) = _
    rw [ih, ← List.append_assoc]
    rfl

end Crowd

/-! ### Requests that have not begun -/

/-- An action that is to run under a context. -/
structure Request where
  context : Context String
  action : Action

/-- What is done to the world directly has no effects of its own left to take. -/
def Request.begin (codeLength : Nat) (r : Request) : Participant Result :=
  ⟨r.context, r.action.sender,
    (r.action.program? r.context.requestId codeLength).getD (pure .nothing)⟩

def Crowd.start (codeLength : Nat) (requests : List Request) (w : World) : Crowd Result :=
  ⟨w, requests.map (Request.begin codeLength)⟩

end EmailOwnership.Rehearsal
