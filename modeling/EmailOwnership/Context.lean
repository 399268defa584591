/-! The cancellation and deadline token of a request.

A context may carry a deadline on the monotonic clock and may be cancelled. Work in
flight registers callbacks, which a cancellation hands out once (`cancel`, `onCancel`,
`unregister`); running them is left to whoever owns them. `check` refuses a request
that is done, and says why. -/
namespace EmailOwnership

/-- Why a request may not go on. -/
inductive Interruption
  | cancelled (requestId : String)
  | expired (requestId : String)
  | noConnection (requestId : String)
  deriving DecidableEq

def Interruption.message : Interruption → String
  | .cancelled id => "request " ++ id ++ " cancelled"
  | .expired id => "request " ++ id ++ " deadline exceeded"
  | .noConnection id => "request " ++ id ++ " deadline exceeded waiting for a connection"

/-- A request with callbacks named by `κ`; equal names are the same callback. -/
structure Context (κ : Type) where
  requestId : String
  deadline : Option Float
  cancelled : Bool
  pending : List κ

namespace Context
variable {κ : Type}

/-- The identifier of a request that brings none. -/
def defaultId : String := String.ofList (List.replicate 32 '0')

def new (requestId : String) (deadline : Option Float) : Context κ := ⟨requestId, deadline, false, []⟩

/-- Expires `seconds` after `now`. -/
def withTimeout (now seconds : Float) (requestId : String) : Context κ :=
  new requestId (some (now + seconds))

/-! ### Time -/

/-- Seconds from `now` to `deadline`, never negative; zero if either is not a number. -/
def timeLeft (deadline now : Float) : Float :=
  let left := deadline - now
  if left > 0 then left else 0

def remaining (c : Context κ) (now : Float) : Option Float := c.deadline.map (timeLeft · now)

def isDone (c : Context κ) (now : Float) : Bool :=
  c.cancelled || (c.remaining now).any (· ≤ 0)

def check (c : Context κ) (now : Float) : Except Interruption Unit :=
  if c.cancelled then .error (.cancelled c.requestId)
  else if c.isDone now then .error (.expired c.requestId)
  else .ok ()

theorem check_eq_ok_iff (c : Context κ) (now : Float) :
    c.check now = .ok () ↔ c.isDone now = false := by
  unfold check
  by_cases hc : c.cancelled
  · simp [hc, isDone]
  · by_cases hd : c.isDone now <;> simp [hc, hd]

theorem cancelled_of_live {c : Context κ} {now : Float} (h : c.isDone now = false) :
    c.cancelled = false := (Bool.or_eq_false_iff.1 h).1

/-! ### Cancellation -/

/-- Marks the request and hands out the callbacks to run, in the order of registration. -/
def cancel (c : Context κ) : List κ × Context κ :=
  (c.pending, {c with cancelled := true, pending := []})

/-- Registers a callback, or, once cancelled, hands it back to be run at once. -/
def onCancel (c : Context κ) (k : κ) : Option κ × Context κ :=
  if c.cancelled then (some k, c) else (none, {c with pending := c.pending ++ [k]})

/-- Withdraws the oldest registration equal to `k`, if one is pending. -/
def unregister [DecidableEq κ] (c : Context κ) (k : κ) : Context κ :=
  {c with pending := c.pending.erase k}

end Context
end EmailOwnership
