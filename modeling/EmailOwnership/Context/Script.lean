import EmailOwnership.Context

/-! Callbacks that act on the context they belong to.

A callback is a name with a list of actions on its own context: it may register and
withdraw callbacks, cancel, look at the clock, or fail. `perform` runs one action, and
with it every callback that the action sets off; a failure skips what is left of the
callbacks around it. Callbacks may set each other off for ever, so their nesting is
bounded by a depth. -/
namespace EmailOwnership.Context.Script

inductive Action
  | advance (seconds : Float)
  | cancel
  | onCancel (callback : String)
  /-- Calls the function that an earlier registration returned; below zero, handles count
  from the last. -/
  | unregister (handle : Int)
  | remaining
  | isDone
  | isCancelled
  | check
  | describe
  | rename (requestId : String)
  | fail (message : String)
  deriving DecidableEq

inductive Result
  | nothing
  | seconds (left : Option Float)
  | flag (b : Bool)
  | requestId (id : String)
  deriving DecidableEq

inductive Stop
  | interrupted (why : Interruption)
  | failed (message : String)
  /-- No registration returned this handle. -/
  | unknownHandle
  | tooDeep
  deriving DecidableEq

/-- The context with its clock. `handles` holds, by number, what each returned function
withdraws, `none` for one that withdraws nothing; `ran` the callbacks run, oldest first. -/
structure Desk where
  clock : Float
  context : Context String
  handles : List (Option String)
  ran : List String

/-- What the function of a handle withdraws, if there is one. -/
def Desk.handle? (d : Desk) (handle : Int) : Option (Option String) :=
  let place := if handle < 0 then handle + d.handles.length else handle
  if place < 0 then none else d.handles[place.toNat]?

abbrev Run := String → Desk → Except Stop Unit × Desk

/-- Runs callbacks in order, up to the first that stops. -/
def runAll (run : Run) : List String → Desk → Except Stop Unit × Desk
  | [], d => (.ok (), d)
  | k :: rest, d =>
    match run k d with
    | (.ok (), d) => runAll run rest d
    | (.error stop, d) => (.error stop, d)

/-- One action, given how to run the callbacks that it sets off. -/
def performWith (run : Run) : Action → Desk → Except Stop Result × Desk
  | .advance seconds, d => (.ok .nothing, {d with clock := d.clock + seconds})
  | .cancel, d =>
    let (callbacks, context) := d.context.cancel
    match runAll run callbacks {d with context := context} with
    | (.ok (), d) => (.ok .nothing, d)
    | (.error stop, d) => (.error stop, d)
  | .onCancel callback, d =>
    match d.context.onCancel callback with
    | (none, context) =>
      (.ok .nothing, {d with context := context, handles := d.handles ++ [some callback]})
    | (some callback, _) =>
      match run callback d with
      | (.ok (), d) => (.ok .nothing, {d with handles := d.handles ++ [none]})
      | (.error stop, d) => (.error stop, d)
  | .unregister handle, d =>
    match d.handle? handle with
    | some (some callback) => (.ok .nothing, {d with context := d.context.unregister callback})
    | some none => (.ok .nothing, d)
    | none => (.error .unknownHandle, d)
  | .remaining, d => (.ok (.seconds (d.context.remaining d.clock)), d)
  | .isDone, d => (.ok (.flag (d.context.isDone d.clock)), d)
  | .isCancelled, d => (.ok (.flag d.context.cancelled), d)
  | .check, d =>
    match d.context.check d.clock with
    | .ok () => (.ok .nothing, d)
    | .error why => (.error (.interrupted why), d)
  | .describe, d => (.ok (.requestId d.context.requestId), d)
  | .rename requestId, d => (.ok .nothing, {d with context := {d.context with requestId := requestId}})
  | .fail message, d => (.error (.failed message), d)

/-- Actions in order, up to the first that stops. -/
def performAll (run : Run) : List Action → Desk → Except Stop Unit × Desk
  | [], d => (.ok (), d)
  | action :: rest, d =>
    match performWith run action d with
    | (.ok _, d) => performAll run rest d
    | (.error stop, d) => (.error stop, d)

/-- Notes the callback, then performs its actions. -/
def runCallback (scripts : String → List Action) : (depth : Nat) → Run
  | 0, _, d => (.error .tooDeep, d)
  | depth + 1, k, d => performAll (runCallback scripts depth) (scripts k) {d with ran := d.ran ++ [k]}

/-- How deeply callbacks may set each other off. -/
def maxDepth : Nat := 325

def perform (scripts : String → List Action) (action : Action) (d : Desk) :
    Except Stop Result × Desk :=
  performWith (runCallback scripts maxDepth) action d

end EmailOwnership.Context.Script
