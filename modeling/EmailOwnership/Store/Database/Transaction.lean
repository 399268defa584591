import EmailOwnership.Context
import EmailOwnership.Numeral
import EmailOwnership.Store.Database.Session

/-! Sessions inside transactions bounded by a request.

A transaction waits for a connection no longer than the request has time, registers the
connection's cancellation with the context, limits its statements to the time left, and
runs its session. Then it withdraws the registration; it commits if the session has ended
with a value and rolls back otherwise. Whatever the database raises becomes a fault
(`classify`): out of time or cancelled if that was it, unavailable storage if not. The
database is any `Server`: a script of incidents, or tables with the meaning of the
statements. -/
namespace EmailOwnership.Store.Database

/-! ### The server -/

/-- What a connection, a statement or a commit may raise. -/
inductive Trouble
  /-- No connection became free in time. -/
  | poolTimeout (message : String)
  /-- The server ended the statement, on request or for its timeout. -/
  | queryCanceled (message : String)
  /-- Any other error of the database, with its class. -/
  | database (name message : String)
  /-- What is no error of the database. -/
  | foreign (name message : String)
  deriving DecidableEq

/-- What happens while the database is at work. -/
structure Incident where
  advance : Option Float
  cancel : Bool
  trouble : Option Trouble

def Incident.none : Incident := ⟨Option.none, false, Option.none⟩

structure Server (σ : Type) where
  connect : σ → Incident × σ
  execute : Query → Option (List Value) → σ → Incident × ResultSet × σ
  commit : σ → Incident × σ
  rollback : σ → Incident × σ

inductive Event
  | connection (timeout : Option Float)
  | execute (query : Query) (parameters : Option (List Value))
  | cancelSent
  | commit
  | rollback
  deriving DecidableEq

/-- A server with the request that uses it. Callbacks of the context are numbers. -/
structure State (σ : Type) where
  server : σ
  clock : Float
  context : Context Nat
  drawn : Nat
  /-- Oldest first. -/
  events : List Event

variable {σ α : Type}

def State.note (s : State σ) (e : Event) : State σ := {s with events := s.events ++ [e]}

/-- What is sent over the connection as callbacks are run. Those that are not its own are no
concern of its. -/
def cancellations (connection : Option Nat) (callbacks : List Nat) : List Event :=
  match connection with
  | none => []
  | some k => List.replicate (callbacks.count k) .cancelSent

/-- Time passes, then the request may be cancelled. The connection is given by its callback, if
that may be registered. -/
def State.suffer (s : State σ) (connection : Option Nat) (incident : Incident) : State σ :=
  let s := match incident.advance with
    | some seconds => {s with clock := s.clock + seconds}
    | none => s
  if incident.cancel then
    let (callbacks, context) := s.context.cancel
    {s with context := context, events := s.events ++ cancellations connection callbacks}
  else s

/-! ### Faults -/

/-- The class of a trouble. -/
def Trouble.name : Trouble → String
  | .poolTimeout _ => "PoolTimeout"
  | .queryCanceled _ => "QueryCanceled"
  | .database name _ | .foreign name _ => name

def Trouble.message : Trouble → String
  | .poolTimeout message | .queryCanceled message | .database _ message | .foreign _ message => message

def Trouble.describe (t : Trouble) : String := t.name ++ ": " ++ t.message

/-- The fault that a request sees, given how long it was to wait for its connection. -/
def classify (context : Context Nat) (wait : Option Float) (t : Trouble) : Fault :=
  match t with
  | .poolTimeout _ =>
    match wait with
    | none => .unavailable t.describe
    | some _ => .interrupted (Interruption.noConnection context.requestId).message
  | .queryCanceled _ =>
    let why : Interruption :=
      if context.cancelled then .cancelled context.requestId else .expired context.requestId
    .interrupted why.message
  | .database .. => .unavailable t.describe
  | .foreign name message => .unforeseen name message

/-- Why a session stopped. -/
inductive Stop
  | trouble (t : Trouble)
  | fault (f : Fault)
  deriving DecidableEq

def Stop.classify (context : Context Nat) (wait : Option Float) : Stop → Fault
  | .trouble t => Database.classify context wait t
  | .fault f => f

/-! ### Sessions -/

def runSession (server : Server σ) (connection : Nat) : Session α → State σ → Except Stop α × State σ
  | .done a, s => (.ok a, s)
  | .fail fault, s => (.error (.fault fault), s)
  | .drawId next, s =>
    runSession server connection (next (.drawn (s.drawn + 1))) {s with drawn := s.drawn + 1}
  | .execute query parameters next, s =>
    let (incident, result, state) := server.execute query parameters s.server
    let s := ({s with server := state}.note (.execute query parameters)).suffer connection incident
    match incident.trouble with
    | some t => (.error (.trouble t), s)
    | none => runSession server connection (next result) s

/-- At least one millisecond; none if the product is beyond every finite double. -/
def milliseconds? (seconds : Float) : Option Nat :=
  let product := seconds * 1000
  if product.isFinite then some (max 1 (wholePart product)) else none

/-- Limits the statements to the time left, then goes on. -/
def limited (remaining : Option Float) (body : Session α) : Session α :=
  match remaining with
  | none => body
  | some seconds =>
    match milliseconds? seconds with
    | none => .fail .boundlessTimeout
    | some n => .execute .setTimeout (some [.text (toString n)]) (fun _ => body)

/-! ### Transactions -/

/-- A number that no pending callback has. -/
def State.fresh (s : State σ) : Nat := s.context.pending.foldr (fun k n => max (k + 1) n) 0

/-- Registers a new connection with the context; a cancelled request sends its cancellation
at once. -/
def State.register (s : State σ) : Nat × State σ :=
  let k := s.fresh
  match s.context.onCancel k with
  | (some _, _) => (k, s.note .cancelSent)
  | (none, context) => (k, {s with context := context})

/-- A connection has been asked for, which takes what time it takes. -/
def State.asked (server : Server σ) (s : State σ) : Incident × State σ :=
  let (incident, state) := server.connect s.server
  (incident,
    ({s with server := state}.note (.connection (s.context.remaining s.clock))).suffer none incident)

/-- A whole session on a new connection, whose callback is withdrawn in the end. -/
def State.conduct (server : Server σ) (body : Session α) (s : State σ) : Except Stop α × State σ :=
  let (k, s) := s.register
  let (outcome, s) := runSession server k (limited (s.context.remaining s.clock) body) s
  (outcome, {s with context := s.context.unregister k})

/-- What a commit raises. By now no callback of the connection is registered. -/
def State.commit (server : Server σ) (s : State σ) : Option Trouble × State σ :=
  let (incident, state) := server.commit s.server
  (incident.trouble, {s with server := state}.suffer none incident)

/-- What a rollback raises is passed over. -/
def State.rollBack (server : Server σ) (s : State σ) : State σ :=
  let (incident, state) := server.rollback s.server
  ({s with server := state}.suffer none incident).note .rollback

def transact (server : Server σ) (body : Session α) (s : State σ) : Except Fault α × State σ :=
  match s.context.check s.clock with
  | .error why => (.error (.interrupted why.message), s)
  | .ok () =>
    let wait := s.context.remaining s.clock
    let (incident, s) := s.asked server
    match incident.trouble with
    | some t => (.error (classify s.context wait t), s)
    | none =>
      match s.conduct server body with
      | (.error stop, s) =>
        let s := s.rollBack server
        (.error (stop.classify s.context wait), s)
      | (.ok a, s) =>
        match s.commit server with
        | (some t, s) => (.error (classify s.context wait t), s)
        | (none, s) => (.ok a, s.note .commit)

/-- A store call over a database. -/
def perform (server : Server σ) (c : Call) (s : State σ) : Except Fault Reply × State σ :=
  match transact server c.session s with
  | (.ok reply, s) => (reply, s)
  | (.error fault, s) => (.error fault, s)

end EmailOwnership.Store.Database
