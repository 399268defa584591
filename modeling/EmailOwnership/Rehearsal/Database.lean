import EmailOwnership.Authentication
import EmailOwnership.Registry
import EmailOwnership.Rehearsal.World
import EmailOwnership.Store.Database.Transaction

/-! Operations over a database that follows a script.

Each connection plays the script of results from its beginning; a statement past the end
finds no rows. -/
namespace EmailOwnership.Rehearsal
open Store (Call Fault)
open Store.Database

/-- What a statement meets, and what it finds. -/
structure Planned where
  incident : Incident
  result : ResultSet

def Planned.none : Planned := ⟨.none, ⟨[], 0⟩⟩

structure Script where
  connect : Incident
  setTimeout : Planned
  results : List Planned
  commit : Incident

/-- A script under way: the results that this connection has not used. -/
structure Player where
  script : Script
  left : List Planned

def Player.server : Server Player where
  connect p := (p.script.connect, {p with left := p.script.results})
  execute query _ p :=
    match query, p.left with
    | .setTimeout, _ => (p.script.setTimeout.incident, p.script.setTimeout.result, p)
    | _, next :: left => (next.incident, next.result, {p with left := left})
    | _, [] => (Planned.none.incident, Planned.none.result, p)
  commit p := (p.script.commit, p)
  rollback p := (.none, p)

/-- A scripted database with what else an operation can see. -/
structure Desk where
  database : Store.Database.State Player
  digits : Digits
  log : List Log.Entry

def deskHandler : Program.Handler Desk
  | .store c, d =>
    let (reply, database) := Store.Database.perform Player.server c d.database
    (reply, {d with database := database})
  | .log entry, d => ((), {d with log := d.log ++ [entry]})
  | .deliver address code, d => (.ok (), {d with log := d.log ++ [.codeDelivered address code]})
  | .drawCode length, d => ((d.digits.draw length).1, {d with digits := (d.digits.draw length).2})

end EmailOwnership.Rehearsal
