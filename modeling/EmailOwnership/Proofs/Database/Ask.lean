import EmailOwnership.Proofs.Database.Passage

/-! Calls of one statement on email records.

Six of the calls ask the table of records one thing: a statement, its parameters and the
reading of what comes back (`Ask`). Once their connection is open they send this statement,
and if nothing goes wrong they commit and return what they read (`perform_of_opened`). -/
namespace EmailOwnership.Store

namespace Database

/-- A statement with its parameters, and the reading of its result. -/
structure Ask where
  statement : EmailStatement
  parameters : List Value
  read : ResultSet → Except Fault Reply

def Ask.session (a : Ask) : Session (Except Fault Reply) :=
  .execute (.emails a.statement) (some a.parameters) fun r => .done (a.read r)

end Database
open Database

/-- What a call asks, `id` being the identifier drawn for it. -/
def Call.ask? (id : Uuid) : Call → Option Ask
  | .getEmail address => some ⟨Database.getEmail, [.text address], ResultSet.record⟩
  | .createEmail address owner code =>
    some ⟨Database.createEmail, [.uuid id, .ofOwner owner, .text address, .text code], ResultSet.record⟩
  | .claimUnowned address account code =>
    some ⟨Database.claimUnowned, [.uuid account, .text code, .text address], ResultSet.record⟩
  | .reissueCode address account code =>
    some ⟨Database.reissueCode, [.text code, .text address, .uuid account], ResultSet.record⟩
  | .markVerified address account =>
    some ⟨Database.markVerified, [.text address, .uuid account], fun r => .ok (.count r.count)⟩
  | .deleteEmail email account =>
    some ⟨Database.deleteEmail, [.uuid email, .uuid account], fun r => .ok (.count r.count)⟩
  | _ => none

/-- The calls that ask the table of records. -/
def Call.onRecords : Call → Bool
  | .getEmail .. => true
  | c => c.isWrite

/-- How many identifiers a call draws. -/
def Call.draws : Call → Nat
  | .createEmail .. => 1
  | _ => 0

namespace Database
variable {σ : Type} {server : Server σ} {c : Call} {a : Ask} {s r : State σ}

theorem ask?_of_onRecords (h : c.onRecords = true) (id : Uuid) : ∃ a, c.ask? id = some a := by
  cases c with
  | getEmail | createEmail | claimUnowned | reissueCode | markVerified | deleteEmail => exact ⟨_, rfl⟩
  | _ => cases h

theorem onRecords_of_isWrite (h : c.isWrite = true) : c.onRecords = true := by
  cases c with
  | getEmail => rfl
  | _ => exact h

theorem runSession_ask (connection : Nat) (h : c.ask? (.drawn (r.drawn + 1)) = some a) :
    runSession server connection c.session r =
      runSession server connection a.session {r with drawn := r.drawn + c.draws} := by
  cases c with
  | createEmail | getEmail | claimUnowned | reissueCode | markVerified | deleteEmail =>
    cases h
    rfl
  | _ => cases h

/-- The statement is sent as soon as the connection is open. -/
theorem conduct_ask (hopened : s.opened server = (.ok (), r))
    (h : c.ask? (.drawn (r.drawn + 1)) = some a) :
    s.conduct server c.session =
      (match (server.execute (.emails a.statement) (some a.parameters) r.server).1.trouble with
        | some t => .error (.trouble t)
        | none =>
          .ok (a.read (server.execute (.emails a.statement) (some a.parameters) r.server).2.1),
        let r' := {r with drawn := r.drawn + c.draws}.executed server s.fresh (.emails a.statement)
          (some a.parameters)
        {r' with context := r'.context.unregister s.fresh}) := by
  rw [conduct_of_opened server hopened, runSession_ask s.fresh h, Ask.session, runSession_execute]
  dsimp only
  cases (server.execute (.emails a.statement) (some a.parameters) r.server).1.trouble <;> rfl

/-- Where the context stands when the connection is open is no matter: the statement is sent. -/
theorem sent_of_opened (hlive : s.context.isDone s.clock = false)
    (htrouble : (s.asked server).1.trouble = none)
    (hopened : (s.asked server).2.opened server = (.ok (), r))
    (h : c.ask? (.drawn (r.drawn + 1)) = some a) :
    ∃ rest, (perform server c s).2.events =
      r.events ++ .execute (.emails a.statement) (some a.parameters) :: rest := by
  obtain ⟨sent, hevents⟩ : ∃ sent, ((s.asked server).2.conduct server c.session).2.events =
      r.events ++ .execute (.emails a.statement) (some a.parameters) :: sent := by
    rw [conduct_ask hopened h]
    exact ⟨_, (suffer_events ({r with
      server := (server.execute (.emails a.statement) (some a.parameters) r.server).2.2
      drawn := r.drawn + c.draws}.note (.execute (.emails a.statement) (some a.parameters))) _
      _).trans (List.append_assoc ..)⟩
  rw [perform_of_connected server hlive htrouble]
  rcases hc : (s.asked server).2.conduct server c.session with ⟨outcome, s'⟩
  rw [hc] at hevents
  dsimp only at hevents
  cases outcome with
  | error stop => exact ⟨sent ++ [.rollback], by simp [rollBack_events, hevents]⟩
  | ok answer =>
    have hkept := commit_events server s'
    rcases hcommit : s'.commit server with ⟨_ | t, s''⟩ <;> rw [hcommit] at hkept <;> dsimp only at hkept
    · exact ⟨sent ++ [.commit], by simp [hcommit, State.note, hkept, hevents]⟩
    · exact ⟨sent, by simp [hcommit, hkept, hevents]⟩

/-- If neither the statement nor the commit raises anything, what was read is committed. -/
theorem perform_of_opened (hlive : s.context.isDone s.clock = false)
    (htrouble : (s.asked server).1.trouble = none)
    (hopened : (s.asked server).2.opened server = (.ok (), r))
    (h : c.ask? (.drawn (r.drawn + 1)) = some a) {incident incident' : Incident} {result : ResultSet}
    {state state' : σ}
    (hexecute : server.execute (.emails a.statement) (some a.parameters) r.server =
      (incident, result, state))
    (hincident : incident.trouble = none) (hcommit : server.commit state = (incident', state'))
    (hincident' : incident'.trouble = none) :
    (perform server c s).1 = a.read result ∧ (perform server c s).2.server = state' ∧
      (perform server c s).2.drawn = r.drawn + c.draws ∧
      (perform server c s).2.events.getLast? = some .commit := by
  have hconduct := conduct_ask hopened h
  rw [hexecute] at hconduct
  simp only [hincident] at hconduct
  rw [perform_of_connected server hlive htrouble, hconduct]
  simp [State.executed, State.commit, State.note, hexecute, hcommit, hincident']

end Database
end EmailOwnership.Store
