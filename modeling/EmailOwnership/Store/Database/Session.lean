import EmailOwnership.Store.Call
import EmailOwnership.Store.Database.Statement

/-! What each store call does on a connection.

A `Session` runs inside one transaction: it executes statements one at a time, draws
identifiers, and ends with a value or with a fault that undoes the transaction. Each call
has its session (`Call.session`); a write is one statement whose conditions carry what
must hold. -/
namespace EmailOwnership.Store

namespace Database

inductive Session (α : Type) : Type
  | done (a : α)
  | fail (fault : Fault)
  | drawId (next : Uuid → Session α)
  | execute (query : Query) (parameters : Option (List Value)) (next : ResultSet → Session α)

namespace Session
variable {α β : Type}

protected def bind : Session α → (α → Session β) → Session β
  | done a, f => f a
  | fail fault, _ => fail fault
  | drawId next, f => drawId (fun u => (next u).bind f)
  | execute query parameters next, f => execute query parameters (fun r => (next r).bind f)

instance : Monad Session where
  pure := done
  bind := Session.bind

def run (query : Query) (parameters : List Value) : Session ResultSet :=
  execute query (some parameters) done

def nextId : Session Uuid := drawId done

/-- A value read off a row, or a fault within the transaction. -/
def ofExcept : Except Fault α → Session α
  | .ok a => done a
  | .error fault => fail fault

end Session

/-! ### Reading rows

Rows are read by position; only their width matters, and what is beyond it is passed over. -/

def emailOfRow : Row → Except Fault EmailRow
  | id :: address :: owner :: code :: verified :: _ => .ok ⟨id, address, owner, code, verified⟩
  | _ => .error .malformedRow

/-- The record of the first row, if there is one. -/
def ResultSet.record (r : ResultSet) : Except Fault Reply :=
  match r.rows.head? with
  | none => .ok .nothing
  | some row => (emailOfRow row).map .record

def methodOfRow : Row → Except Fault AuthenticationRow
  | id :: service :: identifier :: _ => .ok ⟨id, service, identifier⟩
  | _ => .error .malformedRow

def roleOfRow : Row → Except Fault RoleRow
  | id :: name :: _ => .ok ⟨id, name⟩
  | _ => .error .malformedRow

def tagOfRow : Row → Except Fault Value
  | name :: _ => .ok name
  | _ => .error .malformedRow

/-! ### The statements of the calls -/

def getEmail : EmailStatement := .select recordColumns [.equals .address .parameter]

def createEmail : EmailStatement :=
  .insert [(.id, .parameter), (.account, .parameter), (.address, .parameter), (.code, .parameter),
    (.verified, .literal false)] .address recordColumns

def claimUnowned : EmailStatement :=
  .update [(.account, .parameter), (.code, .parameter), (.verified, .literal false)]
    [.equals .address .parameter, .isNull .account] recordColumns

def reissueCode : EmailStatement :=
  .update [(.code, .parameter)]
    [.equals .address .parameter, .equals .account .parameter, .equals .verified (.literal false)]
    recordColumns

def markVerified : EmailStatement :=
  .update [(.verified, .literal true)] [.equals .address .parameter, .equals .account .parameter] []

def deleteEmail : EmailStatement :=
  .delete [.equals .id .parameter, .equals .account .parameter]

/-! ### Accounts -/

/-- The rows of an account's edge, each read. -/
def edges {α : Type} (query : Query) (account : Value) (read : Row → Except Fault α) :
    Session (List α) := do
  let r ← Session.run query [account]
  Session.ofExcept (r.rows.mapM read)

/-- The account that `query` finds, with emails and authentication, and the other edges if
asked for. -/
def account (query : Query) (parameters : List Value) (withRoles : Bool) : Session Reply := do
  let r ← Session.run query parameters
  match r.rows.head? with
  | none => pure .nothing
  | some (id :: handle :: name :: _) =>
    let emails ← edges .emailsOf id emailOfRow
    let authentication ← edges .authenticationOf id methodOfRow
    if withRoles then
      let roles ← edges .rolesOf id roleOfRow
      let tags ← edges .tagsOf id tagOfRow
      pure (.account ⟨id, handle, name, emails, authentication, roles, tags⟩)
    else pure (.account ⟨id, handle, name, emails, authentication, [], []⟩)
  | some _ => .fail .malformedRow

def credential (r : ResultSet) : Except Fault Reply :=
  match r.rows.head? with
  | none => .ok .nothing
  | some (account :: hash :: _) => .ok (.credential account hash)
  | some _ => .error .malformedRow

end Database

open Database in
/-- The session of a call. A reply read off rows after the commit may still be a fault. -/
def Call.session : Call → Session (Except Fault Reply)
  | .getEmail address =>
    return (← Session.run (.emails Database.getEmail) [.text address]).record
  | .createEmail address owner code => do
    let id ← Session.nextId
    return (← Session.run (.emails Database.createEmail)
      [.uuid id, .ofOwner owner, .text address, .text code]).record
  | .claimUnowned address account code =>
    return (← Session.run (.emails Database.claimUnowned)
      [.uuid account, .text code, .text address]).record
  | .reissueCode address account code =>
    return (← Session.run (.emails Database.reissueCode)
      [.text code, .text address, .uuid account]).record
  | .markVerified address account =>
    return .ok (.count (← Session.run (.emails Database.markVerified)
      [.text address, .uuid account]).count)
  | .deleteEmail email account =>
    return .ok (.count (← Session.run (.emails Database.deleteEmail)
      [.uuid email, .uuid account]).count)
  | .accountByCode address code =>
    return .ok (← Database.account .ownerByCode [.text address, .text code] false)
  | .accountByEmail address =>
    return .ok (← Database.account .ownerByAddress [.text address] true)
  | .passwordCredential handle =>
    return Database.credential (← Session.run .passwordByHandle [.text handle])
  | .ping => .execute .ping none (fun _ => .done (.ok .nothing))

end EmailOwnership.Store
