import EmailOwnership.Context
import EmailOwnership.Table
import EmailOwnership.Store.Call

/-! The store in memory.

Records stand under their address in the order in which they were created. Each call
is one step on the whole state: it looks at the context first, and a request that is
done changes nothing (`perform`). Identifiers are drawn by counting, so none comes
twice. Accounts are seeded; records may still name owners that never were. -/
namespace EmailOwnership.Store.Memory

structure Profile where
  handle : String
  name : String
  deriving DecidableEq, Inhabited

structure State where
  emails : Table String EmailRecord
  accounts : Table Uuid Profile
  /-- The methods of an account, each with its secret. -/
  authentication : Table Uuid (List (AuthenticationMethod × String))
  roles : Table Uuid (List Role)
  tags : Table Uuid (List String)
  /-- How many identifiers have been drawn. -/
  drawn : Nat

def State.empty : State := ⟨.empty, .empty, .empty, .empty, .empty, 0⟩

instance : Inhabited State := ⟨.empty⟩

/-- The next identifier, and the state that has drawn it. -/
def State.draw (s : State) : Uuid × State := (.drawn (s.drawn + 1), {s with drawn := s.drawn + 1})

/-! ### Seeding -/

/-- Adds an account or replaces its handle and name; what hangs on it stays. An empty
name is the handle. -/
def addAccount (handle : String) (name : Option String) (id : Option Uuid) (s : State) :
    Uuid × State :=
  let (id, s) : Uuid × State := match id with
    | some id => (id, s)
    | none => s.draw
  let name := match name with
    | some name => if name.isEmpty then handle else name
    | none => handle
  (id, {s with
    accounts := s.accounts.put id ⟨handle, name⟩
    authentication := s.authentication.putIfAbsent id []
    roles := s.roles.putIfAbsent id []
    tags := s.tags.putIfAbsent id []})

/-- Appends a method to those of a known account. -/
def addMethod (account : Uuid) (method : AuthenticationMethod) (secret : String) (s : State) :
    Except Fault Unit × State :=
  match s.authentication.get? account with
  | none => (.error (.missingAccount account), s)
  | some methods =>
    (.ok (), {s with authentication := s.authentication.put account (methods ++ [(method, secret)])})

/-- The service name under which password hashes are kept. -/
def passwordService : String := "password"

/-- Gives a known account a password method, identified by its handle. -/
def addPassword (account : Uuid) (hash : String) (s : State) : Except Fault Unit × State :=
  match s.accounts.get? account with
  | none => (.error (.missingAccount account), s)
  | some profile =>
    let (id, s) := s.draw
    addMethod account ⟨id, passwordService, profile.handle⟩ hash s

def addRole (account : Uuid) (name : String) (s : State) : Except Fault Unit × State :=
  match s.roles.get? account with
  | none => (.error (.missingAccount account), s)
  | some roles =>
    let (id, s) := s.draw
    (.ok (), {s with roles := s.roles.put account (roles ++ [⟨id, name⟩])})

def addTag (account : Uuid) (name : String) (s : State) : Except Fault Unit × State :=
  match s.tags.get? account with
  | none => (.error (.missingAccount account), s)
  | some tags => (.ok (), {s with tags := s.tags.put account (tags ++ [name])})

/-- Puts a record under its address, whatever was there. -/
def putRecord (record : EmailRecord) (s : State) : State :=
  {s with emails := s.emails.put record.address record}

/-! ### Look-ups -/

/-- The account with its records, in their order; roles and tags only if asked for. -/
def buildAccount (account : Uuid) (withRoles : Bool) (s : State) : Except Fault Account :=
  match s.accounts.get? account, s.authentication.get? account with
  | some profile, some methods =>
    let edges (roles : List Role) (tags : List String) : Account :=
      { id := account
        handle := profile.handle
        name := profile.name
        emails := s.emails.values.filter (fun r => decide (r.owner = some account))
        authentication := methods.map Prod.fst
        roles := roles
        tags := tags }
    if withRoles then
      match s.roles.get? account, s.tags.get? account with
      | some roles, some tags => .ok (edges roles tags)
      | _, _ => .error (.missingAccount account)
    else .ok (edges [] [])
  | _, _ => .error (.missingAccount account)

/-- The first password secret of the methods. -/
def passwordOf (methods : List (AuthenticationMethod × String)) : Option String :=
  (methods.find? (fun m => m.1.service == passwordService)).map Prod.snd

/-- The first account with this handle that has a password. -/
def credential (handle : String) (s : State) :
    List (Uuid × Profile) → Except Fault (Option (Uuid × String))
  | [] => .ok none
  | (account, profile) :: rest =>
    if profile.handle ≠ handle then credential handle s rest
    else match s.authentication.get? account with
      | none => .error (.missingAccount account)
      | some methods =>
        match passwordOf methods with
        | some secret => .ok (some (account, secret))
        | none => credential handle s rest

/-! ### Calls -/

/-- What a call does once the request may proceed. -/
def step : Call → State → Except Fault Reply × State
  | .getEmail address, s => (.ok (.ofRecord? (s.emails.get? address)), s)
  | .createEmail address owner code, s =>
    match s.emails.get? address with
    | some _ => (.ok .nothing, s)
    | none =>
      let (id, s) := s.draw
      let record : EmailRecord := ⟨id, address, owner, code, false⟩
      (.ok (.ofRecord? (some record)), {s with emails := s.emails.put address record})
  | .claimUnowned address account code, s =>
    match s.emails.get? address with
    | some record =>
      if record.owner.isNone then
        let record := {record with owner := some account, code := code, verified := false}
        (.ok (.ofRecord? (some record)), {s with emails := s.emails.put address record})
      else (.ok .nothing, s)
    | none => (.ok .nothing, s)
  | .reissueCode address account code, s =>
    match s.emails.get? address with
    | some record =>
      if record.owner = some account ∧ record.verified = false then
        let record := {record with code := code}
        (.ok (.ofRecord? (some record)), {s with emails := s.emails.put address record})
      else (.ok .nothing, s)
    | none => (.ok .nothing, s)
  | .markVerified address account, s =>
    match s.emails.get? address with
    | some record =>
      if record.owner = some account then
        (.ok (.count 1), {s with emails := s.emails.put address {record with verified := true}})
      else (.ok (.count 0), s)
    | none => (.ok (.count 0), s)
  | .deleteEmail email account, s =>
    match s.emails.rows.find? (fun r => decide (r.2.id = email ∧ r.2.owner = some account)) with
    | some (address, _) => (.ok (.count 1), {s with emails := s.emails.erase address})
    | none => (.ok (.count 0), s)
  | .accountByCode address code, s =>
    match s.emails.get? address with
    | some ⟨_, _, some owner, stored, _⟩ =>
      if stored = code then
        ((buildAccount owner false s).map fun a => .ofAccount? (some a), s)
      else (.ok .nothing, s)
    | _ => (.ok .nothing, s)
  | .accountByEmail address, s =>
    match s.emails.get? address with
    | some ⟨_, _, some owner, _, _⟩ =>
      ((buildAccount owner true s).map fun a => .ofAccount? (some a), s)
    | _ => (.ok .nothing, s)
  | .passwordCredential handle, s => ((credential handle s s.accounts.rows).map .ofCredential?, s)
  | .ping, s => (.ok .nothing, s)

/-- A call under a context: refused if the request is done, one step otherwise. -/
def perform {κ : Type} (context : Context κ) (now : Float) (c : Call) (s : State) :
    Except Fault Reply × State :=
  match context.check now with
  | .error interruption => (.error (.interrupted interruption.message), s)
  | .ok () => step c s

end EmailOwnership.Store.Memory
