import EmailOwnership.Json
import EmailOwnership.Store.Reply

/-! What callers are shown of records and accounts. The code of a record is left out. -/
namespace EmailOwnership

structure EmailView where
  id : Uuid
  email : String
  accountId : Option Uuid
  verified : Bool
  deriving DecidableEq

structure AccountView where
  id : Uuid
  handle : String
  name : String
  emails : List EmailView
  authentication : List AuthenticationMethod
  roles : List Role
  tags : List String
  deriving DecidableEq

def EmailView.ofRecord (r : EmailRecord) : EmailView := ⟨r.id, r.address, r.owner, r.verified⟩

def AccountView.ofAccount (a : Account) : AccountView :=
  ⟨a.id, a.handle, a.name, a.emails.map EmailView.ofRecord, a.authentication, a.roles, a.tags⟩

/-- The view of a reply that is a record. -/
def EmailView.ofReply? : Store.Reply → Option EmailView
  | .record row => row.record?.map ofRecord
  | _ => none

/-- The view of a reply that is an account. -/
def AccountView.ofReply? : Store.Reply → Option AccountView
  | .account row => row.account?.map ofAccount
  | _ => none

/-! ### As JSON -/

def Uuid.json (u : Uuid) : Json := .string u.text

def EmailView.json (v : EmailView) : Json :=
  .object [("id", v.id.json), ("email", .string v.email),
    ("account_id", match v.accountId with
      | some u => u.json
      | none => .null),
    ("verified", .bool v.verified)]

def AuthenticationMethod.json (m : AuthenticationMethod) : Json :=
  .object [("id", m.id.json), ("service", .string m.service), ("identifier", .string m.identifier)]

def Role.json (r : Role) : Json := .object [("id", r.id.json), ("name", .string r.name)]

def AccountView.json (v : AccountView) : Json :=
  .object [("id", v.id.json), ("handle", .string v.handle), ("name", .string v.name),
    ("emails", .array (v.emails.map EmailView.json)),
    ("authentication", .array (v.authentication.map AuthenticationMethod.json)),
    ("roles", .array (v.roles.map Role.json)), ("tags", .array (v.tags.map Json.string))]

end EmailOwnership
