import EmailOwnership.Store.Row

/-! What stores answer.

A reply has the form that its call asks for only as far as the store keeps to it: a record
or an account as a row, a credential as a pair, anything else as a single cell. Whoever
needs a field of a reply asks whether it is there (`field?`). -/
namespace EmailOwnership.Store

inductive Reply
  /-- A count, or null where there is nothing. -/
  | value (v : Value)
  | record (row : EmailRow)
  | account (row : AccountRow)
  /-- An account and the hash of its password. -/
  | credential (account hash : Value)
  deriving DecidableEq, Inhabited

namespace Reply

/-- The reply of a look-up that finds nothing, and of a write that matches nothing. -/
@[match_pattern] abbrev nothing : Reply := value .null

def count (n : Int) : Reply := value (.int n)

def ofRecord? : Option EmailRecord → Reply
  | some r => record (.ofRecord r)
  | none => nothing

def ofAccount? : Option Account → Reply
  | some a => account (.ofAccount a)
  | none => nothing

def ofCredential? : Option (Uuid × String) → Reply
  | some c => credential (.uuid c.1) (.text c.2)
  | none => nothing

/-- Whether a write affected nothing. A reply that is no count does not say so. -/
def isZero : Reply → Bool
  | value (.int n) => n == 0
  | value (.bool b) => !b
  | value (.real bits) => !(Value.real bits).isTrue
  | _ => false

/-- The word for the kind of a reply in messages. -/
def kind : Reply → String
  | value v => v.kind
  | record _ => "EmailRecord"
  | account _ => "Account"
  | credential .. => "tuple"

/-! ### Fields -/

inductive Field
  | id
  | owner
  | code
  | verified
  deriving DecidableEq

def Field.name : Field → String
  | .id => "id"
  | .owner => "account_id"
  | .code => "verification_code"
  | .verified => "verified"

/-- The field of a reply, if it has one. -/
def field? : Reply → Field → Option Value
  | record row, .id => some row.id
  | record row, .owner => some row.owner
  | record row, .code => some row.code
  | record row, .verified => some row.verified
  | account row, .id => some row.id
  | _, _ => none

end Reply
end EmailOwnership.Store
