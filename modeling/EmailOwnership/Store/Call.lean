import EmailOwnership.Store.Reply

/-! What a store of email records is asked.

Conditional writes report a lost race in their reply, as nothing or a count of zero.
Everything else that goes wrong is a `Fault`. -/
namespace EmailOwnership.Store

inductive Call
  /-- The record of an address. -/
  | getEmail (address : String)
  /-- A new unverified record, unless the address is known. -/
  | createEmail (address : String) (owner : Option Uuid) (code : String)
  /-- Gives an unowned record an owner and a code, and resets `verified`. -/
  | claimUnowned (address : String) (account : Uuid) (code : String)
  /-- Replaces the code of the account's own unverified record. -/
  | reissueCode (address : String) (account : Uuid) (code : String)
  /-- Marks the account's own record, and counts the rows. -/
  | markVerified (address : String) (account : Uuid)
  /-- Deletes by id and owner, and counts the rows. -/
  | deleteEmail (email account : Uuid)
  /-- The owner of a record with this address and code, with emails and authentication. -/
  | accountByCode (address code : String)
  /-- The owner of a record with this address, with every edge. -/
  | accountByEmail (address : String)
  /-- The account of a handle and its password hash. -/
  | passwordCredential (handle : String)
  | ping
  deriving DecidableEq

/-- The operation of a call, without its arguments. -/
inductive Method
  | getEmail
  | createEmail
  | claimUnowned
  | reissueCode
  | markVerified
  | deleteEmail
  | accountByCode
  | accountByEmail
  | passwordCredential
  | ping
  deriving DecidableEq

def Call.method : Call → Method
  | .getEmail .. => .getEmail
  | .createEmail .. => .createEmail
  | .claimUnowned .. => .claimUnowned
  | .reissueCode .. => .reissueCode
  | .markVerified .. => .markVerified
  | .deleteEmail .. => .deleteEmail
  | .accountByCode .. => .accountByCode
  | .accountByEmail .. => .accountByEmail
  | .passwordCredential .. => .passwordCredential
  | .ping => .ping

/-- The calls that may change a record. -/
def Call.isWrite : Call → Bool
  | .createEmail .. | .claimUnowned .. | .reissueCode .. | .markVerified .. | .deleteEmail .. => true
  | _ => false

/-- What a store may fail with. -/
inductive Fault
  /-- The storage itself failed. -/
  | unavailable (message : String)
  /-- The request was cancelled or ran out of time. -/
  | interrupted (message : String)
  /-- A record names an owner that has no account. -/
  | missingAccount (account : Uuid)
  /-- The time that is left has no number of milliseconds. -/
  | boundlessTimeout
  /-- A row does not have the columns that were selected. -/
  | malformedRow
  /-- Anything that nobody foresaw, with the name it goes by. -/
  | unforeseen (name message : String)
  deriving DecidableEq

/-- The faults that callers are prepared for; they classify these and let the others pass. -/
def Fault.isStorage : Fault → Bool
  | .unavailable _ | .interrupted _ => true
  | _ => false

def Fault.message : Fault → String
  | .unavailable message | .interrupted message | .unforeseen _ message => message
  | .missingAccount account => "no account " ++ account.text
  | .boundlessTimeout => "cannot convert float infinity to integer"
  | .malformedRow => "tuple index out of range"

end EmailOwnership.Store
