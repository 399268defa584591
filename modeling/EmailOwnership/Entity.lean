import EmailOwnership.Uuid

/-! What the registry keeps: email records, and accounts with what hangs on them. -/
namespace EmailOwnership

/-- An address known to the registry. Without an owner it was provisioned and nobody
has claimed it yet; the code matters only while `verified` is false. -/
structure EmailRecord where
  id : Uuid
  address : String
  owner : Option Uuid
  code : String
  verified : Bool
  deriving DecidableEq, Inhabited

/-- A way in which an account can prove who it is, without its secret. -/
structure AuthenticationMethod where
  id : Uuid
  service : String
  identifier : String
  deriving DecidableEq, Inhabited

structure Role where
  id : Uuid
  name : String
  deriving DecidableEq, Inhabited

/-- An account together with the edges that a look-up loaded. -/
structure Account where
  id : Uuid
  handle : String
  name : String
  emails : List EmailRecord
  authentication : List AuthenticationMethod
  roles : List Role
  tags : List String
  deriving DecidableEq, Inhabited

/-- The answer to a verification attempt; a wrong code is an ordinary outcome. -/
inductive Verification
  | success
  | invalidCode
  deriving DecidableEq, Inhabited

def Verification.name : Verification → String
  | .success => "success"
  | .invalidCode => "invalid_code"

end EmailOwnership
