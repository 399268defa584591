import EmailOwnership.Numeral
import EmailOwnership.Table
import EmailOwnership.Store.Call
import EmailOwnership.Text.Category

/-! Failures of an operation.

A registry operation fails with one type, `RegistryError`: a kind out of four, a
message, details under distinct names, and the storage fault behind it if there was
one. Its text lists the details by name, so it does not depend on the order in which
they were collected; there is none if a number among them has too many digits.
`Failure` adds what is not the registry's to classify. -/
namespace EmailOwnership

inductive ErrorKind
  | alreadyClaimed
  | alreadyVerified
  | notFound
  | internal
  deriving DecidableEq

namespace ErrorKind

def name : ErrorKind → String
  | .alreadyClaimed => "already_claimed"
  | .alreadyVerified => "already_verified"
  | .notFound => "not_found"
  | .internal => "internal"

def all : List ErrorKind := [.alreadyClaimed, .alreadyVerified, .notFound, .internal]

def ofName? (s : String) : Option ErrorKind := all.find? (fun k => k.name == s)

/-- The answer to a name that no kind has. -/
def unknownMessage (name : String) : String := Text.quoted name ++ " is not a valid ErrorKind"

theorem ofName?_name (k : ErrorKind) : ofName? k.name = some k := by
  cases k <;> decide +kernel

end ErrorKind

/-! ### Details -/

inductive Detail
  | text (s : String)
  | number (n : Int)
  | flag (b : Bool)
  | id (u : Uuid)
  | absent
  deriving DecidableEq

def Detail.render? : Detail → Option String
  | .text s => some s
  | .number n => integerText? n
  | .flag true => some "True"
  | .flag false => some "False"
  | .id u => some u.text
  | .absent => some "None"

/-- Every detail but a number of too many digits has a text. -/
def Detail.Writable : Detail → Prop
  | .number n => n.natAbs < Nat.pow 10 maxIntegerDigits
  | _ => True

theorem Detail.render?_eq_none_iff {v : Detail} : v.render? = none ↔ ¬ v.Writable := by
  cases v with
  | number n => exact integerText?_eq_none_iff
  | flag b => cases b <;> simp [render?, Writable]
  | _ => simp [render?, Writable]

abbrev Details := Table String Detail

/-- The details by name, in the order of code points. -/
def Details.sorted (d : Details) : List (String × Detail) :=
  d.rows.mergeSort (fun a b => decide (a.1 ≤ b.1))

/-- Details in the order in which they are given. -/
def Details.listing? (items : List (String × Detail)) : Option String :=
  (items.mapM fun item : String × Detail => item.2.render?.map (item.1 ++ "=" ++ ·)).map
    (" ".intercalate ·)

/-! ### Errors of the registry -/

structure RegistryError where
  kind : ErrorKind
  message : String
  details : Details
  cause : Option Store.Fault
  deriving DecidableEq

def RegistryError.text? (e : RegistryError) : Option String :=
  let head := e.kind.name ++ ": " ++ e.message
  if e.details.rows.isEmpty then some head
  else (Details.listing? e.details.sorted).map fun items => head ++ " (" ++ items ++ ")"

/-! ### Everything an operation may end with -/

inductive Failure
  | registry (error : RegistryError)
  /-- A fault that passed unclassified. -/
  | store (fault : Store.Fault)
  | emptyCode
  | passwordTooLong
  | invalidSalt
  | invalidRounds
  /-- The rounds are no number of sixteen bits. -/
  | roundsOutOfRange
  /-- The rounds are no number of sixty-four bits either. -/
  | roundsTooLarge
  /-- A reply of the store lacks a field that was needed. -/
  | missingField (kind field : String)
  /-- A reply of the store is no pair of account and secret. -/
  | noCredential (kind : String)
  /-- The sender could not deliver. -/
  | delivery (message : String)

def Failure.text? : Failure → Option String
  | .registry error => error.text?
  | .store fault => some fault.message
  | .emptyCode => some "verification code must not be empty"
  | .passwordTooLong =>
    some ("password cannot be longer than 72 bytes, truncate manually if necessary " ++
      "(e.g. my_password[:72])")
  | .invalidSalt => some "Invalid salt"
  | .invalidRounds => some "Invalid rounds"
  | .roundsOutOfRange => some "out of range integral type conversion attempted"
  | .roundsTooLarge => some "Python int too large to convert to C long"
  | .missingField kind field => some ("'" ++ kind ++ "' object has no attribute '" ++ field ++ "'")
  | .noCredential kind => some ("'" ++ kind ++ "' object is not subscriptable")
  | .delivery message => some message

end EmailOwnership
