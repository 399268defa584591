import EmailOwnership.Json
import EmailOwnership.Mailbox
import EmailOwnership.Validation

/-! What callers submit.

A form is read from the fields of an object. Every field is read, and the issues of all
are reported; fields that the form does not have are passed over. -/
namespace EmailOwnership

/-- A request that is about one address. -/
structure EmailForm where
  email : String
  deriving DecidableEq

/-- An address with the code that its owner received. -/
structure CodeForm where
  email : String
  code : String
  deriving DecidableEq

namespace Form

/-- The longest code that is looked at, in characters. -/
def maxCodeLength : Nat := 64

def addressOf (text : String) : Except Problem String :=
  match Mailbox.read? text with
  | some address => .ok address
  | none => .error .valueError

/-- No address has half of a surrogate pair in it, but a name before an address may, as it may
have a code point that is no character. -/
def email : Json → Except Problem String
  | .string s => addressOf s
  | .unpaired s => addressOf s.filled
  | _ => .error .stringType

def code : Json → Except Problem String
  | .string s =>
    if s.isEmpty then .error .stringTooShort
    else if maxCodeLength < s.length then .error .stringTooLong
    else .ok s
  | .unpaired _ => .error .stringUnicode
  | _ => .error .stringType

/-- A field that must be there. -/
def required {α : Type} (name : String) (reader : Json → Except Problem α) (form : Json) :
    Except (List Issue) α :=
  match form.field? name with
  | none => .error [⟨.missing, [name]⟩]
  | some j => (reader j).mapError fun p => [⟨p, [name]⟩]

/-- Reads an object; anything else has the problem `unfit`. -/
def ofObject {α : Type} (unfit : Problem) (read : Json → Except (List Issue) α) :
    Json → Except (List Issue) α
  | .object fields => read (.object fields)
  | _ => .error [⟨unfit, []⟩]

end Form

def EmailForm.read (form : Json) : Except (List Issue) EmailForm :=
  (Form.required "email" Form.email form).map EmailForm.mk

def CodeForm.read (form : Json) : Except (List Issue) CodeForm :=
  match Form.required "email" Form.email form, Form.required "code" Form.code form with
  | .ok email, .ok code => .ok ⟨email, code⟩
  | email, code => .error (issuesOf email ++ issuesOf code)

end EmailOwnership
