import EmailOwnership.Registry
import EmailOwnership.Text.LowerCase

/-! The verification flow around the registry: addresses are normalised, codes drawn, and
the stored code is handed to the sender. -/
namespace EmailOwnership

/-- The form in which addresses are stored and looked up: without blanks at either end, in
lower case. -/
def Address.normalize (email : String) : String :=
  String.ofList (Text.lower (Text.strip email.toList))

namespace Verification

/-- Claims the address and delivers its code; adding an unverified address again sends a
fresh one. The code is drawn before the registry is asked. -/
def addEmail (requestId : String) (codeLength : Nat) (account : Uuid) (email : String) :
    Program Store.Reply := do
  let address := Address.normalize email
  let drawn ← Program.drawCode codeLength
  let record ← Registry.add requestId account address drawn
  let code ← Registry.getCode requestId address
  Program.deliver address code.render
  pure record

/-- Checks the code, then marks the address verified for the account that it belongs to,
which must have an identifier. -/
def verifyEmail (requestId email code : String) : Program Verification := do
  let address := Address.normalize email
  match ← Registry.lookupCode requestId address code with
  | .nothing => pure .invalidCode
  | account =>
    match ← Program.fieldOf account .id with
    | .uuid id =>
      Registry.verify requestId id address
      pure .success
    | _ => .fail (.missingField account.kind Store.Reply.Field.id.name)

/-- Creates an unowned address, with a code that nobody receives. -/
def provisionEmail (requestId : String) (codeLength : Nat) (email : String) :
    Program Store.Reply := do
  let address := Address.normalize email
  let drawn ← Program.drawCode codeLength
  Registry.provision requestId address drawn

def removeEmail (requestId : String) (account email : Uuid) : Program Unit :=
  Registry.remove requestId account email

def accountForEmail (requestId email : String) : Program Store.Reply :=
  Registry.lookupAccount requestId (Address.normalize email)

end Verification
end EmailOwnership
