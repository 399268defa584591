import EmailOwnership.Password.Bcrypt
import EmailOwnership.Program

/-! Resolving an account from handle and password.

A password is checked even when the handle is unknown, against a hash that is there for
this: the check then takes as long and fails in the same cases, and nobody is found. -/
namespace EmailOwnership.Authentication

/-! ### Unknown handles -/

def dummyPassword : String := "dummy_password_for_timing_safety"

/-- As good as any other. -/
def dummySalt : String := "abcdefghijklmnopqrstuu"

/-- Stands in for the stored hash of an unknown handle. -/
def dummyHash : Except Failure String := Password.hash dummyPassword dummySalt Password.defaultCost

/-! ### Credentials -/

/-- The hash that a password is checked against. -/
def storedHash : Store.Reply → Except Failure String
  | .nothing => dummyHash
  | .credential _ (.text hash) => .ok hash
  | .credential _ hash => .error (.missingField hash.kind "encode")
  | other => .error (.noCredential other.kind)

/-- The account of a credential, if there is one and the password is right. -/
def checkCredential (credential : Store.Reply) (password : String) :
    Except Failure (Option Store.Value) := do
  let hash ← storedHash credential
  let accepted ← Password.check password hash
  match credential, accepted with
  | .credential account _, true => return some account
  | _, _ => return none

theorem checkCredential_text (account : Store.Value) (hash password : String) :
    checkCredential (.credential account (.text hash)) password =
      (Password.check password hash).map fun accepted => if accepted then some account else none := by
  simp only [checkCredential, storedHash]
  cases hcheck : Password.check password hash with
  | error failure => simp [hcheck, bind, Except.bind, Except.map]
  | ok accepted => cases accepted <;> simp [hcheck, bind, Except.bind, Except.map, pure, Except.pure]

/-- The account of the handle, if the password is right. -/
def authenticate (requestId handle password : String) : Program (Option Store.Value) := do
  match ← Program.call (.passwordCredential handle) with
  | .error fault =>
    if fault.isStorage then
      .fail (.registry ⟨.internal, fault.message,
        Table.ofList [("request_id", .text requestId), ("operation", .text "authenticate")],
        some fault⟩)
    else .fail (.store fault)
  | .ok credential =>
    match checkCredential credential password with
    | .error failure => .fail failure
    | .ok none =>
      Program.log (.authenticationFailed handle)
      pure none
    | .ok (some account) => pure (some account)

/-- Authentication looks the credential up, and then makes no further call. -/
theorem authenticate_ask (requestId handle password : String) :
    ∃ next, authenticate requestId handle password = .ask (.store (.passwordCredential handle)) next ∧
      (∀ fault, ∃ e, next (.error fault) = .fail e) ∧
      ∀ credential, next (.ok credential) =
        match checkCredential credential password with
        | .error failure => .fail failure
        | .ok none => do
          Program.log (.authenticationFailed handle)
          pure none
        | .ok (some account) => pure (some account) := by
  refine ⟨_, rfl, fun fault => ?_, fun credential => rfl⟩
  show ∃ e, (if fault.isStorage then _ else _) = Program.fail e
  split
  · exact ⟨_, rfl⟩
  · exact ⟨_, rfl⟩

end EmailOwnership.Authentication
