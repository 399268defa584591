import EmailOwnership.Failure
import EmailOwnership.Json
import EmailOwnership.Log
import EmailOwnership.Validation

/-! The answers of the service.

Callers are told what kind of failure occurred, never its details; those go to the log. -/
namespace EmailOwnership.Api

inductive Content
  | nothing
  | text (s : String)
  | json (j : Json)
  /-- What is wrong with the request. -/
  | issues (l : List Issue)

structure Response where
  status : Nat
  content : Content
  /-- The scheme of credentials that is asked for. -/
  challenge : Option String
  /-- The path, decoded, that the caller is to go to. The rest of the target stays as it was. -/
  location : Option String

namespace Response

def ofJson (status : Nat) (j : Json) : Response := ⟨status, .json j, none, none⟩

/-- An answer that consists of a sentence. -/
def detail (status : Nat) (sentence : String) : Response :=
  ofJson status (.object [("detail", .string sentence)])

def noContent : Response := ⟨204, .nothing, none, none⟩

def unprocessable (issues : List Issue) : Response := ⟨422, .issues issues, none, none⟩

def redirect (path : String) : Response := ⟨307, .nothing, none, some path⟩

/-- The answer to what nobody foresaw. -/
def crashed : Response := ⟨500, .text "Internal Server Error", none, none⟩

/-! ### Refusals -/

def unauthorized (sentence : String) : Response := {detail 401 sentence with challenge := some "Basic"}

def notAuthenticated : Response := unauthorized "Not authenticated"

def invalidCredentials : Response := unauthorized "Invalid credentials"

def forbidden : Response := detail 403 "Forbidden"

def notFound : Response := detail 404 "Not Found"

def methodNotAllowed : Response := detail 405 "Method Not Allowed"

def invalidCode : Response := detail 400 "Invalid verification code"

def unreadableBody : Response := detail 400 "There was an error parsing the body"

def accountNotFound : Response := detail 404 "Account not found"

end Response

/-! ### Errors of the registry -/

def statusOf : ErrorKind → Nat
  | .alreadyClaimed => 409
  | .alreadyVerified => 409
  | .notFound => 404
  | .internal => 500

def sentenceOf : ErrorKind → String
  | .alreadyClaimed => "Email address already claimed"
  | .alreadyVerified => "Email address already verified"
  | .notFound => "Email address not found"
  | .internal => "Internal server error"

/-- Only the kind of an error shows. -/
def Response.ofKind (kind : ErrorKind) : Response :=
  ofJson (statusOf kind)
    (.object [("detail", .string (sentenceOf kind)), ("code", .string kind.name)])

/-- How the log shows a character of a path: nothing of tabs and line ends, and the marks
that divide a target encoded. -/
def shownChar : Char → List Char
  | '\t' | '\n' | '\r' => []
  | '?' => ['%', '3', 'F']
  | '#' => ['%', '2', '3']
  | '\\' => ['%', '5', 'C']
  | c => [c]

/-- The path as the log shows it. -/
def shownPath (path : String) : String := String.ofList (path.toList.flatMap shownChar)

def errorEntry (method path : String) (e : RegistryError) : Log.Entry :=
  if e.kind = .internal then .requestFailed method (shownPath path) e
  else .requestRejected method (shownPath path) e

end EmailOwnership.Api
