import EmailOwnership.Http.Target
import EmailOwnership.Text.Range

/-! Which endpoint a request is for.

A path that nothing is found at, but without its final slashes something would be, is
answered with the path to go to. -/
namespace EmailOwnership.Api
open Text Http

inductive Endpoint
  | addEmail
  | verifyEmail
  /-- With the identifier as it stands in the path. -/
  | removeEmail (id : String)
  | provisionEmail
  | lookUpAccount
  | health
  /-- A page that describes the service. -/
  | manual
  deriving DecidableEq

namespace Endpoint

def methods : Endpoint → List String
  | .addEmail | .verifyEmail | .provisionEmail => ["POST"]
  | .removeEmail _ => ["DELETE"]
  | .lookUpAccount | .health => ["GET"]
  | .manual => ["GET", "HEAD"]

/-- The endpoints at fixed paths. -/
def fixed : List (String × Endpoint) :=
  [("/openapi.json", .manual), ("/docs", .manual), ("/docs/oauth2-redirect", .manual),
    ("/redoc", .manual), ("/v1/emails", .addEmail), ("/v1/emails/verify", .verifyEmail),
    ("/v1/admin/emails", .provisionEmail), ("/v1/admin/accounts", .lookUpAccount),
    ("/health", .health)]

/-- The text without one line end at its end. -/
def withoutLineEnd (cs : List Char) : List Char :=
  if cs.getLast? = some '\n' then cs.dropLast else cs

/-- An identifier behind the path of the emails, if the path is no longer than that. -/
def identifier? (path : List Char) : Option String :=
  let parent := "/v1/emails/".toList
  let id := path.drop parent.length
  if parent.isPrefixOf path && !id.isEmpty && !id.contains '/' then some (String.ofList id) else none

end Endpoint

/-- Every endpoint at a path; a line end behind a fixed path does not count. -/
def endpointsAt (path : List Char) : List Endpoint :=
  let leadsTo (entry : String × Endpoint) : Bool :=
    entry.1.toList == path || entry.1.toList == Endpoint.withoutLineEnd path
  (Endpoint.fixed.filter leadsTo).map Prod.snd ++
    ((Endpoint.identifier? path).map .removeEmail).toList

/-- Why no endpoint takes a request. -/
inductive Misdirection
  | nothingThere
  | otherMethod
  /-- Something is at this path. -/
  | elsewhere (path : String)
  deriving DecidableEq

/-- What becomes of a path that nothing is found at. -/
def misdirection (path : List Char) : Misdirection :=
  let shorter := dropEndWhile isSlash path
  if (endpointsAt shorter).isEmpty then .nothingThere else .elsewhere (String.ofList shorter)

/-- The endpoint of a method and a path. -/
def route (method path : String) : Except Misdirection Endpoint :=
  match endpointsAt path.toList with
  | [] => .error (misdirection path.toList)
  | endpoints =>
    match endpoints.find? (fun e => e.methods.contains method) with
    | some endpoint => .ok endpoint
    | none => .error .otherMethod

end EmailOwnership.Api
