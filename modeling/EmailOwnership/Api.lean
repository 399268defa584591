import EmailOwnership.Api.Endpoint
import EmailOwnership.Api.Response
import EmailOwnership.Authentication
import EmailOwnership.Context
import EmailOwnership.Form
import EmailOwnership.Http.Request
import EmailOwnership.Http.Credentials
import EmailOwnership.Settings
import EmailOwnership.Verification
import EmailOwnership.View

/-! The service as it answers requests.

`respond` is an operation like those it calls. A body that cannot be read is refused
first; then the caller must prove who it is, or hold the administrators' token; only then
is the rest of the request looked at. A failure of the registry becomes an answer that
shows its kind, and is logged. -/
namespace EmailOwnership.Api
open Http

/-! ### Stages of a request -/

/-- Reads the body as far as JSON. -/
def withPayload (request : Request) (next : Payload → Program Response) : Program Response :=
  match request.payload with
  | .ok payload => next payload
  | .error (.json .malformed) => pure (.unprocessable [⟨.jsonInvalid, ["body"]⟩])
  | .error _ => pure .unreadableBody

/-- The account whose credentials the request brings. -/
def authenticated (requestId : String) (request : Request) (next : Uuid → Program Response) :
    Program Response :=
  match Credentials.read? request with
  | none => pure .notAuthenticated
  | some credentials => do
    let handle := String.ofList (Text.strip credentials.handle.toList)
    match ← Authentication.authenticate requestId handle credentials.password with
    | none | some .null => pure .invalidCredentials
    | some (.uuid account) => next account
    | some _ => pure .crashed

/-- The answer that shows a reply of the store, if it has the form that is shown. -/
def shown {α : Type} (status : Nat) (json : α → Json) (view : Option α) : Response :=
  match view with
  | some view => .ofJson status (json view)
  | none => .crashed

/-- Whether the request holds the token of the administrators. An empty token opens nothing. -/
def isAdministrator (settings : Settings) (request : Request) : Bool :=
  !settings.adminToken.isEmpty &&
    (request.header? "x-admin-token").getD "" == settings.adminToken

def administered (settings : Settings) (request : Request) (next : Program Response) :
    Program Response :=
  if isAdministrator settings request then next else pure .forbidden

/-- What an issue shows of the body: the field, or all of it where a field is missing. -/
def shownInput (body : Json) (i : Issue) : Json :=
  match i.problem, i.location with
  | .missing, _ => body
  | _, [name] => (body.field? name).getD .null
  | _, _ => body

/-- The answer to a body with issues. It shows the input in strict JSON, if that can be. -/
def refuseBody (body : Json) (issues : List Issue) : Response :=
  if issues.all fun i => (shownInput body i).isStrict then
    .unprocessable (issues.map (Issue.within "body"))
  else .crashed

/-- Reads the form that the body must be. -/
def withForm {α : Type} (read : Json → Except (List Issue) α) (payload : Payload)
    (next : α → Program Response) : Program Response :=
  match payload with
  | .absent => pure (.unprocessable [⟨.missing, ["body"]⟩])
  | .other => pure (.unprocessable [⟨.modelAttributesType, ["body"]⟩])
  | .json body =>
    match Form.ofObject .modelAttributesType read body with
    | .error issues => pure (refuseBody body issues)
    | .ok form => next form

/-! ### Endpoints -/

/-- The shortest text that accounts are looked up by, in characters. -/
def minQueryLength : Nat := 3

def addEmail (settings : Settings) (requestId : String) (request : Request) : Program Response :=
  withPayload request fun payload =>
    authenticated requestId request fun account =>
      withForm EmailForm.read payload fun form => do
        let record ← Verification.addEmail requestId settings.codeLength account form.email
        pure (shown 201 EmailView.json (EmailView.ofReply? record))

def verifyEmail (requestId : String) (request : Request) : Program Response :=
  withPayload request fun payload =>
    withForm CodeForm.read payload fun form => do
      match ← Verification.verifyEmail requestId form.email form.code with
      | .success =>
        pure (.ofJson 200 (.object [("message", .string "Email verified"),
          ("email", .string (Address.normalize form.email))]))
      | .invalidCode => pure .invalidCode

def removeEmail (requestId id : String) (request : Request) : Program Response :=
  authenticated requestId request fun account =>
    match Uuid.parse? id with
    | none => pure (.unprocessable [⟨.uuidParsing, ["path", "email_id"]⟩])
    | some email => do
      Verification.removeEmail requestId account email
      pure .noContent

def provisionEmail (settings : Settings) (requestId : String) (request : Request) :
    Program Response :=
  withPayload request fun payload =>
    administered settings request <|
      withForm EmailForm.read payload fun form => do
        let record ← Verification.provisionEmail requestId settings.codeLength form.email
        pure (shown 201 EmailView.json (EmailView.ofReply? record))

def lookUpAccount (settings : Settings) (requestId : String) (request : Request) :
    Program Response :=
  administered settings request <|
    match request.query? "email" with
    | none => pure (.unprocessable [⟨.missing, ["query", "email"]⟩])
    | some email =>
      if email.length < minQueryLength then
        pure (.unprocessable [⟨.stringTooShort, ["query", "email"]⟩])
      else do
        match ← Verification.accountForEmail requestId email with
        | .nothing => pure .accountNotFound
        | account => pure (shown 200 AccountView.json (AccountView.ofReply? account))

/-- Healthy if the store answers. -/
def health (requestId : String) : Program Response := do
  match ← Program.call .ping with
  | .ok _ => pure (.ofJson 200 (.object [("status", .string "healthy")]))
  | .error fault =>
    if fault.isStorage then
      .fail (.registry ⟨.internal, fault.message, Table.ofList [("request_id", .text requestId)],
        some fault⟩)
    else .fail (.store fault)

/-- The pages that describe the service are not part of this library. -/
def manual : Response := ⟨200, .nothing, none, none⟩

def serve (settings : Settings) (requestId : String) (request : Request) :
    Endpoint → Program Response
  | .addEmail => addEmail settings requestId request
  | .verifyEmail => verifyEmail requestId request
  | .removeEmail id => removeEmail requestId id request
  | .provisionEmail => provisionEmail settings requestId request
  | .lookUpAccount => lookUpAccount settings requestId request
  | .health => health requestId
  | .manual => pure manual

/-! ### The whole -/

/-- Turns every failure into an answer. -/
def reported (method path : String) (program : Program Response) : Program Response := do
  match ← program.attempt with
  | .ok response => pure response
  | .error (.registry e) =>
    Program.log (errorEntry method path e)
    pure (.ofKind e.kind)
  | .error _ => pure .crashed

/-- Whatever the surroundings do, there is an answer. -/
theorem run_reported {σ : Type} (handle : Program.Handler σ) (method path : String)
    (program : Program Response) (s : σ) :
    ∃ response s', (reported method path program).run handle s = (.ok response, s') := by
  simp only [reported, Program.run_bind, Program.run_attempt]
  cases (program.run handle s).1 with
  | ok response => exact ⟨response, _, rfl⟩
  | error failure =>
    cases failure with
    | registry e => exact ⟨_, _, rfl⟩
    | _ => exact ⟨.crashed, _, rfl⟩

/-- The identifier of a request: its own, where the endpoint heeds it. -/
def requestIdOf (request : Request) : Endpoint → String
  | .health | .manual => Context.defaultId
  | _ => (request.header? "x-request-id").getD Context.defaultId

/-- The answer to a method and a path that no endpoint takes; one that only asks for the head
of an answer gets no content. -/
def misdirected (method : String) (m : Misdirection) : Response :=
  let response := match m with
    | .nothingThere => Response.notFound
    | .otherMethod => Response.methodNotAllowed
    | .elsewhere path => Response.redirect path
  if method = "HEAD" then {response with content := .nothing} else response

def respond (settings : Settings) (request : Request) : Program Response :=
  match route request.method request.path with
  | .error m => pure (misdirected request.method m)
  | .ok endpoint =>
    reported request.method request.path
      (serve settings (requestIdOf request endpoint) request endpoint)

theorem run_respond {σ : Type} (handle : Program.Handler σ) (settings : Settings)
    (request : Request) (s : σ) :
    ∃ response s', (respond settings request).run handle s = (.ok response, s') := by
  unfold respond
  split
  · exact ⟨_, _, rfl⟩
  · exact run_reported handle _ _ _ s

/-- The token that a request runs under. -/
def contextOf {κ : Type} (settings : Settings) (now : Float) (request : Request) : Context κ :=
  let requestId := match route request.method request.path with
    | .ok endpoint => requestIdOf request endpoint
    | .error _ => Context.defaultId
  .withTimeout now settings.requestTimeout requestId

end EmailOwnership.Api
