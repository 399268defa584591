import EmailOwnership.Api
import EmailOwnership.Rehearsal.Interposition

/-! Requests to the service over a rehearsed world.

The service answers each request by itself (`exchange`). To go where an answer sends it is up
to the caller (`converse`). -/
namespace EmailOwnership.Rehearsal

/-! ### One request -/

/-- The answer to a request, and the world after it. -/
def exchange (settings : Settings) (plan : Interposition) (request : Http.Request) (w : World) :
    Api.Response × World :=
  let session := Session.start w (Api.contextOf settings w.clock request)
  let (outcome, session) := (Api.respond settings request).run (sessionHandler plan .console) session
  match outcome with
  | .ok response => (response, session.world)
  | .error _ => (.crashed, session.world)

/-- The answer is the one that the service's program ends with, as it always does. -/
theorem exchange_run (settings : Settings) (plan : Interposition) (request : Http.Request) (w : World) :
    ∃ response session,
      (Api.respond settings request).run (sessionHandler plan .console)
          (.start w (Api.contextOf settings w.clock request)) = (.ok response, session) ∧
        exchange settings plan request w = (response, session.world) := by
  obtain ⟨response, session, hrun⟩ := Api.run_respond (sessionHandler plan .console) settings request
    (.start w (Api.contextOf settings w.clock request))
  exact ⟨response, session, hrun, by simp only [exchange, hrun]⟩

/-- A request that no endpoint takes does nothing, be it sent elsewhere or not. -/
theorem exchange_misdirected {settings : Settings} {request : Http.Request} {m : Api.Misdirection}
    (h : Api.route request.method request.path = .error m) (plan : Interposition) (w : World) :
    exchange settings plan request w = (Api.misdirected request.method m, w) := by
  simp only [exchange, Api.respond, h]
  rfl

/-! ### Callers that follow -/

/-- The same request at the place that an answer names. A percent sign in that begins an encoding,
as it does in any path that is written. -/
def follow (request : Http.Request) (location : String) : Http.Request :=
  {request with path := String.ofList (Http.readPath location.toList)}

/-- The last answer to a caller who goes elsewhere so often at most. -/
def converse (settings : Settings) (plan : Interposition) :
    (redirections : Nat) → Http.Request → World → Api.Response × World
  | 0, request, w => exchange settings plan request w
  | n + 1, request, w =>
    let (response, w) := exchange settings plan request w
    match response.location with
    | some location => converse settings plan n (follow request location) w
    | none => (response, w)

end EmailOwnership.Rehearsal
