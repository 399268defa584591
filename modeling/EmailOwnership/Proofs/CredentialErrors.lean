import EmailOwnership.Proofs.Acceptance
import EmailOwnership.Proofs.Api.Callers

/-! Which credentials are answered.

Authentication finds an account, finds nobody, or fails with an error of the registry, unless what it
checks makes the check itself fail: a password that is too long, for whatever handle, a stored hash
that cannot be read, or an answer of the store that is none (`Authentication.Escapes`). Nothing
catches that, so the service crashes over such credentials, where it should refuse them
(`authentication_closed_iff`). -/
namespace EmailOwnership.Api
open Http
open Authentication (Escapes authenticate outcome outcome_of_escapes answered_or_escapes
  not_registry_of_escapes)
open Rehearsal
open Store (Fault Reply Value)
open Store.Memory (State Reached step)
variable {settings : Settings} {request : Http.Request} {endpoint : Endpoint}
  {credentials : Credentials}

/-! ### Over the memory store -/

/-- Over a store that seeding comes to, all that escapes is the password's length or the hash. -/
theorem escapes_memory_iff {s : State} (h : Reached s) (handle password : String) (failure : Failure) :
    Escapes password (step (.passwordCredential handle) s).1 failure ↔
      Password.maxPasswordBytes < password.utf8ByteSize ∧ failure = .passwordTooLong ∨
      ¬ Password.maxPasswordBytes < password.utf8ByteSize ∧ failure = .invalidSalt ∧
        ∃ account hash, s.login? handle = some (account, hash) ∧ ¬ Password.Readable hash := by
  rw [Store.Memory.step_credential h.linked]
  cases s.login? handle with
  | none =>
    constructor
    · intro hescapes
      cases hescapes with
      | unknown hlong => exact .inl ⟨hlong, rfl⟩
      | misshapen hsome _ => exact absurd rfl hsome
    · rintro (⟨hlong, rfl⟩ | ⟨-, -, _, _, hlogin, -⟩)
      · exact .unknown hlong
      · cases hlogin
  | some login =>
    obtain ⟨account, hash⟩ := login
    constructor
    · intro hescapes
      cases hescapes with
      | tooLong hlong => exact .inl ⟨hlong, rfl⟩
      | unreadable hshort hhash => exact .inr ⟨hshort, rfl, account, hash, rfl, hhash⟩
      | untyped htext => exact absurd rfl (htext hash)
      | misshapen _ hcredential => exact absurd rfl (hcredential _ _)
    · rintro (⟨hlong, rfl⟩ | ⟨hshort, rfl, _, _, hlogin, hhash⟩)
      · exact .tooLong hlong
      · cases hlogin
        exact .unreadable hshort hhash

/-! ### Over the service -/

/-- What the store says of the handle of these credentials, when a request looks it up. -/
def lookedUp (settings : Settings) (plan : Interposition) (request : Http.Request) (w : World)
    (credentials : Credentials) : Except Fault Reply :=
  ((Session.start w (contextOf settings w.clock request)).perform plan
    (.passwordCredential (handleOf credentials))).1

/-- Under a live context with which nothing interferes, that is what the memory store says. -/
theorem lookedUp_memory {w : World}
    (hlive : (contextOf settings w.clock request : Context String).isDone w.clock = false)
    (credentials : Credentials) :
    lookedUp settings .none request w credentials =
      (step (.passwordCredential (handleOf credentials)) w.memory).1 :=
  congrArg Prod.fst (Registry.perform_step hlive (.passwordCredential (handleOf credentials)))

section
variable (settings) (plan : Interposition) (w : World)
  (hroute : route request.method request.path = .ok endpoint)
  (hasks : endpoint.asksCaller = true)
  (hpayload : endpoint = .addEmail → ∃ payload, request.payload = .ok payload)
include hroute hasks hpayload

/-- A caller who is not found is answered as authentication ends. -/
theorem exchange_refused (hread : Credentials.read? request = some credentials)
    (o : Except Failure (Option Value))
    (ho : outcome (requestIdOf request endpoint) credentials.password
      (lookedUp settings plan request w credentials) = o) (hrefused : ∀ value, o ≠ .ok (some value)) :
    (exchange settings plan request w).1 = refusal o := by
  subst ho
  obtain ⟨response, session, hrun, hanswered⟩ := exchange_run settings plan request w
  have hresponse := run_respond_refused settings (sessionHandler plan .console)
    (.start w (contextOf settings w.clock request)) hroute hasks hpayload hread hrefused
  rw [hrun] at hresponse
  rw [hanswered]
  exact Except.ok.inj hresponse

/-- A caller without credentials is asked for them. -/
theorem exchange_unauthenticated (hread : Credentials.read? request = none) :
    (exchange settings plan request w).1 = .notAuthenticated := by
  obtain ⟨response, session, hrun, hanswered⟩ := exchange_run settings plan request w
  have hresponse := run_respond_unauthenticated settings (sessionHandler plan .console)
    (.start w (contextOf settings w.clock request)) hroute hasks hpayload hread
  rw [hrun] at hresponse
  rw [hanswered]
  exact Except.ok.inj hresponse

end

/-! ### The whole -/

/-- **Credentials are answered unless the check itself fails.** In whatever surroundings,
authentication finds an account or nobody, or fails with an error of the registry, exactly if nothing
escapes. Over a store that seeding comes to, what escapes is the length of the password, whatever the
handle, or a stored hash that cannot be read. The service answers 401 without credentials and where
nobody is found, and crashes over what escapes. -/
theorem authentication_closed_iff {σ : Type} (handler : Program.Handler σ) (state : σ)
    (requestId handle password : String) :
    (let found := (handler (.store (.passwordCredential handle)) state).1
      let ended := ((authenticate requestId handle password).run handler state).1
      (((∃ account?, ended = .ok account?) ∨ ∃ e, ended = .error (.registry e)) ↔
        ∀ failure, ¬ Escapes password found failure) ∧
      ∀ failure, Escapes password found failure → ended = .error failure) ∧
    (∀ (s : State) (failure : Failure), Reached s →
      (Escapes password (step (.passwordCredential handle) s).1 failure ↔
        Password.maxPasswordBytes < password.utf8ByteSize ∧ failure = .passwordTooLong ∨
        ¬ Password.maxPasswordBytes < password.utf8ByteSize ∧ failure = .invalidSalt ∧
          ∃ account hash, s.login? handle = some (account, hash) ∧ ¬ Password.Readable hash)) ∧
    ∀ (settings : Settings) (plan : Interposition) (request : Http.Request) (w : World)
      (endpoint : Endpoint), route request.method request.path = .ok endpoint →
      endpoint.asksCaller = true →
      (endpoint = .addEmail → ∃ payload, request.payload = .ok payload) →
      let answer := (exchange settings plan request w).1
      (Credentials.read? request = none → answer = .notAuthenticated) ∧
      ∀ credentials, Credentials.read? request = some credentials →
        let found := lookedUp settings plan request w credentials
        let ended := outcome (requestIdOf request endpoint) credentials.password found
        (ended = .ok none → answer = .invalidCredentials) ∧
        (∀ e, ended = .error (.registry e) → answer = .ofKind e.kind) ∧
        ∀ failure, Escapes credentials.password found failure → answer = .crashed := by
  refine ⟨?ends, fun s failure hreached => escapes_memory_iff hreached handle password failure,
    fun settings plan request w endpoint hroute hasks hpayload =>
      ⟨exchange_unauthenticated settings plan w hroute hasks hpayload,
        fun credentials hread => ?served⟩⟩
  case ends =>
    intro found ended
    have hended : ended = outcome requestId password found :=
      Authentication.run_authenticate_outcome ..
    rw [hended]
    refine ⟨⟨fun hclosed failure hescapes => ?_, fun hnone => ?_⟩, fun failure => outcome_of_escapes⟩
    · rw [outcome_of_escapes hescapes] at hclosed
      rcases hclosed with ⟨_, hfound⟩ | ⟨e, hregistry⟩
      · cases hfound
      · exact not_registry_of_escapes hescapes e (Except.error.inj hregistry)
    · exact (answered_or_escapes requestId password found).resolve_right fun ⟨failure, hescapes⟩ =>
        hnone failure hescapes
  case served =>
    intro found ended
    have hanswer := exchange_refused settings plan w hroute hasks hpayload hread
    refine ⟨fun h => hanswer _ h nofun, fun e h => hanswer _ h nofun, fun failure hescapes => ?_⟩
    have hrefusal := hanswer _ (outcome_of_escapes hescapes) nofun
    cases failure with
    | registry e => exact absurd rfl (not_registry_of_escapes hescapes e)
    | _ => exact hrefusal

/-! ### A password that is too long -/

/-- A removal in the name of the handle "alice", with 73 bytes of password. -/
def longRemoves : Http.Request :=
  ⟨"DELETE", "/v1/emails/00000000-0000-0000-0000-000000000003", [], [("authorization",
    "Basic YWxpY2U6YWFhYWFhYWFhYWFhYWFhYWFhYWFhYWFhYWFhYWFhYWFhYWFhYWFh" ++
      "YWFhYWFhYWFhYWFhYWFhYWFhYWFhYWFhYWFhYWFhYWFhYQ==")], ""⟩

/-- The service crashes over a password of 73 bytes, though nobody has the handle. -/
theorem authentication_closed_iff_long :
    (∃ credentials, Credentials.read? longRemoves = some credentials ∧
      credentials.password.utf8ByteSize = 73) ∧
    (exchange Settings.default .none longRemoves ⟨.empty, 0, .standard, []⟩).1 = .crashed := by
  have hroute : route longRemoves.method longRemoves.path =
      .ok (.removeEmail "00000000-0000-0000-0000-000000000003") := by decide +kernel
  obtain ⟨credentials, hread, hlength⟩ : ∃ credentials, Credentials.read? longRemoves =
      some credentials ∧ credentials.password.utf8ByteSize = 73 :=
    ⟨⟨"alice", String.ofList (List.replicate 73 'a')⟩, by decide +kernel⟩
  obtain ⟨w, hw, hempty, hlive⟩ : ∃ w : World, w = ⟨.empty, 0, .standard, []⟩ ∧ w.memory = .empty ∧
      (contextOf Settings.default w.clock longRemoves : Context String).isDone w.clock = false :=
    ⟨_, rfl, rfl, by decide +kernel⟩
  rw [← hw]
  refine ⟨⟨credentials, hread, hlength⟩, ?_⟩
  generalize longRemoves = request at hroute hread hlive ⊢
  generalize Settings.default = settings at hlive ⊢
  obtain ⟨-, hmemory, hserved⟩ := authentication_closed_iff
    (plainHandler .console (contextOf settings w.clock request)) w "r" (handleOf credentials)
    credentials.password
  obtain ⟨-, hanswers⟩ := hserved settings .none request w _ hroute rfl nofun
  obtain ⟨-, -, hcrashes⟩ := hanswers credentials hread
  refine hcrashes .passwordTooLong ?_
  rw [lookedUp_memory hlive, hempty, hmemory _ _ .empty]
  exact .inl ⟨by rw [hlength]; decide, rfl⟩

end EmailOwnership.Api
