import EmailOwnership.Proofs.Api.Alone
import EmailOwnership.Proofs.Authentication
import EmailOwnership.Proofs.Program.Abreast

/-! Endpoints that ask who is calling.

Such an endpoint looks for the caller before it does anything else, if it can read the body at all
(`serve_of_asksCaller`). A caller whom no account is found for is answered as authentication ends
(`run_respond_refused`). And where authentication finds nobody over either of two stores, or
somebody over both, the answers go abreast as far as what follows does (`abreast_authenticated`). -/
namespace EmailOwnership.Api
open Http
open Authentication (Accepts authenticate outcome authenticate_eq)
open Program (Abreast Agree abreast_attempt abreast_bind abreast_log)
open Rehearsal
open Store (Value)
open Store.Memory (State Linked step)
variable {settings : Settings} {requestId : String} {request : Http.Request} {endpoint : Endpoint}
  {credentials : Credentials}

/-- The endpoints that only a known caller gets to. -/
def Endpoint.asksCaller : Endpoint → Bool
  | .addEmail | .removeEmail _ => true
  | _ => false

/-- The handle that credentials are for. -/
def handleOf (credentials : Credentials) : String :=
  String.ofList (Text.strip credentials.handle.toList)

/-- The caller is looked for first, unless the body cannot be read. -/
theorem serve_of_asksCaller (h : endpoint.asksCaller = true) :
    (∃ next, serve settings requestId request endpoint = authenticated requestId request next) ∨
      endpoint = .addEmail ∧ (∀ payload, request.payload ≠ .ok payload) ∧
        ∃ response, serve settings requestId request endpoint = pure response := by
  cases endpoint with
  | addEmail =>
    show (∃ next, withPayload request _ = _) ∨ _ ∧ _ ∧ ∃ response, withPayload request _ = _
    unfold withPayload
    split
    · exact .inl ⟨_, rfl⟩
    · rename_i hpayload
      exact .inr ⟨rfl, (by simp [hpayload]), _, rfl⟩
    · rename_i hpayload
      exact .inr ⟨rfl, (by simp [hpayload]), _, rfl⟩
  | removeEmail id => exact .inl ⟨_, rfl⟩
  | _ => cases h

/-- A request identifies the account that its credentials are accepted for. -/
theorem identifies_iff {s : State} (h : Linked s) {account : Uuid} :
    Identifies s request account ↔ ∃ credentials, Credentials.read? request = some credentials ∧
      Accepts s (handleOf credentials) credentials.password account := by
  simp only [Identifies, Accepts, handleOf, Store.Memory.credential_of_linked h]
  constructor
  · rintro ⟨credentials, hash, hread, hlogin, hcheck⟩
    exact ⟨credentials, hread, hash, Except.ok.inj hlogin, hcheck⟩
  · rintro ⟨credentials, hread, hash, hlogin, hcheck⟩
    exact ⟨credentials, hash, hread, congrArg Except.ok hlogin, hcheck⟩

/-! ### Callers who are not found -/

/-- The answer to a caller whom no account is found for. -/
def refusal : Except Failure (Option Value) → Response
  | .ok _ => .invalidCredentials
  | .error (.registry e) => .ofKind e.kind
  | .error _ => .crashed

section
variable {σ : Type} (handler : Program.Handler σ) (s : σ)

theorem run_reported_done (method path : String) (program : Program Response) :
    ((reported method path program).run handler s).1 =
      .ok (match (program.run handler s).1 with
        | .ok response => response
        | .error (.registry e) => .ofKind e.kind
        | .error _ => .crashed) := by
  unfold reported
  rw [Program.run_bind, Program.run_attempt]
  cases (program.run handler s).1 with
  | ok response => rfl
  | error failure => cases failure <;> rfl

theorem run_authenticated_refused (hread : Credentials.read? request = some credentials)
    (next : Uuid → Program Response) :
    let o := outcome requestId credentials.password
      (handler (.store (.passwordCredential (handleOf credentials))) s).1
    (∀ value, o ≠ .ok (some value)) →
      ((authenticated requestId request next).run handler s).1 =
        o.map fun _ => .invalidCredentials := by
  intro o hrefused
  have ho : outcome requestId credentials.password (handler (.store (.passwordCredential
      (String.ofList (Text.strip credentials.handle.toList)))) s).1 = o := rfl
  clear_value o
  unfold authenticated
  simp only [hread]
  rw [Program.run_bind, Authentication.run_authenticate, ho]
  cases o with
  | error failure => rfl
  | ok found =>
    cases found with
    | none => rfl
    | some value => exact absurd rfl (hrefused value)

section
variable (settings) (hroute : route request.method request.path = .ok endpoint)
  (hasks : endpoint.asksCaller = true)
  (hpayload : endpoint = .addEmail → ∃ payload, request.payload = .ok payload)
include hroute hasks hpayload

/-- What comes of looking for the caller is what the service answers. -/
theorem exists_authenticated : ∃ next, respond settings request =
    reported request.method request.path
      (authenticated (requestIdOf request endpoint) request next) := by
  unfold respond
  simp only [hroute]
  rcases serve_of_asksCaller hasks with ⟨next, hserve⟩ | ⟨hadd, hunread, -⟩
  · exact ⟨next, congrArg _ hserve⟩
  · obtain ⟨payload, hp⟩ := hpayload hadd
    exact absurd hp (hunread payload)

/-- **In whatever surroundings, a caller who is not found is answered as authentication ends.** -/
theorem run_respond_refused (hread : Credentials.read? request = some credentials) :
    let o := outcome (requestIdOf request endpoint) credentials.password
      (handler (.store (.passwordCredential (handleOf credentials))) s).1
    (∀ value, o ≠ .ok (some value)) →
      ((respond settings request).run handler s).1 = .ok (refusal o) := by
  intro o hrefused
  obtain ⟨next, hrespond⟩ := exists_authenticated settings hroute hasks hpayload
  have hcaller : ((authenticated (requestIdOf request endpoint) request next).run handler s).1 =
      o.map fun _ => .invalidCredentials := run_authenticated_refused handler s hread next hrefused
  clear_value o
  rw [hrespond, run_reported_done, hcaller]
  cases o with
  | ok found => rfl
  | error failure => cases failure <;> rfl

/-- A caller without credentials is asked for them. -/
theorem run_respond_unauthenticated (hread : Credentials.read? request = none) :
    ((respond settings request).run handler s).1 = .ok .notAuthenticated := by
  obtain ⟨next, hrespond⟩ := exists_authenticated settings hroute hasks hpayload
  rw [hrespond, run_reported_done]
  unfold authenticated
  simp only [hread]
  rfl

end
end

/-! ### Two stores -/

/-- Whom authentication finds over either of two stores: nobody, or accounts in this relation. -/
inductive Found (P : Uuid → Uuid → Prop) : Option Value → Option Value → Prop
  | nobody : Found P none none
  | accounts {a a' : Uuid} : P a a' → Found P (some (.uuid a)) (some (.uuid a'))

/-- Outcomes that are answered the same, and leave log lines that read the same. -/
inductive Reported {γ : Type} (reading : Log.Entry → γ) (method path : String) :
    Except Failure Response → Except Failure Response → Prop
  | answered (response : Response) : Reported reading method path (.ok response) (.ok response)
  | refused {e e' : RegistryError} : e.kind = e'.kind →
    reading (errorEntry method path e) = reading (errorEntry method path e') →
    Reported reading method path (.error (.registry e)) (.error (.registry e'))
  | failed {e : Failure} : (∀ r, e ≠ .registry r) → Reported reading method path (.error e) (.error e)

section
variable {γ : Type} {reading : Log.Entry → γ} {method path : String} {s s' : State}

theorem reported_refl (o : Except Failure Response) : Reported reading method path o o := by
  cases o with
  | ok response => exact .answered response
  | error e =>
    cases e with
    | registry e => exact .refused rfl rfl
    | _ => exact .failed nofun

theorem abreast_pure (response : Response) :
    Abreast reading (Reported reading method path) (pure response) s (pure response) s' :=
  .done (.answered response)

theorem abreast_authenticate {P : Uuid → Uuid → Prop} {handle password : String}
    (h : Agree (Found P) (outcome requestId password (step (.passwordCredential handle) s).1)
      (outcome requestId password (step (.passwordCredential handle) s').1)) :
    Abreast reading (Agree (Found P)) (authenticate requestId handle password) s
      (authenticate requestId handle password) s' := by
  rw [authenticate_eq]
  refine .asked rfl (fun message => .done (.error _)) ?_
  generalize outcome requestId password (step (.passwordCredential handle) s).1 = o at h ⊢
  generalize outcome requestId password (step (.passwordCredential handle) s').1 = o' at h ⊢
  cases h with
  | ok hfound =>
    cases hfound with
    | nobody => exact abreast_log rfl (.done (.ok .nobody))
    | accounts ha => exact .done (.ok (.accounts ha))
  | error e => exact .done (.error e)

/-- **Where authentication finds nobody over both stores, or somebody over both, an endpoint goes
abreast** as far as what follows does. -/
theorem abreast_authenticated {P : Uuid → Uuid → Prop}
    (h : ∀ credentials, Credentials.read? request = some credentials →
      Agree (Found P)
        (outcome requestId credentials.password
          (step (.passwordCredential (handleOf credentials)) s).1)
        (outcome requestId credentials.password
          (step (.passwordCredential (handleOf credentials)) s').1))
    {next next' : Uuid → Program Response}
    (hnext : ∀ a a' t t', P a a' →
      Abreast reading (Reported reading method path) (next a) t (next' a') t') :
    Abreast reading (Reported reading method path) (authenticated requestId request next) s
      (authenticated requestId request next') s' := by
  unfold authenticated
  cases hread : Credentials.read? request with
  | none => exact abreast_pure _
  | some credentials =>
    refine abreast_bind (abreast_authenticate (h credentials hread)) (fun e => reported_refl _) ?_
    intro found found' t t' hfound
    cases hfound with
    | nobody => exact abreast_pure _
    | accounts ha => exact hnext _ _ _ _ ha

/-- What was reported is the same. -/
theorem abreast_reported {p p' : Program Response}
    (h : Abreast reading (Reported reading method path) p s p' s') :
    Abreast reading Eq (reported method path p) s (reported method path p') s' := by
  refine abreast_attempt h fun o o' t t' ho => ?_
  cases ho with
  | answered response => exact .done rfl
  | refused hkind hentry =>
    refine abreast_log hentry ?_
    rw [hkind]
    exact .done rfl
  | @failed e hother =>
    cases e with
    | registry e => exact absurd rfl (hother e)
    | _ => exact .done rfl

/-- Endpoints that go abreast make the service go abreast. -/
theorem abreast_respond (hroute : route request.method request.path = .ok endpoint)
    (h : Abreast reading (Reported reading request.method request.path)
      (serve settings (requestIdOf request endpoint) request endpoint) s
      (serve settings (requestIdOf request endpoint) request endpoint) s') :
    Abreast reading Eq (respond settings request) s (respond settings request) s' := by
  unfold respond
  simp only [hroute]
  exact abreast_reported h

end
end EmailOwnership.Api
