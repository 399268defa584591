import EmailOwnership.Proofs.Api.Alone

/-! Who may change what over the service.

Whatever a request says, it changes the store in one of four ways or not at all, and each way
has its endpoint and what entitles to it (`Permitted`): an account claims an address that is
free for it, an account removes a record of its own, a code verifies the address that it was
made for, and an administrator creates an unowned record. Only a claim delivers a code. That
holds at whatever moment the request is cut short (`request_permitted`). -/
namespace EmailOwnership.Api
open Http
open Program (Alone)
open Rehearsal
open Registry (Granted)
open Store.Memory (State)

/-! ### Targets -/

/-- The request is for this method and path, where one line end behind the path does not count. -/
def Targets (request : Http.Request) (method path : String) : Prop :=
  request.method = method ∧
    Endpoint.withoutLineEnd request.path.toList = path.toList

/-- No fixed path ends a line. -/
theorem withoutLineEnd_fixed : ∀ entry ∈ Endpoint.fixed,
    Endpoint.withoutLineEnd entry.1.toList = entry.1.toList := by
  decide +kernel

theorem identifier?_path {path : List Char} {id : String} (h : Endpoint.identifier? path = some id) :
    path = "/v1/emails/".toList ++ id.toList := by
  simp only [Endpoint.identifier?] at h
  split at h
  · rename_i hid
    simp only [Bool.and_eq_true, List.isPrefixOf_iff_prefix] at hid
    obtain ⟨rest, rfl⟩ := hid.1.1
    cases h
    simp only [List.drop_left, String.toList_ofList]
  · cases h

/-- An endpoint is at its fixed path, or is the removal that the path names. -/
theorem mem_endpointsAt {path : List Char} {endpoint : Endpoint} (h : endpoint ∈ endpointsAt path) :
    (∃ written, (written, endpoint) ∈ Endpoint.fixed ∧
        Endpoint.withoutLineEnd path = written.toList) ∨
      ∃ id, endpoint = .removeEmail id ∧ path = "/v1/emails/".toList ++ id.toList := by
  rcases List.mem_append.1 h with h | h
  · obtain ⟨⟨written, endpoint⟩, hfound, rfl⟩ := List.mem_map.1 h
    obtain ⟨hfixed, hleads⟩ := List.mem_filter.1 hfound
    refine .inl ⟨written, hfixed, ?_⟩
    simp only [Bool.or_eq_true, beq_iff_eq] at hleads
    rcases hleads with rfl | hleads
    · exact withoutLineEnd_fixed _ hfixed
    · exact hleads.symm
  · obtain ⟨id, hid, rfl⟩ := Option.map_eq_some_iff.1 (Option.mem_toList.1 h)
    exact .inr ⟨id, rfl, identifier?_path hid⟩

/-- A request is routed to an endpoint by its method and its path. -/
theorem route_ok {method path : String} {endpoint : Endpoint} (h : route method path = .ok endpoint) :
    method ∈ endpoint.methods ∧ endpoint ∈ endpointsAt path.toList := by
  unfold route at h
  split at h
  · cases h
  · split at h
    · rename_i hfind
      cases h
      exact ⟨by simpa using List.find?_some hfind, List.mem_of_find?_eq_some hfind⟩
    · cases h

/-- One of the fixed endpoints is reached at its own path only. -/
theorem targets_of_route {request : Http.Request} {endpoint : Endpoint} {method path : String}
    (h : route request.method request.path = .ok endpoint) (hmethods : endpoint.methods = [method])
    (hfixed : ∀ written, (written, endpoint) ∈ Endpoint.fixed → written = path)
    (hremoval : ∀ id, endpoint ≠ .removeEmail id) : Targets request method path := by
  obtain ⟨hmethod, hpath⟩ := route_ok h
  rw [hmethods, List.mem_singleton] at hmethod
  rcases mem_endpointsAt hpath with ⟨written, hwritten, heq⟩ | ⟨id, hid, -⟩
  · rw [hfixed written hwritten] at heq
    exact ⟨hmethod, heq⟩
  · exact absurd hid (hremoval id)

/-! ### What a request may do -/

/-- What a request may make of the store, with the codes that it may have delivered. -/
inductive Permitted (settings : Settings) (request : Http.Request) (s : State) :
    State → List (String × String) → Prop
  | nothing : Permitted settings request s s []
  /-- An account claims an address that is free for it, and its code is sent or not. -/
  | claim {account : Uuid} {form : EmailForm} {r : EmailRecord} {s' : State}
    {sent : List (String × String)} :
    Targets request "POST" "/v1/emails" →
    Identifies s request account → Submits EmailForm.read request form →
    Granted account (Address.normalize form.email) settings.codeLength s s' r →
    sent = [] ∨ sent = [(Address.normalize form.email, r.code)] →
    Permitted settings request s s' sent
  /-- An account removes a record of its own. -/
  | removal {account : Uuid} {id address : String} {r : EmailRecord} :
    request.method = "DELETE" →
    request.path.toList = "/v1/emails/".toList ++ id.toList →
    Identifies s request account → Uuid.parse? id = some r.id →
    s.emails.get? address = some r → r.owner = some account →
    Permitted settings request s {s with emails := s.emails.erase address} []
  /-- The code of an owned record verifies it. -/
  | verification {form : CodeForm} {r : EmailRecord} :
    Targets request "POST" "/v1/emails/verify" → Submits CodeForm.read request form →
    s.emails.get? (Address.normalize form.email) = some r → r.owner ≠ none → r.code = form.code →
    Permitted settings request s {s with
      emails := s.emails.put (Address.normalize form.email) {r with verified := true}} []
  /-- An administrator creates an unowned record. -/
  | provisioning {form : EmailForm} {code : String} :
    Targets request "POST" "/v1/admin/emails" → settings.adminToken ≠ "" →
    request.header? "x-admin-token" = some settings.adminToken →
    Submits EmailForm.read request form →
    s.emails.get? (Address.normalize form.email) = none →
    Permitted settings request s {s with
      emails := s.emails.put (Address.normalize form.email)
        (s.fresh (Address.normalize form.email) none code)
      drawn := s.drawn + 1} []

variable {settings : Settings} {request : Http.Request} {s s' : State} {sent : List (String × String)}

/-- Accounts, secrets, roles and tags are nobody's to change. -/
theorem Permitted.frame (h : Permitted settings request s s' sent) :
    s' = {s with emails := s'.emails, drawn := s'.drawn} := by
  cases h with
  | claim _ _ _ hgranted _ => exact hgranted.frame
  | _ => rfl

/-- An administrator holds the token that is configured, which is not empty. -/
theorem token_of_administrator (h : isAdministrator settings request = true) :
    settings.adminToken ≠ "" ∧ request.header? "x-admin-token" = some settings.adminToken := by
  simp only [isAdministrator, Bool.and_eq_true, Bool.not_eq_true', beq_iff_eq] at h
  obtain ⟨hconfigured, htoken⟩ := h
  replace hconfigured : settings.adminToken ≠ "" := by
    simpa [String.isEmpty_iff] using hconfigured
  refine ⟨hconfigured, ?_⟩
  cases hheader : request.header? "x-admin-token" with
  | none =>
    rw [hheader] at htoken
    exact absurd htoken.symm hconfigured
  | some token =>
    rw [hheader] at htoken
    exact congrArg some htoken

/-- What an endpoint does is permitted to the requests that are routed to it. -/
theorem permitted_of_serve {requestId : String} {endpoint : Endpoint} {o : Except Failure Response}
    (hroute : route request.method request.path = .ok endpoint)
    (h : Alone .console (serve settings requestId request endpoint) s o s' sent) :
    Permitted settings request s s' sent := by
  cases endpoint with
  | addEmail =>
    have htargets : Targets request "POST" "/v1/emails" :=
      targets_of_route hroute rfl (by simp [Endpoint.fixed]) (by simp)
    rcases alone_addEmail h with
      ⟨-, rfl, rfl⟩ | ⟨account, form, claimed, hidentifies, hsubmits, hadds, -⟩
    · exact .nothing
    · cases hadds with
      | unclaimed _ => exact .nothing
      | unread _ hgranted => exact .claim htargets hidentifies hsubmits hgranted (.inl rfl)
      | undelivered _ _ hsender => cases hsender
      | delivered hgranted _ => exact .claim htargets hidentifies hsubmits hgranted (.inr rfl)
  | verifyEmail =>
    have htargets : Targets request "POST" "/v1/emails/verify" :=
      targets_of_route hroute rfl (by simp [Endpoint.fixed]) (by simp)
    rcases alone_verifyEmail h with ⟨-, rfl, rfl⟩ | ⟨form, verified, hsubmits, hverifies, rfl⟩
    · exact .nothing
    · cases hverifies with
      | unread _ => exact .nothing
      | invalid => exact .nothing
      | unmarked _ => exact .nothing
      | marked hr ho hcode => exact .verification htargets hsubmits hr ho hcode
  | removeEmail id =>
    obtain ⟨rfl, rfl | ⟨account, x, r, hidentifies, hid, hr, ho, rfl⟩⟩ := alone_removeEmail h
    · exact .nothing
    · obtain ⟨hmethod, hpath⟩ := route_ok hroute
      rcases mem_endpointsAt hpath with ⟨written, hwritten, -⟩ | ⟨id', hid', hpath⟩
      · simp [Endpoint.fixed] at hwritten
      · cases hid'
        exact .removal (List.mem_singleton.1 hmethod) hpath hidentifies hid hr ho
  | provisionEmail =>
    have htargets : Targets request "POST" "/v1/admin/emails" :=
      targets_of_route hroute rfl (by simp [Endpoint.fixed]) (by simp)
    obtain ⟨rfl, rfl | ⟨form, code, hadmin, hsubmits, hnone, rfl⟩⟩ := alone_provisionEmail h
    · exact .nothing
    · obtain ⟨hconfigured, htoken⟩ := token_of_administrator hadmin
      exact .provisioning htargets hconfigured htoken hsubmits hnone
  | lookUpAccount =>
    obtain ⟨rfl, rfl⟩ := alone_lookUpAccount h
    exact .nothing
  | health =>
    obtain ⟨rfl, rfl⟩ := alone_health h
    exact .nothing
  | manual =>
    obtain ⟨-, rfl, rfl⟩ := Program.alone_done.1 h
    exact .nothing

/-- **A request changes only what it is entitled to**, over any memory store, under any settings,
and at any pace: time may pass and the request may be cancelled before each of its calls. What it
makes of the store and what it delivers is `Permitted`; accounts, secrets, roles and tags stay. -/
theorem request_permitted (settings : Settings) (pace : Pace) (request : Http.Request) (w : World) :
    let w' := (exchange settings pace.interposition request w).2
    ∃ sent, Permitted settings request w.memory w'.memory sent ∧
      w'.deliveries = w.deliveries ++ sent ∧
      w'.memory.accounts = w.memory.accounts ∧
      w'.memory.authentication = w.memory.authentication ∧
      w'.memory.roles = w.memory.roles ∧ w'.memory.tags = w.memory.tags := by
  intro w'
  obtain ⟨sent, hpermitted, hsent⟩ : ∃ sent, Permitted settings request w.memory w'.memory sent ∧
      w'.deliveries = w.deliveries ++ sent := by
    cases hroute : route request.method request.path with
    | error m =>
      have hkept : w' = w := congrArg Prod.snd (exchange_misdirected hroute pace.interposition w)
      exact ⟨[], hkept ▸ .nothing, by rw [hkept, List.append_nil]⟩
    | ok endpoint =>
      obtain ⟨sent, h, hsent⟩ := exchange_alone settings pace request w
      simp only [respond, hroute] at h
      obtain ⟨o, hserve, -⟩ := alone_reported h
      exact ⟨sent, permitted_of_serve hroute hserve, hsent⟩
  refine ⟨sent, hpermitted, hsent, ?_⟩
  rw [hpermitted.frame]
  exact ⟨rfl, rfl, rfl, rfl⟩

/-- An administrator's request whose path ends a line. -/
def lineEnding : Http.Request :=
  ⟨"POST", "/v1/admin/emails\n", [], [("x-admin-token", "t"), ("content-type", "application/json")],
    "\x7b\"email\":\"a@x.com\"\x7d"⟩

/-- The line end behind a path is overlooked: though this path is none of the four, a record is
created. -/
theorem line_end_overlooked :
    lineEnding.path ∉ ["/v1/emails", "/v1/emails/verify", "/v1/admin/emails"] ∧
      lineEnding.method ≠ "DELETE" ∧
      (exchange {Settings.default with adminToken := "t"} .none lineEnding
        ⟨.empty, 0, .standard, []⟩).2.memory.emails.values =
          [⟨.drawn 1, "a@x.com", none, "123456", false⟩] := by
  refine ⟨by decide, by decide, ?_⟩
  decide +kernel

end EmailOwnership.Api
