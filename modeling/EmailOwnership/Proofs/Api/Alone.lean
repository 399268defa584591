import EmailOwnership.Proofs.Authentication
import EmailOwnership.Proofs.Registry.Alone

/-! What a request to the service may do when it has the store to itself.

Every stage of a request either refuses it, which answers with an error and does nothing
(`Refuses`), or goes on with what it has read off the request. So each endpoint that gets as far
as its operation has found the caller entitled to it (`Identifies`, `isAdministrator`) and a form
in the body (`Submits`). -/
namespace EmailOwnership.Api
open Http
open Authentication (checkCredential_found)
open Program (Alone alone_done alone_call alone_log alone_bind alone_attempt)
open Rehearsal
open Registry (Granted)
open Store.Memory (State step)
open Verification (Adds Verifies alone_addEmail alone_verifyEmail alone_provisionEmail)
variable {settings : Settings} {requestId : String} {request : Http.Request} {sender : Sender}
  {s s' : State} {o : Except Failure Response} {sent : List (String × String)}

/-! ### Refusals -/

/-- A course that ends in an error or fails, and does nothing. -/
structure Refuses (s : State) (o : Except Failure Response) (s' : State)
    (sent : List (String × String)) : Prop where
  answer : ∀ response, o = .ok response → 400 ≤ response.status
  memory : s' = s
  silent : sent = []

theorem refuses_pure {response : Response} (hstatus : 400 ≤ response.status)
    (h : Alone sender (pure response) s o s' sent) : Refuses s o s' sent := by
  obtain ⟨rfl, rfl, rfl⟩ := alone_done.1 h
  refine ⟨fun r hr => ?_, rfl, rfl⟩
  cases hr
  exact hstatus

theorem refuses_error {e : Failure} : Refuses s (.error e) s [] :=
  ⟨fun _ h => (by cases h), rfl, rfl⟩

/-- A failure becomes an answer that is an error. -/
theorem alone_reported {method path : String} {program : Program Response} {response : Response}
    (h : Alone sender (reported method path program) s (.ok response) s' sent) :
    ∃ o, Alone sender program s o s' sent ∧
      (o = .ok response ∨ ∃ e, o = .error e ∧ 400 ≤ response.status) := by
  obtain ⟨o, mid, before, after, rfl, hp, h⟩ := alone_attempt h
  cases o with
  | ok r =>
    obtain ⟨hr, rfl, rfl⟩ := alone_done.1 h
    cases hr
    exact ⟨_, by rwa [List.append_nil], .inl rfl⟩
  | error e =>
    obtain ⟨hstatus, rfl, rfl⟩ : 400 ≤ response.status ∧ s' = mid ∧ after = [] := by
      cases e with
      | registry e =>
        obtain ⟨hr, hs, hsent⟩ := alone_done.1 (alone_log (f := fun _ => pure _)
          (by unfold errorEntry; split <;> rfl) h)
        cases hr
        exact ⟨by cases e.kind <;> decide, hs, hsent⟩
      | _ =>
        obtain ⟨hr, hs, hsent⟩ := alone_done.1 h
        cases hr
        exact ⟨by decide, hs, hsent⟩
    exact ⟨_, by rwa [List.append_nil], .inr ⟨e, rfl, hstatus⟩⟩

/-! ### Stages -/

theorem alone_withPayload {next : Payload → Program Response}
    (h : Alone sender (withPayload request next) s o s' sent) :
    Refuses s o s' sent ∨
      ∃ payload, request.payload = .ok payload ∧ Alone sender (next payload) s o s' sent := by
  unfold withPayload at h
  split at h
  · rename_i payload hpayload
    exact .inr ⟨payload, hpayload, h⟩
  · exact .inl (refuses_pure (by decide) h)
  · exact .inl (refuses_pure (by decide) h)

theorem refuseBody_status (body : Json) (issues : List Issue) :
    400 ≤ (refuseBody body issues).status := by
  unfold refuseBody
  split
  · exact (by decide : 400 ≤ 422)
  · exact (by decide : 400 ≤ 500)

theorem alone_withForm {α : Type} {read : Json → Except (List Issue) α} {payload : Payload}
    {next : α → Program Response} (h : Alone sender (withForm read payload next) s o s' sent) :
    Refuses s o s' sent ∨
      ∃ body form, payload = .json body ∧ Form.ofObject .modelAttributesType read body = .ok form ∧
        Alone sender (next form) s o s' sent := by
  unfold withForm at h
  cases payload with
  | absent => exact .inl (refuses_pure (by decide) h)
  | other => exact .inl (refuses_pure (by decide) h)
  | json body =>
    cases hform : Form.ofObject .modelAttributesType read body with
    | error issues =>
      simp only [hform] at h
      exact .inl (refuses_pure (refuseBody_status body issues) h)
    | ok form =>
      simp only [hform] at h
      exact .inr ⟨body, form, rfl, hform, h⟩

theorem alone_administered {next : Program Response}
    (h : Alone sender (administered settings request next) s o s' sent) :
    Refuses s o s' sent ∨
      isAdministrator settings request = true ∧ Alone sender next s o s' sent := by
  unfold administered at h
  split at h
  · rename_i hadmin
    exact .inr ⟨hadmin, h⟩
  · exact .inl (refuses_pure (by decide) h)

/-! ### Callers -/

/-- The request brings the handle and the password of this account. -/
def Identifies (s : State) (request : Http.Request) (account : Uuid) : Prop :=
  ∃ credentials hash, Credentials.read? request = some credentials ∧
    Store.Memory.credential (String.ofList (Text.strip credentials.handle.toList)) s
      s.accounts.rows = .ok (some (account, hash)) ∧
    Password.check credentials.password hash = .ok true

/-- Authentication does nothing, and finds the account of handle and password only. -/
theorem alone_authenticate {handle password : String} {found : Except Failure (Option Store.Value)}
    (h : Alone sender (Authentication.authenticate requestId handle password) s found s' sent) :
    s' = s ∧ sent = [] ∧ ∀ value, found = .ok (some value) →
      ∃ account hash, value = .uuid account ∧
        Store.Memory.credential handle s s.accounts.rows = .ok (some (account, hash)) ∧
        Password.check password hash = .ok true := by
  obtain ⟨next, hask, hfault, hanswer⟩ := Authentication.authenticate_ask requestId handle password
  rw [hask] at h
  -- whatever faults the look-up has, they end in a failure
  have hfailed {fault : Store.Fault} (h : Alone sender (next (.error fault)) s found s' sent) :
      s' = s ∧ sent = [] ∧ ∀ value, found ≠ .ok (some value) := by
    obtain ⟨e, he⟩ := hfault fault
    rw [he] at h
    obtain ⟨rfl, hs, hsent⟩ := alone_done.1 h
    exact ⟨hs, hsent, nofun⟩
  rcases alone_call h with ⟨message, h⟩ | h
  · obtain ⟨hs, hsent, hnone⟩ := hfailed h
    exact ⟨hs, hsent, fun value hv => absurd hv (hnone value)⟩
  · rw [Store.Memory.step_of_read rfl] at h
    cases hstored : Store.Memory.credential handle s s.accounts.rows with
    | error fault =>
      simp only [step, hstored, Except.map] at h
      obtain ⟨hs, hsent, hnone⟩ := hfailed h
      exact ⟨hs, hsent, fun value hv => absurd hv (hnone value)⟩
    | ok credential =>
      simp only [step, hstored, Except.map] at h
      rw [hanswer] at h
      split at h
      · obtain ⟨rfl, hs, hsent⟩ := alone_done.1 h
        exact ⟨hs, hsent, fun _ hv => by cases hv⟩
      · obtain ⟨rfl, hs, hsent⟩ := alone_done.1 (alone_log (f := fun _ => pure _) rfl h)
        exact ⟨hs, hsent, fun _ hv => by cases hv⟩
      · rename_i value hcheck
        obtain ⟨rfl, hs, hsent⟩ := alone_done.1 h
        refine ⟨hs, hsent, fun _ hv => ?_⟩
        cases hv
        obtain ⟨account, hash, rfl, rfl, hpassword⟩ := checkCredential_found hcheck
        exact ⟨account, hash, rfl, rfl, hpassword⟩

theorem alone_authenticated {next : Uuid → Program Response}
    (h : Alone sender (authenticated requestId request next) s o s' sent) :
    Refuses s o s' sent ∨
      ∃ account, Identifies s request account ∧ Alone sender (next account) s o s' sent := by
  unfold authenticated at h
  split at h
  · exact .inl (refuses_pure (by decide) h)
  · rename_i credentials hread
    rcases alone_bind h with ⟨e, hauth, rfl⟩ | ⟨found, mid, before, after, rfl, hauth, h⟩
    · obtain ⟨rfl, rfl, -⟩ := alone_authenticate hauth
      exact .inl refuses_error
    · obtain ⟨rfl, rfl, hfound⟩ := alone_authenticate hauth
      cases found with
      | none => exact .inl (refuses_pure (by decide) h)
      | some value =>
        obtain ⟨account, hash, rfl, hstored, hpassword⟩ := hfound value rfl
        exact .inr ⟨account, ⟨credentials, hash, hread, hstored, hpassword⟩, h⟩

/-! ### Endpoints -/

/-- The body of the request is a form that reads so. -/
def Submits {α : Type} (read : Json → Except (List Issue) α) (request : Http.Request)
    (form : α) : Prop :=
  ∃ body, request.payload = .ok (.json body) ∧
    Form.ofObject .modelAttributesType read body = .ok form

/-- A claim over the service: the caller is known, the body is read, and the claim goes its way. -/
theorem alone_addEmail (h : Alone sender (addEmail settings requestId request) s o s' sent) :
    Refuses s o s' sent ∨
      ∃ account form claimed, Identifies s request account ∧ Submits EmailForm.read request form ∧
        Adds sender requestId settings.codeLength account (Address.normalize form.email) s claimed
          s' sent ∧
        o = claimed.map fun record => shown 201 EmailView.json (EmailView.ofReply? record) := by
  rcases alone_withPayload h with hrefuses | ⟨payload, hpayload, h⟩
  · exact .inl hrefuses
  rcases alone_authenticated h with hrefuses | ⟨account, hidentifies, h⟩
  · exact .inl hrefuses
  rcases alone_withForm h with hrefuses | ⟨body, form, rfl, hform, h⟩
  · exact .inl hrefuses
  obtain ⟨claimed, hclaim, rfl⟩ := Program.alone_map h
  exact .inr ⟨account, form, claimed, hidentifies, ⟨body, hpayload, hform⟩,
    Verification.alone_addEmail hclaim, rfl⟩

/-- A claim over the service that is not refused was granted, has delivered its code and is answered
with its record. -/
theorem alone_addEmail_created {response : Response} (hstatus : response.status < 400)
    (h : Alone sender (addEmail settings requestId request) s (.ok response) s' sent) :
    ∃ account form r, Identifies s request account ∧ Submits EmailForm.read request form ∧
      Granted account (Address.normalize form.email) settings.codeLength s s' r ∧
      sent = [(Address.normalize form.email, r.code)] ∧
      response = .ofJson 201 (EmailView.ofRecord r).json := by
  rcases alone_addEmail h with hrefuses | ⟨account, form, claimed, hidentifies, hsubmits, hadds, ho⟩
  · exact absurd (hrefuses.answer _ rfl) (Nat.not_le.2 hstatus)
  · cases hadds with
    | delivered hgranted _ =>
      refine ⟨account, form, _, hidentifies, hsubmits, hgranted, rfl, ?_⟩
      rw [Except.ok.inj ho]
      simp [EmailView.ofReply?, Store.Reply.ofRecord?, shown]
    | _ => cases ho

/-- A verification over the service goes its way with the form in the body, and delivers nothing. -/
theorem alone_verifyEmail (h : Alone sender (verifyEmail requestId request) s o s' sent) :
    Refuses s o s' sent ∨
      ∃ form verified, Submits CodeForm.read request form ∧
        Verifies requestId (Address.normalize form.email) form.code s verified s' ∧ sent = [] := by
  rcases alone_withPayload h with hrefuses | ⟨payload, hpayload, h⟩
  · exact .inl hrefuses
  rcases alone_withForm h with hrefuses | ⟨body, form, rfl, hform, h⟩
  · exact .inl hrefuses
  have hsubmits : Submits CodeForm.read request form := ⟨body, hpayload, hform⟩
  rcases alone_bind h with ⟨e, hverify, rfl⟩ | ⟨verified, mid, before, after, rfl, hverify, h⟩
  · obtain ⟨hverifies, rfl⟩ := Verification.alone_verifyEmail hverify
    exact .inr ⟨form, _, hsubmits, hverifies, rfl⟩
  · obtain ⟨hverifies, rfl⟩ := Verification.alone_verifyEmail hverify
    obtain ⟨rfl, rfl⟩ : s' = mid ∧ after = [] := by
      cases verified with
      | success => exact (alone_done.1 h).2
      | invalidCode => exact (alone_done.1 h).2
    exact .inr ⟨form, _, hsubmits, hverifies, rfl⟩

/-- A verification over the service that is not refused shows the address of its form. -/
theorem alone_verifyEmail_accepted {response : Response} (hstatus : response.status < 400)
    (h : Alone sender (verifyEmail requestId request) s (.ok response) s' sent) :
    ∃ form, Submits CodeForm.read request form ∧
      response = .ofJson 200 (.object [("message", .string "Email verified"),
        ("email", .string (Address.normalize form.email))]) := by
  rcases alone_withPayload h with hrefuses | ⟨payload, hpayload, h⟩
  · exact absurd (hrefuses.answer _ rfl) (Nat.not_le.2 hstatus)
  rcases alone_withForm h with hrefuses | ⟨body, form, rfl, hform, h⟩
  · exact absurd (hrefuses.answer _ rfl) (Nat.not_le.2 hstatus)
  rcases alone_bind h with ⟨e, -, ho⟩ | ⟨verified, mid, before, after, -, -, h⟩
  · cases ho
  · cases verified with
    | success => exact ⟨form, ⟨body, hpayload, hform⟩, Except.ok.inj (alone_done.1 h).1⟩
    | invalidCode =>
      rw [Except.ok.inj (alone_done.1 h).1] at hstatus
      exact absurd hstatus (by decide)

/-- A removal over the service does nothing, or erases a record of the caller's. -/
theorem alone_removeEmail {id : String}
    (h : Alone sender (removeEmail requestId id request) s o s' sent) :
    sent = [] ∧ (s' = s ∨ ∃ account x r, Identifies s request account ∧
      Uuid.parse? id = some r.id ∧ s.emails.get? x = some r ∧ r.owner = some account ∧
      s' = {s with emails := s.emails.erase x}) := by
  rcases alone_authenticated h with hrefuses | ⟨account, hidentifies, h⟩
  · exact ⟨hrefuses.silent, .inl hrefuses.memory⟩
  · split at h
    · obtain ⟨-, rfl, rfl⟩ := alone_done.1 h
      exact ⟨rfl, .inl rfl⟩
    · rename_i email hid
      obtain ⟨removed, hremove, -⟩ := Program.alone_map (f := fun _ : Unit => Response.noContent) h
      rcases Registry.alone_remove hremove with
        ⟨e, -, -, rfl, rfl⟩ | ⟨-, rfl, rfl | ⟨x, r, hr, rfl, ho, rfl⟩⟩
      · exact ⟨rfl, .inl rfl⟩
      · exact ⟨rfl, .inl rfl⟩
      · exact ⟨rfl, .inr ⟨account, x, r, hidentifies, hid, hr, ho, rfl⟩⟩

/-- A provisioning over the service does nothing, or is an administrator's of an unknown address. -/
theorem alone_provisionEmail
    (h : Alone sender (provisionEmail settings requestId request) s o s' sent) :
    sent = [] ∧ (s' = s ∨ ∃ form code, isAdministrator settings request = true ∧
      Submits EmailForm.read request form ∧
      s.emails.get? (Address.normalize form.email) = none ∧
      s' = {s with
        emails := s.emails.put (Address.normalize form.email)
          (s.fresh (Address.normalize form.email) none code)
        drawn := s.drawn + 1}) := by
  rcases alone_withPayload h with hrefuses | ⟨payload, hpayload, h⟩
  · exact ⟨hrefuses.silent, .inl hrefuses.memory⟩
  rcases alone_administered h with hrefuses | ⟨hadmin, h⟩
  · exact ⟨hrefuses.silent, .inl hrefuses.memory⟩
  rcases alone_withForm h with hrefuses | ⟨body, form, rfl, hform, h⟩
  · exact ⟨hrefuses.silent, .inl hrefuses.memory⟩
  obtain ⟨created, hcreate, -⟩ := Program.alone_map h
  rcases Verification.alone_provisionEmail hcreate with
    ⟨e, -, -, rfl, rfl⟩ | ⟨code, hnone, -, rfl, rfl⟩
  · exact ⟨rfl, .inl rfl⟩
  · exact ⟨rfl, .inr ⟨form, code, hadmin, ⟨body, hpayload, hform⟩, hnone, rfl⟩⟩

theorem alone_lookUpAccount
    (h : Alone sender (lookUpAccount settings requestId request) s o s' sent) :
    s' = s ∧ sent = [] := by
  rcases alone_administered h with hrefuses | ⟨-, h⟩
  · exact ⟨hrefuses.memory, hrefuses.silent⟩
  · split at h
    · exact (alone_done.1 h).2
    · split at h
      · exact (alone_done.1 h).2
      · rcases alone_bind h with ⟨e, hlook, rfl⟩ | ⟨reply, mid, before, after, rfl, hlook, hrest⟩
        · obtain ⟨rfl, rfl, -⟩ := Registry.alone_lookupAccount hlook
          exact ⟨rfl, rfl⟩
        · obtain ⟨rfl, rfl, -⟩ := Registry.alone_lookupAccount hlook
          split at hrest
          · exact (alone_done.1 hrest).2
          · exact (alone_done.1 hrest).2

theorem alone_health (h : Alone sender (health requestId) s o s' sent) : s' = s ∧ sent = [] := by
  rcases alone_call h with ⟨message, h⟩ | h
  · exact (alone_done.1 h).2
  · exact (alone_done.1 h).2

end EmailOwnership.Api
