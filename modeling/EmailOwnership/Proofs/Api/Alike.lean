import EmailOwnership.Api
import EmailOwnership.Proofs.Registry.Alike

/-! The service under two runs that differ in codes alone.

Every stage of a request reads the request, the settings and what the store says of accounts,
and none of these has a code in it. So each endpoint but the verification of a code is alike in
both runs (`alike_serve`), and so is the answer to a request for it (`alike_respond`). -/
namespace EmailOwnership

/-- The settings with another number of digits. -/
def Settings.withCodeLength (settings : Settings) (n : Nat) (hn : 1 ≤ n) : Settings :=
  {settings with codeLength := n, codeLength_pos := hn}

namespace Authentication
open Program (Alike alike_pure alike_fail alike_log)
open Store (Reply)

/-- Credentials are checked without regard to codes. -/
theorem checkCredential_redact (reply : Reply) (password : String) :
    checkCredential reply.redact password = checkCredential reply password := by
  cases reply <;> rfl

theorem alike_authenticate (requestId handle password : String) :
    Alike Eq (authenticate requestId handle password) (authenticate requestId handle password) := by
  obtain ⟨next, hask, hfault, hfound⟩ := authenticate_ask requestId handle password
  rw [hask]
  refine .asked rfl nofun (fun fault => ?_) fun credential credential' h => ?_
  · obtain ⟨e, he⟩ := hfault fault
    rw [he]
    exact alike_fail e
  · rw [hfound, hfound, ← checkCredential_redact, h, checkCredential_redact]
    split
    · exact alike_fail _
    · exact alike_log (alike_pure rfl)
    · exact alike_pure rfl

end Authentication

namespace Api
open Http
open Program (Alike Agree alike_pure alike_fail alike_bind alike_log alike_attempt)
open Store (Reply)
variable {settings : Settings} {requestId : String} {request : Request} {n : Nat} {hn : 1 ≤ n}

/-! ### Stages -/

theorem alike_withPayload {next next' : Payload → Program Response}
    (h : ∀ payload, Alike Eq (next payload) (next' payload)) :
    Alike Eq (withPayload request next) (withPayload request next') := by
  unfold withPayload
  split
  · exact h _
  · exact alike_pure rfl
  · exact alike_pure rfl

theorem alike_withForm {α : Type} {read : Json → Except (List Issue) α} {payload : Payload}
    {next next' : α → Program Response} (h : ∀ form, Alike Eq (next form) (next' form)) :
    Alike Eq (withForm read payload next) (withForm read payload next') := by
  unfold withForm
  split
  · exact alike_pure rfl
  · exact alike_pure rfl
  · split
    · exact alike_pure rfl
    · exact h _

theorem alike_administered {next next' : Program Response} (h : Alike Eq next next') :
    Alike Eq (administered settings request next)
      (administered (settings.withCodeLength n hn) request next') := by
  show Alike Eq (if isAdministrator settings request then _ else _)
    (if isAdministrator settings request then _ else _)
  split
  · exact h
  · exact alike_pure rfl

theorem alike_authenticated {next next' : Uuid → Program Response}
    (h : ∀ account, Alike Eq (next account) (next' account)) :
    Alike Eq (authenticated requestId request next) (authenticated requestId request next') := by
  unfold authenticated
  split
  · exact alike_pure rfl
  · refine alike_bind (Authentication.alike_authenticate _ _ _) fun found found' hfound => ?_
    subst hfound
    split
    · exact alike_pure rfl
    · exact alike_pure rfl
    · exact h _
    · exact alike_pure rfl

/-! ### Endpoints -/

/-- Replies that are alike show the same record. -/
theorem alike_shown {p p' : Program Reply} (h : Alike Reply.Alike p p') :
    Alike Eq (do let record ← p; pure (shown 201 EmailView.json (EmailView.ofReply? record)))
      (do let record ← p'; pure (shown 201 EmailView.json (EmailView.ofReply? record))) :=
  alike_bind h fun record record' hrecord => by
    rw [EmailView.ofReply?_alike hrecord]
    exact alike_pure rfl

theorem alike_addEmail : Alike Eq (addEmail settings requestId request)
    (addEmail (settings.withCodeLength n hn) requestId request) :=
  alike_withPayload fun _ => alike_authenticated fun _ => alike_withForm fun _ =>
    alike_shown (Verification.alike_addEmail settings.codeLength_pos hn)

theorem alike_provisionEmail : Alike Eq (provisionEmail settings requestId request)
    (provisionEmail (settings.withCodeLength n hn) requestId request) :=
  alike_withPayload fun _ => alike_administered <| alike_withForm fun _ =>
    alike_shown (Verification.alike_provisionEmail settings.codeLength_pos hn)

theorem alike_removeEmail (id : String) :
    Alike Eq (removeEmail requestId id request) (removeEmail requestId id request) := by
  refine alike_authenticated fun account => ?_
  split
  · exact alike_pure rfl
  · exact alike_bind (Registry.alike_remove _) fun _ _ _ => alike_pure rfl

theorem alike_lookUpAccount : Alike Eq (lookUpAccount settings requestId request)
    (lookUpAccount (settings.withCodeLength n hn) requestId request) := by
  refine alike_administered ?_
  split
  · exact alike_pure rfl
  split
  · exact alike_pure rfl
  refine alike_bind Registry.alike_lookupAccount fun account account' h => ?_
  by_cases haccount : account = .nothing
  · obtain rfl := haccount
    obtain rfl := h.eq_nothing_iff.1 rfl
    exact alike_pure rfl
  · split
    · exact absurd rfl haccount
    split
    · exact absurd (h.eq_nothing_iff.2 rfl) haccount
    rw [AccountView.ofReply?_alike h]
    exact alike_pure rfl

theorem alike_health : Alike Eq (health requestId) (health requestId) := by
  refine .asked rfl nofun (fun fault => ?_) fun _ _ _ => alike_pure rfl
  show Alike Eq (if fault.isStorage then _ else _) (if fault.isStorage then _ else _)
  split <;> exact alike_fail _

/-- **Every endpoint but the verification of a code is served alike.** -/
theorem alike_serve {endpoint : Endpoint} (h : endpoint ≠ .verifyEmail) :
    Alike Eq (serve settings requestId request endpoint)
      (serve (settings.withCodeLength n hn) requestId request endpoint) := by
  cases endpoint with
  | addEmail => exact alike_addEmail
  | verifyEmail => exact absurd rfl h
  | removeEmail id => exact alike_removeEmail id
  | provisionEmail => exact alike_provisionEmail
  | lookUpAccount => exact alike_lookUpAccount
  | health => exact alike_health
  | manual => exact alike_pure rfl

/-! ### The whole -/

/-- Failures that are the same are reported and logged the same. -/
theorem alike_reported {method path : String} {p p' : Program Response} (h : Alike Eq p p') :
    Alike Eq (reported method path p) (reported method path p') := by
  refine alike_bind (alike_attempt h) fun outcome outcome' ho => ?_
  obtain rfl := Program.agree_eq.1 ho
  split
  · exact alike_pure rfl
  · exact alike_log (alike_pure rfl)
  · exact alike_pure rfl

theorem alike_respond (settings : Settings) (hn : 1 ≤ n)
    (h : route request.method request.path ≠ .ok .verifyEmail) :
    Alike Eq (respond settings request) (respond (settings.withCodeLength n hn) request) := by
  unfold respond
  split
  · exact alike_pure rfl
  · rename_i endpoint hroute
    refine alike_reported (alike_serve ?_)
    rintro rfl
    exact h hroute

end Api
end EmailOwnership
