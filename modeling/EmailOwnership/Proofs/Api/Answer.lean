import EmailOwnership.Proofs.Api.Alone
import EmailOwnership.Proofs.Registry.Flow

/-! What an entitled request is answered.

A request under a live context that nothing comes between is answered as its operation ends.
So a caller who brings its password and claims an address that is free for it is answered 201
(`claim_answered`), the right code of an address whose owner can be looked up is answered 200, if
its form admits it (`verification_answered`), and a removal 204 (`removal_answered`). -/
namespace EmailOwnership.Api
open Http
open Program (run_bind run_attempt)
open Rehearsal
open Store.Memory (State buildAccount step)
variable {settings : Settings} {requestId : String} {request : Http.Request} {context : Context String}
  {w w' : World} {response : Response} {sender : Sender}

/-- The request is answered with what its endpoint ends with. -/
theorem exchange_served {endpoint : Endpoint}
    (hroute : route request.method request.path = .ok endpoint)
    (h : (serve settings (requestIdOf request endpoint) request endpoint).run
      (plainHandler .console (contextOf settings w.clock request)) w = (.ok response, w')) :
    exchange settings .none request w = (response, w') := by
  refine exchange_steady ?_
  unfold respond
  simp only [hroute, reported]
  rw [run_bind, run_attempt, h]
  rfl

/-! ### Callers -/

theorem run_authenticate (hlive : context.isDone w.clock = false) {handle password hash : String}
    {account : Uuid}
    (hstored : Store.Memory.credential handle w.memory w.memory.accounts.rows =
      .ok (some (account, hash)))
    (hcheck : Password.check password hash = .ok true) :
    (Authentication.authenticate requestId handle password).run (plainHandler sender context) w =
      (.ok (some (.uuid account)), w) := by
  have hcall : plainHandler sender context (.store (.passwordCredential handle)) w =
      (.ok (.credential (.uuid account) (.text hash)), w) := by
    show w.perform context _ = _
    rw [Registry.perform_step hlive]
    simp only [step, hstored, Except.map, Store.Reply.ofCredential?]
    rfl
  have hfound : Authentication.checkCredential (.credential (.uuid account) (.text hash)) password =
      .ok (some (.uuid account)) := by
    simp [Authentication.checkCredential_text, hcheck, Except.map]
  obtain ⟨next, hask, -, hanswer⟩ := Authentication.authenticate_ask requestId handle password
  rw [hask, Program.run_ask, hcall, hanswer, hfound]
  rfl

/-- A caller who is known gets to what it asks for. -/
theorem run_authenticated (hlive : context.isDone w.clock = false) {account : Uuid}
    (h : Identifies w.memory request account) (next : Uuid → Program Response) :
    (authenticated requestId request next).run (plainHandler sender context) w =
      (next account).run (plainHandler sender context) w := by
  obtain ⟨credentials, hash, hread, hstored, hcheck⟩ := h
  unfold authenticated
  simp only [hread]
  rw [run_bind, run_authenticate hlive hstored hcheck]

/-! ### Claims -/

/-- **A claim of an address that is free for the caller is answered 201**, and its code is delivered. -/
theorem claim_answered {account : Uuid} {form : EmailForm} {c : Store.Call}
    (hroute : route request.method request.path = .ok .addEmail)
    (hlive : (contextOf settings w.clock request : Context String).isDone w.clock = false)
    (hidentifies : Identifies w.memory request account)
    (hsubmits : Submits EmailForm.read request form)
    (hfree : Registry.claimWrite? account (Address.normalize form.email)
      (w.draw settings.codeLength).1
      (w.memory.emails.get? (Address.normalize form.email)) = some c) :
    (exchange settings .none request w).1.status = 201 ∧
      (exchange settings .none request w).2.deliveries =
        w.deliveries ++ [(Address.normalize form.email, (w.draw settings.codeLength).1)] := by
  obtain ⟨body, hbody, hform⟩ := hsubmits
  obtain ⟨r, w', hrun, hdelivered⟩ : ∃ r w', (Verification.addEmail (requestIdOf request .addEmail)
      settings.codeLength account form.email).run
        (plainHandler .console (contextOf settings w.clock request)) w =
      (.ok (.ofRecord? (some r)), w') ∧
      w'.deliveries =
        w.deliveries ++ [(Address.normalize form.email, (w.draw settings.codeLength).1)] := by
    obtain ⟨r, w', hrun, -, -, -, hdelivered⟩ :=
      Verification.run_addEmail_granted hlive settings.codeLength_pos hfree
    exact ⟨r, w', hrun, hdelivered⟩
  have hserve : (addEmail settings (requestIdOf request .addEmail) request).run
      (plainHandler .console (contextOf settings w.clock request)) w =
      (.ok (.ofJson 201 (EmailView.ofRecord r).json), w') := by
    unfold addEmail withPayload
    simp only [hbody]
    rw [run_authenticated hlive hidentifies]
    unfold withForm
    simp only [hform]
    rw [run_bind, hrun]
    simp [EmailView.ofReply?, Store.Reply.ofRecord?, shown]
    rfl
  rw [exchange_served hroute hserve]
  exact ⟨rfl, hdelivered⟩

/-- So is a claim of an unknown address. -/
theorem unknown_claim_answered {account : Uuid} {form : EmailForm}
    (hroute : route request.method request.path = .ok .addEmail)
    (hlive : (contextOf settings w.clock request : Context String).isDone w.clock = false)
    (hidentifies : Identifies w.memory request account)
    (hsubmits : Submits EmailForm.read request form)
    (hunknown : w.memory.emails.get? (Address.normalize form.email) = none) :
    (exchange settings .none request w).1.status = 201 ∧
      (exchange settings .none request w).2.deliveries =
        w.deliveries ++ [(Address.normalize form.email, (w.draw settings.codeLength).1)] := by
  refine claim_answered (c := .createEmail (Address.normalize form.email) (some account)
    (w.draw settings.codeLength).1) hroute hlive hidentifies hsubmits ?_
  rw [hunknown]
  rfl

/-! ### Verifications -/

/-- **The right code of an address whose owner can be looked up is answered 200.** -/
theorem verification_answered {form : CodeForm} {r : EmailRecord} {a : Account}
    (hroute : route request.method request.path = .ok .verifyEmail)
    (hlive : (contextOf settings w.clock request : Context String).isDone w.clock = false)
    (hsubmits : Submits CodeForm.read request form)
    (hr : w.memory.emails.get? (Address.normalize form.email) = some r) (ho : r.owner = some a.id)
    (ha : buildAccount a.id false w.memory = .ok a) (hcode : r.code = form.code) :
    (exchange settings .none request w).1 =
      .ofJson 200 (.object [("message", .string "Email verified"),
        ("email", .string (Address.normalize form.email))]) := by
  obtain ⟨body, hbody, hform⟩ := hsubmits
  have hserve : ∃ w', (verifyEmail (requestIdOf request .verifyEmail) request).run
      (plainHandler .console (contextOf settings w.clock request)) w =
      (.ok (.ofJson 200 (.object [("message", .string "Email verified"),
        ("email", .string (Address.normalize form.email))])), w') := by
    unfold verifyEmail withPayload
    simp only [hbody]
    unfold withForm
    simp only [hform]
    rw [run_bind, Verification.run_verifyEmail_found hlive hr ho ha hcode]
    exact ⟨_, rfl⟩
  obtain ⟨w', hserve⟩ := hserve
  rw [exchange_served hroute hserve]

/-- A code that no owned record of its address has is answered 400. -/
theorem invalid_verification_answered {form : CodeForm}
    (hroute : route request.method request.path = .ok .verifyEmail)
    (hlive : (contextOf settings w.clock request : Context String).isDone w.clock = false)
    (hsubmits : Submits CodeForm.read request form)
    (hnone : ∀ r, w.memory.emails.get? (Address.normalize form.email) = some r → r.owner ≠ none →
      r.code ≠ form.code) :
    exchange settings .none request w = (.invalidCode, w) := by
  obtain ⟨body, hbody, hform⟩ := hsubmits
  refine exchange_served hroute ?_
  show (verifyEmail (requestIdOf request .verifyEmail) request).run _ w = _
  unfold verifyEmail withPayload
  simp only [hbody]
  unfold withForm
  simp only [hform]
  rw [run_bind, Verification.run_verifyEmail_invalid hlive hnone]
  rfl

/-- A body that is no form is refused, whatever else holds. -/
theorem misread_verification_answered {body : Json} {issues : List Issue}
    (hroute : route request.method request.path = .ok .verifyEmail)
    (hbody : request.payload = .ok (.json body))
    (hform : Form.ofObject .modelAttributesType CodeForm.read body = .error issues) :
    exchange settings .none request w = (refuseBody body issues, w) := by
  refine exchange_served hroute ?_
  show (verifyEmail (requestIdOf request .verifyEmail) request).run _ w = _
  unfold verifyEmail withPayload
  simp only [hbody]
  unfold withForm
  simp only [hform]
  rfl

/-! ### Removals -/

/-- A known caller's removal under a live context is answered 204. -/
theorem removal_answered {id : String} {email account : Uuid}
    (hroute : route request.method request.path = .ok (.removeEmail id))
    (hlive : (contextOf settings w.clock request : Context String).isDone w.clock = false)
    (hid : Uuid.parse? id = some email) (h : Identifies w.memory request account) :
    (exchange settings .none request w).1 = .noContent := by
  obtain ⟨entry, hrun⟩ : ∃ entry, (Verification.removeEmail (requestIdOf request (.removeEmail id))
      account email).run (plainHandler .console (contextOf settings w.clock request)) w =
      (.ok (), {w with memory := (step (.deleteEmail email account) w.memory).2}.note entry) :=
    Verification.run_removeEmail hlive email
  have hserve : ∃ w', (removeEmail (requestIdOf request (.removeEmail id)) id request).run
      (plainHandler .console (contextOf settings w.clock request)) w = (.ok .noContent, w') := by
    unfold removeEmail
    rw [run_authenticated hlive h]
    simp only [hid]
    rw [Program.run_bind, hrun]
    exact ⟨_, rfl⟩
  obtain ⟨w', hserve⟩ := hserve
  rw [exchange_served hroute hserve]

end EmailOwnership.Api
