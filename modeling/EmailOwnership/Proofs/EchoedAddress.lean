import EmailOwnership.Proofs.Acceptance
import EmailOwnership.Proofs.Mailbox
import EmailOwnership.Proofs.Memory.Filing

/-! Whether an address that the service has shown is accepted.

A claim that is answered 201 shows the address under which its record is stored. A verification
that brings this address back reads it like any other text, and normalises what it has read. So
it comes to the record only if the stored address reads back as itself (`Mailbox.ReadsBack`).
In ASCII every address does. Beyond it a small letter may compose with a mark where its capital
does not, and the address that was shown is not the one that is looked up
(`echoed_address_accepted_iff`). -/
namespace EmailOwnership.Api
open Http
open Mailbox (ReadsBack)
open Rehearsal
open Store.Memory (Filed buildAccount)

/-- The answer that an address is verified. -/
def verifiedAnswer (address : String) : Response :=
  .ofJson 200 (.object [("message", .string "Email verified"), ("email", .string address)])

theorem verifiedAnswer_injective {address address' : String}
    (h : verifiedAnswer address = verifiedAnswer address') : address = address' := by
  simpa [verifiedAnswer, Response.ofJson] using h

/-- The request is a verification of this address with this code, and has time. -/
structure Presents (settings : Settings) (now : Float) (request : Http.Request)
    (address code : String) : Prop where
  routed : route request.method request.path = .ok .verifyEmail
  shows : bodyText? request "email" = some address
  brings : bodyText? request "code" = some code
  live : (contextOf settings now request : Context String).isDone now = false

/-! ### Verifications of an address -/

theorem email_eq_ok_iff {text address : String} :
    Form.email (.string text) = .ok address ↔ Mailbox.read? text = some address := by
  cases hread : Mailbox.read? text <;> simp [Form.email, Form.addressOf, hread]

theorem email_eq_error {text : String} (hread : Mailbox.read? text = none) :
    Form.email (.string text) = .error .valueError := by
  simp only [Form.email, Form.addressOf, hread]

section Verifications
variable {settings : Settings} {request : Http.Request} {w : World} {address code read : String}
  (h : Presents settings w.clock request address code)
include h

/-- Both texts are in one body. -/
theorem Presents.body : ∃ fields, request.payload = .ok (.json (.object fields)) ∧
    (Json.object fields).field? "email" = some (.string address) ∧
    (Json.object fields).field? "code" = some (.string code) := by
  obtain ⟨fields, hbody, haddress⟩ := bodyText?_eq_some h.shows
  obtain ⟨fields', hbody', hcode⟩ := bodyText?_eq_some h.brings
  rw [hbody] at hbody'
  cases hbody'
  exact ⟨fields, hbody, haddress, hcode⟩

/-- The address of a form that was read is what its text reads as. -/
theorem Presents.read_of_submits {form : CodeForm} (hsubmits : Submits CodeForm.read request form) :
    Mailbox.read? address = some form.email := by
  obtain ⟨body, hbody, hform⟩ := hsubmits
  obtain ⟨fields, hfields, haddress, -⟩ := h.body
  rw [hbody] at hfields
  cases hfields
  simp only [Form.ofObject, CodeForm.read] at hform
  cases hread : Mailbox.read? address with
  | none =>
    rw [required_error haddress (email_eq_error hread)] at hform
    cases hform
  | some read =>
    rw [required_ok haddress (email_eq_ok_iff.2 hread)] at hform
    split at hform
    · rename_i hok _
      cases hok
      cases hform
      rfl
    · cases hform

section Codes
variable (hne : code ≠ "") (hlength : code.length ≤ Form.maxCodeLength)
include hne hlength

theorem Presents.submits (hread : Mailbox.read? address = some read) :
    Submits CodeForm.read request ⟨read, code⟩ := by
  obtain ⟨fields, hbody, haddress, hcode⟩ := h.body
  refine ⟨_, hbody, ?_⟩
  rw [codeForm_read haddress hcode (email_eq_ok_iff.2 hread) hne, if_pos hlength]

/-- An address that cannot be read is refused. -/
theorem Presents.refused (hread : Mailbox.read? address = none) :
    exchange settings .none request w =
      (.unprocessable [⟨.valueError, ["body", "email"]⟩], w) := by
  obtain ⟨fields, hbody, haddress, hcode⟩ := h.body
  have hcodeRead : Form.code (.string code) = .ok code := by
    simp [Form.code, hne, Nat.not_lt.2 hlength]
  have hform : Form.ofObject .modelAttributesType CodeForm.read (.object fields) =
      .error [⟨.valueError, ["email"]⟩] := by
    simp only [Form.ofObject, CodeForm.read, required_error haddress (email_eq_error hread),
      required_ok hcode hcodeRead]
    rfl
  rw [misread_verification_answered h.routed hbody hform]
  simp [refuseBody, shownInput, haddress, Json.isStrict, Issue.within]

/-- The code of one address is invalid for another that does not have it. -/
theorem Presents.invalid (hread : Mailbox.read? address = some read)
    (hnone : ∀ r, w.memory.emails.get? (Address.normalize read) = some r → r.owner ≠ none →
      r.code ≠ code) :
    exchange settings .none request w = (.invalidCode, w) :=
  invalid_verification_answered h.routed h.live (h.submits hne hlength hread) hnone

/-- **The code that stands under the address is accepted if the address reads back as itself.** -/
theorem Presents.accepted_iff {r : EmailRecord} {a : Account}
    (hr : w.memory.emails.get? address = some r) (ho : r.owner = some a.id)
    (ha : buildAccount a.id false w.memory = .ok a) (hcode : r.code = code) :
    (exchange settings .none request w).1 = verifiedAnswer address ↔ ReadsBack address := by
  rw [Mailbox.readsBack_iff]
  constructor
  · intro hanswer
    -- the answer shows what the form was read as
    obtain ⟨sent, halone, -⟩ := exchange_alone settings .steady request w
    rw [Pace.steady_interposition, hanswer] at halone
    unfold respond at halone
    simp only [h.routed] at halone
    obtain ⟨o, hserve, rfl | ⟨e, -, hstatus⟩⟩ := alone_reported halone
    · have hstatus : (verifiedAnswer address).status < 400 := (by decide : 200 < 400)
      obtain ⟨form, hsubmits, hshown⟩ := alone_verifyEmail_accepted hstatus hserve
      exact ⟨form.email, h.read_of_submits hsubmits, (verifiedAnswer_injective hshown).symm⟩
    · exact absurd hstatus (by decide : ¬ 400 ≤ 200)
  · rintro ⟨read, hread, rfl⟩
    have hsubmits : Submits CodeForm.read request ⟨read, code⟩ := h.submits hne hlength hread
    have hverified := verification_answered h.routed h.live hsubmits hr ho ha hcode
    exact hverified

end Codes

end Verifications

/-! ### Addresses that were shown -/

theorem filed_of_exchange {w : World} (hfiled : Filed w.memory) (settings : Settings) (pace : Pace)
    (request : Http.Request) :
    Filed (exchange settings pace.interposition request w).2.memory := by
  obtain ⟨sent, halone, -⟩ := exchange_alone settings pace request w
  exact Program.alone_invariant (fun c s hs => hs.edit (Store.Memory.step_edit c s)) halone hfiled

/-- **The address that a claim shows is accepted exactly if it reads back as itself.** Over any
memory store and at any pace, a claim that is answered 201 shows the address under which its code
was delivered. The next verification of this address with this code is answered 200 if and only if
what is read off the address is stored under it, as it is if the claimed text was read in ASCII.
Otherwise the address is refused, or the code is looked for under another one. -/
theorem echoed_address_accepted_iff (settings : Settings) (pace : Pace) (w : World)
    (hlength : settings.codeLength ≤ Form.maxCodeLength) (hfiled : Filed w.memory)
    {claim : Http.Request} {email : String}
    (hroute : route claim.method claim.path = .ok .addEmail) (hemail : bodyText? claim "email" = some email)
    (hcreated : (exchange settings pace.interposition claim w).1.status = 201) :
    let claimed := exchange settings pace.interposition claim w
    ∃ read view code, Mailbox.read? email = some read ∧
      claimed.1 = .ofJson 201 (EmailView.json view) ∧ view.email = Address.normalize read ∧
      claimed.2.deliveries = w.deliveries ++ [(view.email, code)] ∧
      ((∀ c ∈ read.toList, Text.isAscii c = true) → ReadsBack view.email) ∧
      ∀ (verification : Http.Request) (now : Float),
        Presents settings now verification view.email code →
        let answer := (exchange settings .none verification {claimed.2 with clock := now}).1
        (answer = verifiedAnswer view.email ↔ ReadsBack view.email) ∧
        (Mailbox.read? view.email = none →
          answer = .unprocessable [⟨.valueError, ["body", "email"]⟩]) ∧
        ∀ other, Mailbox.read? view.email = some other →
          (∀ r, claimed.2.memory.emails.get? (Address.normalize other) = some r →
            r.owner ≠ none → r.code ≠ code) → answer = .invalidCode := by
  obtain ⟨account, form, r, hidentifies, hsubmits, hgranted, hsent, hanswer⟩ :=
    answer_of_created hroute hcreated
  have hread : Mailbox.read? email = some form.email :=
    email_eq_ok_iff.1 (email_of_submits hsubmits hemail)
  have haddress : r.address = Address.normalize form.email :=
    (filed_of_exchange hfiled settings pace claim).address _ _ hgranted.get
  have hne : r.code ≠ "" := by
    intro hempty
    have hpos := settings.codeLength_pos
    rw [← hgranted.length, hempty] at hpos
    exact absurd hpos (by decide)
  have hfits : r.code.length ≤ Form.maxCodeLength := by
    rw [hgranted.length]
    exact hlength
  generalize exchange settings pace.interposition claim w = claimed at hanswer hgranted hsent ⊢
  rw [← haddress] at hgranted hsent
  obtain ⟨a, ha, rfl⟩ := buildAccount_of_identifies hidentifies hgranted.frame
  refine ⟨form.email, .ofRecord r, r.code, hread, hanswer, haddress, hsent, fun hascii => ?_,
    fun verification now hpresents => ?_⟩
  · show ReadsBack r.address
    rw [haddress]
    exact Mailbox.readsBack_normalize hread hascii
  · -- the world in which the verification arrives
    let arrived : World := {claimed.2 with clock := now}
    have hverifies : Presents settings arrived.clock verification r.address r.code := hpresents
    refine ⟨?_, fun hnone => ?_, fun other hother hfree => ?_⟩
    · exact hverifies.accepted_iff hne hfits hgranted.get hgranted.claimed.owner ha rfl
    · exact congrArg Prod.fst (hverifies.refused hne hfits hnone)
    · exact congrArg Prod.fst (hverifies.invalid hne hfits hother hfree)

/-! ### An address that composes -/

/-- A claim of a capital with a mark that it does not compose with. -/
def caronClaims : Http.Request :=
  {aliceClaims with body := "\x7b\"email\": \"J\\u030c@x.com\"\x7d"}

/-- A verification of the address as it was shown. -/
def caronVerifies : Http.Request :=
  {aliceVerifies with
    body := "\x7b\"email\": \"j\\u030c@x.com\", \"code\": \"123456\"\x7d"}

/-- The small letter composes with its mark, and the code is looked for under another address. -/
theorem echoed_address_accepted_iff_composed :
    ∃ hash, Password.hashWith "alice-password" "$2b$04$abcdefghijklmnopqrstuu" = .ok hash ∧
      let claimed := exchange .default .none caronClaims (oneAccount hash)
      claimed.1.status = 201 ∧ claimed.2.deliveries = [("j\u030c@x.com", "123456")] ∧
      (∃ view : EmailView, claimed.1 = .ofJson 201 view.json ∧ view.email = "j\u030c@x.com") ∧
      (exchange .default .none caronVerifies {claimed.2 with clock := 0}).1 = .invalidCode := by
  obtain ⟨hash, hhash⟩ := exists_hash
  refine ⟨hash, hhash, ?_⟩
  -- the claim
  have hroute : route caronClaims.method caronClaims.path = .ok .addEmail := by decide +kernel
  have hlive : (contextOf .default 0 caronClaims : Context String).isDone 0 = false := by
    decide +kernel
  have hknown : Identifies (oneAccount hash).memory caronClaims ⟨1⟩ := alice_known hhash
  have hemail : bodyText? caronClaims "email" = some "J\u030c@x.com" := by decide +kernel
  have hread : Form.email (.string "J\u030c@x.com") = .ok "J\u030c@x.com" := by decide +kernel
  have hstored : Address.normalize "J\u030c@x.com" = "j\u030c@x.com" := by decide +kernel
  have hdrawn : ((oneAccount hash).draw Settings.default.codeLength).1 = "123456" := by
    show (Digits.standard.draw 6).1 = _
    decide +kernel
  have hunknown (address : String) : (oneAccount hash).memory.emails.get? address = none :=
    Table.get?_empty _
  have hfree : Registry.claimWrite? ⟨1⟩ (Address.normalize "J\u030c@x.com")
      ((oneAccount hash).draw Settings.default.codeLength).1
      ((oneAccount hash).memory.emails.get? (Address.normalize "J\u030c@x.com")) =
      some (.createEmail (Address.normalize "J\u030c@x.com") (some ⟨1⟩)
        ((oneAccount hash).draw Settings.default.codeLength).1) := by
    rw [hunknown]
    rfl
  obtain ⟨hcreated, hdelivered⟩ := claim_answered (w := oneAccount hash) hroute hlive hknown
    (submits_of_email hemail hread) hfree
  rw [hstored, hdrawn] at hdelivered
  -- nothing is stored under the address that the small letter composes to
  have hnothing : (exchange .default .none caronClaims (oneAccount hash)).2.memory.emails.get?
      "\u01f0@x.com" = none := by
    have hcreated' := hcreated
    rw [← Pace.steady_interposition] at hcreated' ⊢
    obtain ⟨account, form, r, -, hsubmits, hgranted, -⟩ := answer_of_created hroute hcreated'
    have hform := email_of_submits hsubmits hemail
    rw [hread] at hform
    rw [hgranted.store, ← Except.ok.inj hform, hstored]
    show ((oneAccount hash).memory.emails.put "j\u030c@x.com" r).get? "\u01f0@x.com" = none
    rw [Table.get?_put, if_neg (by decide)]
    exact hunknown _
  have hfiled : Filed (oneAccount hash).memory := Store.Memory.filed_of_no_records rfl
  have hecho := echoed_address_accepted_iff .default .steady (oneAccount hash) (by decide) hfiled
    hroute hemail
  rw [Pace.steady_interposition] at hecho
  obtain ⟨read, view, code, hreads, hshown, hview, hsent, -, hanswer⟩ := hecho hcreated
  generalize exchange .default .none caronClaims (oneAccount hash) = claimed
    at hcreated hdelivered hnothing hshown hsent hanswer ⊢
  -- the verification
  obtain ⟨haddress, rfl⟩ : "j\u030c@x.com" = view.email ∧ "123456" = code := by
    simpa [oneAccount, World.deliveries] using hdelivered.symm.trans hsent
  have hpresents : Presents .default 0 caronVerifies view.email "123456" := by
    rw [← haddress]
    exact ⟨by decide +kernel, by decide +kernel, by decide +kernel, by decide +kernel⟩
  obtain ⟨-, -, hinvalid⟩ := hanswer caronVerifies 0 hpresents
  have hother : Mailbox.read? view.email = some "\u01f0@x.com" := by
    rw [← haddress]
    decide +kernel
  have hkept : Address.normalize "\u01f0@x.com" = "\u01f0@x.com" := by decide +kernel
  refine ⟨hcreated, hdelivered, ⟨view, hshown, haddress.symm⟩, hinvalid _ hother fun r hr => ?_⟩
  rw [hkept, hnothing] at hr
  cases hr

end EmailOwnership.Api
