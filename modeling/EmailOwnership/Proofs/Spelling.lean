import EmailOwnership.Proofs.AccessControl
import EmailOwnership.Proofs.EchoedAddress
import EmailOwnership.Proofs.Memory.Credentials

/-! Whether a text that was claimed leads to its account.

A claim reads its text as an address, and stores what it has read in its normal form. A look-up
does not read its text: it brings the text itself into the normal form. So the text that was
claimed finds the account exactly where both forms agree (`claimed_text_finds_account`). In ASCII
without brackets they do. A text that names whose address it brings, or that is not composed, is
looked up as it was never stored. -/
namespace EmailOwnership

/-! ### Owners of addresses -/

namespace Store.Memory
variable {s : State} {address : String} {owner : Uuid}

/-- The owner of the record at an address, if there is one and it is owned. -/
def State.owner? (s : State) (address : String) : Option Uuid :=
  (s.emails.get? address).bind EmailRecord.owner

theorem step_accountByEmail_unowned (h : s.owner? address = none) :
    step (.accountByEmail address) s = (.ok .nothing, s) := by
  simp only [step]
  split
  · rename_i hr
    rw [State.owner?, hr] at h
    cases h
  · rfl

theorem step_accountByEmail_owned (h : s.owner? address = some owner) {a : Account}
    (ha : buildAccount owner true s = .ok a) :
    step (.accountByEmail address) s = (.ok (.ofAccount? (some a)), s) := by
  obtain ⟨⟨id, stored, owner', code, verified⟩, hr, ho⟩ := Option.bind_eq_some_iff.1 h
  obtain rfl : owner' = some owner := ho
  simp only [step, hr, ha, Except.map]

end Store.Memory

namespace Registry
open Store.Memory (Linked State)
variable {account : Uuid} {address : String} {codeLength : Nat} {s s' : State} {r : EmailRecord}

theorem Granted.linked (h : Granted account address codeLength s s' r) (hlinked : Linked s) :
    Linked s' := by
  rw [h.frame]
  exact ⟨hlinked.authentication, hlinked.roles, hlinked.tags⟩

theorem Granted.knows (h : Granted account address codeLength s s' r) : s'.knows = s.knows := by
  rw [h.frame]
  rfl

/-- A claim makes its account the owner of its address, and of no other. -/
theorem Granted.owner? (h : Granted account address codeLength s s' r) (other : String) :
    s'.owner? other = if address = other then some account else s.owner? other := by
  rw [h.store]
  simp only [State.owner?, Table.get?_put]
  split
  · exact h.claimed.owner
  · rfl

end Registry

namespace Api
open Http
open Rehearsal
open Store (Reply)
open Store.Memory (Linked State aliceWith aliceWith_reached step)

/-! ### Look-ups -/

/-- Who brings the administrators' token is one of them. -/
theorem administrator_of_token {settings : Settings} {request : Http.Request}
    (hconfigured : settings.adminToken ≠ "")
    (htoken : request.header? "x-admin-token" = some settings.adminToken) :
    isAdministrator settings request = true := by
  simp [isAdministrator, htoken, hconfigured]

/-- The request is an administrator's look-up of this text, and has time. -/
structure LooksUp (settings : Settings) (now : Float) (request : Http.Request) (text : String) :
    Prop where
  routed : route request.method request.path = .ok .lookUpAccount
  entitled : request.header? "x-admin-token" = some settings.adminToken
  seeks : request.query? "email" = some text
  live : (contextOf settings now request : Context String).isDone now = false

/-- The answer to a look-up that the store replies to. -/
def lookUpAnswer : Reply → Response
  | .nothing => .accountNotFound
  | account => shown 200 AccountView.json (AccountView.ofReply? account)

/-- The answer shows the account with this identifier. -/
def Shows (account : Uuid) (answer : Response) : Prop :=
  ∃ a : Account, a.id = account ∧ answer = .ofJson 200 (AccountView.ofAccount a).json

section LookUps
variable {settings : Settings} {request : Http.Request} {w : World} {text : String}
  (h : LooksUp settings w.clock request text) (hconfigured : settings.adminToken ≠ "")
  (hlength : minQueryLength ≤ text.length)
include h hconfigured hlength

/-- A look-up ends with what the store says of the normal form of its text. -/
theorem LooksUp.run {reply : Reply}
    (hstep : step (.accountByEmail (Address.normalize text)) w.memory = (.ok reply, w.memory)) :
    (serve settings (requestIdOf request .lookUpAccount) request .lookUpAccount).run
        (plainHandler .console (contextOf settings w.clock request)) w =
      (.ok (lookUpAnswer reply), w) := by
  show (lookUpAccount settings (requestIdOf request .lookUpAccount) request).run _ w = _
  unfold lookUpAccount administered
  rw [if_pos (administrator_of_token hconfigured h.entitled)]
  simp only [h.seeks]
  rw [if_neg (Nat.not_lt.2 hlength)]
  show (Registry.stored _ _ (.accountByEmail (Address.normalize text)) >>= _).run _ w = _
  rw [Registry.run_stored h.live hstep]
  split
  · rfl
  · rename_i hfound
    rw [lookUpAnswer]
    · rfl
    · exact hfound

theorem LooksUp.notFound (hnone : w.memory.owner? (Address.normalize text) = none) :
    exchange settings .none request w = (.accountNotFound, w) :=
  exchange_served h.routed
    (h.run hconfigured hlength (Store.Memory.step_accountByEmail_unowned hnone))

/-- An account with its edges is shown to who looks up an address of its. -/
theorem LooksUp.found (hlinked : Linked w.memory) {owner : Uuid}
    (howner : w.memory.owner? (Address.normalize text) = some owner)
    (hknown : w.memory.knows owner = true) :
    Shows owner (exchange settings .none request w).1 := by
  obtain ⟨a, ha⟩ := Store.Memory.buildAccount_of_linked hlinked hknown true
  refine ⟨a, Store.Memory.buildAccount_id ha, ?_⟩
  rw [exchange_served h.routed
    (h.run hconfigured hlength (Store.Memory.step_accountByEmail_owned howner ha))]
  simp [lookUpAnswer, Reply.ofAccount?, AccountView.ofReply?, shown]

end LookUps

/-! ### Texts that were claimed -/

/-- A caller who is known has an account. -/
theorem knows_of_identifies {s : State} {request : Http.Request} {account : Uuid}
    (h : Identifies s request account) : s.knows account = true := by
  obtain ⟨credentials, hash, -, hstored, -⟩ := h
  obtain ⟨⟨profile, hprofile⟩, -⟩ := account_of_credential hstored
  exact Option.isSome_iff_exists.2 ⟨profile, Table.get?_eq_some_iff.2 hprofile⟩

/-- **A text that was claimed finds its account where it is stored as it is looked up.** Over any
memory store that seeding comes to and at any pace, a claim that is answered 201 stores its account
under the normal form of what it reads off its text. The next look-up of the same text by an
administrator shows this account if the text itself has the same normal form, as it has if it is
in ASCII, without brackets, and was read in ASCII. Otherwise it shows whoever owned the other form
before, or finds nobody. -/
theorem claimed_text_finds_account (settings : Settings) (pace : Pace) (w : World)
    (hconfigured : settings.adminToken ≠ "") (hlinked : Linked w.memory)
    {claim : Http.Request} {text : String}
    (hroute : route claim.method claim.path = .ok .addEmail)
    (htext : bodyText? claim "email" = some text)
    (hcreated : (exchange settings pace.interposition claim w).1.status = 201) :
    let claimed := exchange settings pace.interposition claim w
    ∃ account read view, Identifies w.memory claim account ∧ Mailbox.read? text = some read ∧
      claimed.1 = .ofJson 201 (EmailView.json view) ∧ view.accountId = some account ∧
      ('<' ∉ text.toList → (∀ c ∈ text.toList, Text.isAscii c = true) →
        (∀ c ∈ read.toList, Text.isAscii c = true) →
        Address.normalize text = Address.normalize read) ∧
      ∀ (lookUp : Http.Request) (now : Float), LooksUp settings now lookUp text →
        let answer := (exchange settings .none lookUp {claimed.2 with clock := now}).1
        (Address.normalize text = Address.normalize read → Shows account answer) ∧
        (Address.normalize text ≠ Address.normalize read →
          (∀ owner, w.memory.owner? (Address.normalize text) = some owner →
            w.memory.knows owner = true → Shows owner answer) ∧
          (w.memory.owner? (Address.normalize text) = none → answer = .accountNotFound)) := by
  obtain ⟨account, form, r, hidentifies, hsubmits, hgranted, -, hanswer⟩ :=
    answer_of_created hroute hcreated
  have hread : Mailbox.read? text = some form.email :=
    email_eq_ok_iff.1 (email_of_submits hsubmits htext)
  generalize exchange settings pace.interposition claim w = claimed at hanswer hgranted ⊢
  have hlinkedAfter := hgranted.linked hlinked
  have hknows := hgranted.knows
  have howner := hgranted.owner? (Address.normalize text)
  refine ⟨account, form.email, .ofRecord r, hidentifies, hread, hanswer, hgranted.claimed.owner,
    Mailbox.normalize_eq_of_ascii hread, fun lookUp now hlooksUp => ?_⟩
  -- the world in which the look-up arrives
  let arrived : World := {claimed.2 with clock := now}
  have hseeks : LooksUp settings arrived.clock lookUp text := hlooksUp
  have hlength : minQueryLength ≤ text.length := Mailbox.length_of_read? hread
  refine ⟨fun hsame => ?_, fun hother => ⟨fun owner hearlier hknown => ?_, fun hnone => ?_⟩⟩
  · rw [if_pos hsame.symm] at howner
    refine hseeks.found hconfigured hlength hlinkedAfter howner ?_
    exact (congrFun hknows account).trans (knows_of_identifies hidentifies)
  · rw [if_neg (Ne.symm hother), hearlier] at howner
    refine hseeks.found hconfigured hlength hlinkedAfter howner ?_
    exact (congrFun hknows owner).trans hknown
  · rw [if_neg (Ne.symm hother), hnone] at howner
    exact congrArg Prod.fst (hseeks.notFound hconfigured hlength howner)

/-! ### A text that composes -/

/-- The settings with a token for administrators. -/
def withToken : Settings := {Settings.default with adminToken := "t"}

/-- A claim of a small e with an acute accent of its own. -/
def accentClaims : Http.Request :=
  {aliceClaims with body := "\x7b\"email\": \"e\\u0301@x.com\"\x7d"}

/-- A look-up of the text that was claimed. -/
def accentLooksUp : Http.Request :=
  ⟨"GET", "/v1/admin/accounts", [("email", "e\u0301@x.com")], [("x-admin-token", "t")], ""⟩

/-- The claim composes both characters to one, and its own text finds nobody. -/
theorem claimed_text_finds_account_uncomposed :
    ∃ hash, Password.hashWith "alice-password" "$2b$04$abcdefghijklmnopqrstuu" = .ok hash ∧
      let claimed := exchange withToken .none accentClaims
        {oneAccount hash with memory := aliceWith hash}
      claimed.1.status = 201 ∧
      (∃ view : EmailView, claimed.1 = .ofJson 201 view.json ∧ view.accountId.isSome = true) ∧
      (exchange withToken .none accentLooksUp {claimed.2 with clock := 0}).1 = .accountNotFound := by
  obtain ⟨hash, hhash⟩ := exists_hash
  refine ⟨hash, hhash, ?_⟩
  -- the claim
  have hroute : route accentClaims.method accentClaims.path = .ok .addEmail := by decide +kernel
  have hlive : (contextOf withToken 0 accentClaims : Context String).isDone 0 = false := by
    decide +kernel
  have htext : bodyText? accentClaims "email" = some "e\u0301@x.com" := by decide +kernel
  have hread : Form.email (.string "e\u0301@x.com") = .ok "\u00e9@x.com" := by decide +kernel
  have hcredentials : Credentials.read? accentClaims = some ⟨"alice", "alice-password"⟩ := by
    decide +kernel
  have hlooksUp : LooksUp withToken 0 accentLooksUp "e\u0301@x.com" :=
    ⟨by decide +kernel, by decide +kernel, by decide +kernel, by decide +kernel⟩
  have hother : Address.normalize "e\u0301@x.com" ≠ Address.normalize "\u00e9@x.com" := by
    decide +kernel
  have hconfigured : withToken.adminToken ≠ "" := by decide
  have hstored : Store.Memory.credential "alice" (aliceWith hash) (aliceWith hash).accounts.rows =
      .ok (some (⟨1⟩, hash)) := rfl
  have hunknown (address : String) : (aliceWith hash).emails.get? address = none :=
    Table.get?_empty _
  have hlinked := (aliceWith_reached hash).linked
  obtain ⟨w, hw, hmemory, hclock⟩ : ∃ w : World,
      w = {oneAccount hash with memory := aliceWith hash} ∧ w.memory = aliceWith hash ∧
        w.clock = 0 := ⟨_, rfl, rfl, rfl⟩
  rw [← hw]
  rw [← hmemory] at hstored hunknown hlinked
  rw [← hclock] at hlive
  have hidentifies := identifies_alice hhash hcredentials hstored
  generalize accentClaims = claim at hroute hlive htext hidentifies ⊢
  generalize accentLooksUp = lookUp at hlooksUp ⊢
  generalize withToken = settings at hlive hlooksUp hconfigured ⊢
  obtain ⟨hcreated, -⟩ :=
    unknown_claim_answered hroute hlive hidentifies (submits_of_email htext hread) (hunknown _)
  have hfinds := claimed_text_finds_account settings .steady w hconfigured hlinked hroute htext
  rw [Pace.steady_interposition] at hfinds
  obtain ⟨account, read, view, -, hreads, hshown, howner, -, hanswer⟩ := hfinds hcreated
  obtain rfl : read = "\u00e9@x.com" :=
    Option.some.inj (hreads.symm.trans (email_eq_ok_iff.1 hread))
  refine ⟨hcreated, ⟨view, hshown, by rw [howner]; rfl⟩, ?_⟩
  obtain ⟨-, hmissed⟩ := hanswer lookUp 0 hlooksUp
  refine (hmissed hother).2 ?_
  rw [State.owner?, hunknown]
  rfl

end Api
end EmailOwnership
