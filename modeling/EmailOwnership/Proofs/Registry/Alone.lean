import EmailOwnership.Proofs.Memory.Filing
import EmailOwnership.Proofs.Memory.Issue
import EmailOwnership.Proofs.Program.Alone
import EmailOwnership.Proofs.Registry.Course
import EmailOwnership.Proofs.Registry.Decision

/-! What the registry and the verification flow may do when they have the store to themselves.

One lemma for each operation says how it can end, with what it leaves in the store and what it
delivers, wherever the request may be cut short. Registry operations that fail leave the store
as it is. Only `addEmail` has its effect before its last call: a claim that was granted is read
back before its code goes to the sender (`Adds`). -/
namespace EmailOwnership.Registry
open Program (Alone alone_done alone_call alone_log alone_bind)
open Rehearsal
open Store (Call Fault Reply)
open Store.Memory (State step)
variable {α : Type} {requestId operation address code : String} {details : Details}
  {account : Uuid} {sender : Sender} {s s' : State} {sent : List (String × String)}

/-! ### Single calls -/

/-- If this is an error of the registry, it has these details. -/
def Blames (details : Details) (e : Failure) : Prop :=
  ∀ error, e = .registry error → error.details = details

theorem blames_emptyCode : Blames details .emptyCode := fun _ h => by cases h

theorem blames_refusal (r : Refusal) : Blames details (refusal r details) := fun _ h => by
  cases h
  rfl

theorem blames_raised (fault : Fault) : Blames details (raised details fault) := fun _ h => by
  unfold raised at h
  split at h <;> cases h
  rfl

/-- A course that fails, reports these details and does nothing. -/
def Fails (details : Details) (s : State) (o : Except Failure α) (s' : State)
    (sent : List (String × String)) : Prop :=
  ∃ e, Blames details e ∧ o = .error e ∧ s' = s ∧ sent = []

theorem alone_report {fault : Fault} {o : Except Failure α}
    (h : Alone sender (report operation details fault) s o s' sent) :
    o = .error (raised details fault) ∧ s' = s ∧ sent = [] := by
  unfold report at h
  split at h
  · exact alone_done.1 (alone_log (f := fun _ => .fail _) rfl h)
  · exact alone_done.1 h

/-- A call that the store would answer is cut short, or answered. -/
theorem alone_answered {c : Call} {reply : Reply} (hanswer : (step c s).1 = .ok reply)
    {f : Reply → Program α} {o : Except Failure α}
    (h : Alone sender (stored operation details c >>= f) s o s' sent) :
    (∃ message, o = .error (raised details (.interrupted message)) ∧ s' = s ∧ sent = []) ∨
      Alone sender (f reply) (step c s).2 o s' sent := by
  rw [stored_bind] at h
  rcases alone_call h with ⟨message, h⟩ | h
  · exact .inl ⟨message, alone_report h⟩
  · rw [hanswer] at h
    exact .inr h

/-- A stored call fails and leaves the store alone, or is answered. -/
theorem alone_stored {c : Call} {f : Reply → Program α} {o : Except Failure α}
    (h : Alone sender (stored operation details c >>= f) s o s' sent) :
    Fails details s o s' sent ∨
      ∃ reply, (step c s).1 = .ok reply ∧ Alone sender (f reply) (step c s).2 o s' sent := by
  cases hanswer : (step c s).1 with
  | ok reply =>
    rcases alone_answered hanswer h with ⟨message, hcut⟩ | h
    · exact .inl ⟨_, blames_raised _, hcut⟩
    · exact .inr ⟨reply, rfl, h⟩
  | error fault =>
    rw [stored_bind] at h
    rcases alone_call h with ⟨message, h⟩ | h
    · exact .inl ⟨_, blames_raised _, alone_report h⟩
    · have hstay : (step c s).2 = s := Store.Memory.step_fault (Prod.ext hanswer rfl)
      rw [hanswer, hstay] at h
      exact .inl ⟨_, blames_raised _, alone_report h⟩

theorem alone_refuse {r : Refusal} {o : Except Failure α}
    (h : Alone sender (refuse r details) s o s' sent) : Fails details s o s' sent :=
  ⟨_, blames_refusal r, alone_done.1 h⟩

/-! ### Claims -/

/-- What a claim does about what it finds is its write, with a line in the log once that is granted. -/
theorem claim_picked (details : Details) {r? : Option EmailRecord} {c : Call}
    (h : claimWrite? account address code r? = some c) :
    ∃ f entry, entry.delivery? = none ∧
      claim details account address code (.ofRecord? r?) = stored "add" details c >>= f ∧
      ∀ r, f (.ofRecord? (some r)) = (do Program.log entry; pure (.ofRecord? (some r))) := by
  cases r? with
  | none =>
    cases h
    exact ⟨_, .added address account, rfl, claim_unknown, fun _ => rfl⟩
  | some found =>
    by_cases ho : found.owner = none
    · rw [claimWrite?_unowned ho] at h
      cases h
      exact ⟨_, .unownedClaimed address account, rfl, claim_unowned ho, fun _ => rfl⟩
    · simp only [claimWrite?, if_neg ho] at h
      split at h
      · rename_i hown
        cases h
        exact ⟨_, .codeReissued address, rfl, claim_own hown.1 hown.2, fun _ => rfl⟩
      · cases h

theorem claim_refused (details : Details) {r? : Option EmailRecord}
    (h : claimWrite? account address code r? = none) :
    ∃ r, claim details account address code (.ofRecord? r?) = refuse r details := by
  obtain ⟨found, owner, rfl, ho, hverified⟩ := claimWrite?_eq_none_iff.1 h
  by_cases hown : owner = account
  · subst hown
    exact ⟨.verified, claim_verified ho (hverified rfl)⟩
  · exact ⟨.claimed, claim_foreign ho hown⟩

/-- The store after a claim that was granted: the record at the address was unknown, unowned or the
account's own and unverified, and nothing but this record is another one. -/
structure Granted (account : Uuid) (address : String) (codeLength : Nat) (s s' : State)
    (r : EmailRecord) : Prop where
  claimable : ∀ r', s.emails.get? address = some r' →
    r'.owner = none ∨ r'.owner = some account ∧ r'.verified = false
  claimed : Claimed s account address r.code r
  length : r.code.length = codeLength
  store : s' = {s with emails := s.emails.put address r, drawn := s'.drawn}

theorem Granted.get {codeLength : Nat} {r : EmailRecord}
    (h : Granted account address codeLength s s' r) : s'.emails.get? address = some r := by
  rw [h.store]
  exact Table.get?_put_self ..

theorem Granted.frame {codeLength : Nat} {r : EmailRecord}
    (h : Granted account address codeLength s s' r) :
    s' = {s with emails := s'.emails, drawn := s'.drawn} := by
  rw [h.store]

theorem granted_of_picked {c : Call}
    (h : claimWrite? account address code (s.emails.get? address) = some c) :
    ∃ r, (step c s).1 = .ok (.ofRecord? (some r)) ∧
      Granted account address code.length s (step c s).2 r := by
  obtain ⟨r, hreply, hemails, hclaimed⟩ := step_claimWrite h
  refine ⟨r, hreply, fun r' hr' => ?_, ?_, congrArg String.length hclaimed.code, ?_⟩
  · rw [hr'] at h
    by_cases ho : r'.owner = none
    · exact .inl ho
    · simp only [claimWrite?, if_neg ho] at h
      split at h
      · rename_i hown
        exact .inr hown
      · cases h
  · rw [hclaimed.code]
    exact hclaimed
  · rw [← hemails]
    exact (Store.Memory.step_edit c s).frame

/-- **A claim fails and does nothing, or it is granted.** -/
theorem alone_add {o : Except Failure Reply}
    (h : Alone sender (add requestId account address code) s o s' sent) :
    Fails (claimDetails requestId account address) s o s' sent ∨
      ∃ r, Granted account address code.length s s' r ∧ o = .ok (.ofRecord? (some r)) ∧
        sent = [] := by
  by_cases hcode : code = ""
  · subst hcode
    exact .inl ⟨.emptyCode, blames_emptyCode, alone_done.1 h⟩
  · rw [add_of_code hcode] at h
    rcases alone_stored h with hfails | ⟨look, hlook, h⟩
    · exact .inl hfails
    · cases hlook
      rw [Store.Memory.step_of_read rfl] at h
      cases hpick : claimWrite? account address code (s.emails.get? address) with
      | none =>
        obtain ⟨r, hrefused⟩ := claim_refused (claimDetails requestId account address) hpick
        rw [hrefused] at h
        exact .inl (alone_refuse h)
      | some c =>
        obtain ⟨f, entry, hentry, hclaim, hf⟩ :=
          claim_picked (claimDetails requestId account address) hpick
        rw [hclaim] at h
        rcases alone_stored h with hfails | ⟨reply, hreply, h⟩
        · exact .inl hfails
        · obtain ⟨r, hwritten, hgranted⟩ := granted_of_picked hpick
          rw [hwritten] at hreply
          cases hreply
          rw [hf] at h
          obtain ⟨rfl, rfl, rfl⟩ := alone_done.1 (alone_log hentry h)
          exact .inr ⟨r, hgranted, rfl, rfl⟩

/-! ### The other operations -/

/-- A provisioning fails and does nothing, or creates an unowned record. -/
theorem alone_provision {o : Except Failure Reply}
    (h : Alone sender (provision requestId address code) s o s' sent) :
    Fails (Registry.details requestId "provision" [("address", .text address)]) s o s' sent ∨
      s.emails.get? address = none ∧ o = .ok (.ofRecord? (some (s.fresh address none code))) ∧
        s' = {s with
          emails := s.emails.put address (s.fresh address none code)
          drawn := s.drawn + 1} ∧
        sent = [] := by
  unfold provision at h
  split at h
  · exact .inl ⟨.emptyCode, blames_emptyCode, alone_done.1 h⟩
  · rcases alone_stored h with hfails | ⟨reply, hreply, h⟩
    · exact .inl hfails
    · cases hr : s.emails.get? address with
      | some r =>
        rw [Store.Memory.step_create_known hr] at hreply h
        cases hreply
        exact .inl (alone_refuse h)
      | none =>
        rw [Store.Memory.step_create hr] at hreply h
        cases hreply
        exact .inr ⟨rfl, alone_done.1 (alone_log (f := fun _ => pure _) rfl h)⟩

/-- The code of a record is read back, unless that is cut short. -/
theorem alone_getCode {r : EmailRecord} (hr : s.emails.get? address = some r)
    {o : Except Failure Store.Value} (h : Alone sender (getCode requestId address) s o s' sent) :
    ((∃ message, o = .error (raised
          (Registry.details requestId "get_code" [("address", .text address)])
          (.interrupted message))) ∨
        o = .ok (.text r.code)) ∧ s' = s ∧ sent = [] := by
  have hlook : (step (.getEmail address) s).1 = .ok (.ofRecord? (some r)) :=
    congrArg (fun r? => Except.ok (Reply.ofRecord? r?)) hr
  rcases alone_answered hlook h with ⟨message, rfl, hs, rfl⟩ | h
  · exact ⟨.inl ⟨message, rfl⟩, hs, rfl⟩
  · obtain ⟨rfl, hs, rfl⟩ := alone_done.1 h
    exact ⟨.inr rfl, hs.trans (Store.Memory.step_of_read rfl s), rfl⟩

/-- Looking a code up does nothing. What it finds is the owner of a record with this code. -/
theorem alone_lookupCode {o : Except Failure Reply}
    (h : Alone sender (lookupCode requestId address code) s o s' sent) :
    s' = s ∧ sent = [] ∧
      ((∃ e, Blames (Registry.details requestId "lookup_code" [("address", .text address)]) e ∧
          o = .error e) ∨
        o = .ok .nothing ∨
        ∃ r a, s.emails.get? address = some r ∧ r.owner = some a.id ∧ r.code = code ∧
          o = .ok (.ofAccount? (some a))) := by
  unfold lookupCode at h
  rw [← Program.bind_pure (stored _ _ _)] at h
  rcases alone_stored h with ⟨e, hblames, rfl, rfl, rfl⟩ | ⟨reply, hreply, h⟩
  · exact ⟨rfl, rfl, .inl ⟨e, hblames, rfl⟩⟩
  · obtain ⟨rfl, hs, rfl⟩ := alone_done.1 h
    refine ⟨hs.trans (Store.Memory.step_of_read rfl s), rfl, .inr ?_⟩
    rcases Store.Memory.step_accountByCode (Prod.ext hreply rfl) with
      rfl | ⟨r, a, hr, ho, hcode, rfl⟩
    · exact .inl rfl
    · exact .inr ⟨r, a, hr, ho, hcode, rfl⟩

/-- The details of a verification. -/
abbrev verifyDetails (requestId : String) (account : Uuid) (address : String) : Details :=
  Registry.details requestId "verify" [("address", .text address), ("account_id", .id account)]

/-- A verification fails and does nothing, or marks the account's record. -/
theorem alone_verify {o : Except Failure Unit}
    (h : Alone sender (verify requestId account address) s o s' sent) :
    Fails (verifyDetails requestId account address) s o s' sent ∨
      ∃ r, s.emails.get? address = some r ∧ r.owner = some account ∧ o = .ok () ∧
        s' = {s with emails := s.emails.put address {r with verified := true}} ∧ sent = [] := by
  rcases alone_stored h with hfails | ⟨reply, hreply, h⟩
  · exact .inl hfails
  · by_cases hown : ∃ r, s.emails.get? address = some r ∧ r.owner = some account
    · obtain ⟨r, hr, ho⟩ := hown
      rw [Store.Memory.step_mark hr ho] at hreply h
      cases hreply
      exact .inr ⟨r, hr, ho, alone_done.1 (alone_log (f := fun _ => pure _) rfl h)⟩
    · rw [Store.Memory.step_mark_lost fun r hr ho => hown ⟨r, hr, ho⟩] at hreply h
      cases hreply
      exact .inl (alone_refuse h)

/-- Looking an account up does nothing. -/
theorem alone_lookupAccount {o : Except Failure Reply}
    (h : Alone sender (lookupAccount requestId address) s o s' sent) :
    s' = s ∧ sent = [] ∧ ∀ e, o = .error e →
      Blames (Registry.details requestId "lookup_account" [("address", .text address)]) e := by
  unfold lookupAccount at h
  rw [← Program.bind_pure (stored _ _ _)] at h
  rcases alone_stored h with ⟨e, hblames, rfl, rfl, rfl⟩ | ⟨reply, -, h⟩
  · refine ⟨rfl, rfl, fun e' he => ?_⟩
    cases he
    exact hblames
  · obtain ⟨rfl, hs, rfl⟩ := alone_done.1 h
    exact ⟨hs.trans (Store.Memory.step_of_read rfl s), rfl, fun e he => by cases he⟩

/-- A removal does nothing, or erases a record of the account. -/
theorem alone_remove {email : Uuid} {o : Except Failure Unit}
    (h : Alone sender (remove requestId account email) s o s' sent) :
    Fails (Registry.details requestId "remove" [("email_id", .id email), ("account_id", .id account)])
        s o s' sent ∨
      o = .ok () ∧ sent = [] ∧
        (s' = s ∨ ∃ x r, s.emails.get? x = some r ∧ r.id = email ∧ r.owner = some account ∧
          s' = {s with emails := s.emails.erase x}) := by
  rcases alone_stored h with hfails | ⟨reply, hreply, h⟩
  · exact .inl hfails
  · obtain ⟨rfl, rfl, rfl⟩ : o = .ok () ∧ s' = (step (.deleteEmail email account) s).2 ∧ sent = [] := by
      split at h
      · exact alone_done.1 (alone_log (f := fun _ => pure _) rfl h)
      · exact alone_done.1 (alone_log (f := fun _ => pure _) rfl h)
    exact .inr ⟨rfl, rfl, Store.Memory.step_delete_cases email account s⟩

end EmailOwnership.Registry

namespace EmailOwnership.Verification
open Program (Alone alone_done alone_bind alone_draw alone_deliver)
open Rehearsal
open Registry (Blames Fails Granted)
open Store (Reply)
open Store.Memory (State)
variable {requestId email code : String} {codeLength : Nat} {account : Uuid} {sender : Sender}
  {s s' : State} {sent : List (String × String)}

/-! ### The verification flow -/

/-- How the claim of an address goes, up to the delivery of its code. -/
inductive Adds (sender : Sender) (requestId : String) (codeLength : Nat) (account : Uuid)
    (address : String) (s : State) :
    Except Failure Reply → State → List (String × String) → Prop
  | unclaimed {e : Failure} : Blames (Registry.claimDetails requestId account address) e →
    Adds sender requestId codeLength account address s (.error e) s []
  -- from here on the claim is granted
  | unread {s' : State} {r : EmailRecord} (message : String) :
    Granted account address codeLength s s' r →
    Adds sender requestId codeLength account address s
      (.error (Registry.raised (Registry.details requestId "get_code" [("address", .text address)])
        (.interrupted message))) s' []
  | undelivered {s' : State} {r : EmailRecord} (message : String) :
    Granted account address codeLength s s' r → sender = .failing message →
    Adds sender requestId codeLength account address s (.error (.delivery message)) s' []
  | delivered {s' : State} {r : EmailRecord} :
    Granted account address codeLength s s' r → sender = .console →
    Adds sender requestId codeLength account address s (.ok (.ofRecord? (some r))) s'
      [(address, r.code)]

/-- **The claim of an address goes one of the ways of `Adds`**, wherever it may be cut short. -/
theorem alone_addEmail {o : Except Failure Reply}
    (h : Alone sender (addEmail requestId codeLength account email) s o s' sent) :
    Adds sender requestId codeLength account (Address.normalize email) s o s' sent := by
  obtain ⟨code, rfl, hdrawn⟩ := alone_draw h
  rcases alone_bind hdrawn with ⟨e, hadd, rfl⟩ | ⟨reply, mid, before, after, rfl, hadd, h⟩
  · rcases Registry.alone_add hadd with ⟨e', hblames, he, rfl, rfl⟩ | ⟨r, -, ho, -⟩
    · cases he
      exact .unclaimed hblames
    · cases ho
  · rcases Registry.alone_add hadd with ⟨e', -, he, -⟩ | ⟨r, hgranted, ho, rfl⟩
    · cases he
    · cases ho
      rcases alone_bind h with ⟨e, hread, rfl⟩ | ⟨value, mid', before, rest, rfl, hread, hsend⟩
      · obtain ⟨⟨message, he⟩ | hok, rfl, rfl⟩ := Registry.alone_getCode hgranted.get hread
        · cases he
          exact .unread message hgranted
        · cases hok
      · obtain ⟨⟨message, he⟩ | hok, rfl, rfl⟩ := Registry.alone_getCode hgranted.get hread
        · cases he
        · cases hok
          rcases alone_deliver hsend with
            ⟨message, hsender, rfl, rfl, rfl⟩ | ⟨rest, hsender, rfl, hrest⟩
          · exact .undelivered message hgranted hsender
          · obtain ⟨rfl, rfl, rfl⟩ := alone_done.1 hrest
            exact .delivered hgranted hsender

/-- How the verification of an address goes. -/
inductive Verifies (requestId address code : String) (s : State) :
    Except Failure Verification → State → Prop
  | unread {e : Failure} :
    Blames (Registry.details requestId "lookup_code" [("address", .text address)]) e →
    Verifies requestId address code s (.error e) s
  | invalid : Verifies requestId address code s (.ok .invalidCode) s
  | unmarked {account : Uuid} {e : Failure} :
    Blames (Registry.verifyDetails requestId account address) e →
    Verifies requestId address code s (.error e) s
  | marked {r : EmailRecord} :
    s.emails.get? address = some r → r.owner ≠ none → r.code = code →
    Verifies requestId address code s (.ok .success)
      {s with emails := s.emails.put address {r with verified := true}}

/-- **A verification goes one of the ways of `Verifies`**, and delivers nothing. -/
theorem alone_verifyEmail {o : Except Failure Verification}
    (h : Alone sender (verifyEmail requestId email code) s o s' sent) :
    Verifies requestId (Address.normalize email) code s o s' ∧ sent = [] := by
  rcases alone_bind h with ⟨e, hlook, rfl⟩ | ⟨reply, mid, before, after, rfl, hlook, h⟩
  · obtain ⟨rfl, rfl, ⟨e', hblames, he⟩ | ho | ⟨r, a, -, -, -, ho⟩⟩ := Registry.alone_lookupCode hlook
    · cases he
      exact ⟨.unread hblames, rfl⟩
    · cases ho
    · cases ho
  · obtain ⟨rfl, rfl, ⟨e', -, he⟩ | ho | ⟨r, a, hr, ho, hcode, hreply⟩⟩ :=
      Registry.alone_lookupCode hlook
    · cases he
    · cases ho
      obtain ⟨rfl, rfl, rfl⟩ := alone_done.1 h
      exact ⟨.invalid, rfl⟩
    · cases hreply
      replace h : Alone sender (Registry.verify requestId a.id (Address.normalize email) >>=
        fun _ => pure success) mid o s' after := h
      rcases alone_bind h with ⟨e, hmark, rfl⟩ | ⟨_, mid', before, after, rfl, hmark, hrest⟩
      · rcases Registry.alone_verify hmark with ⟨e', hblames, he, rfl, rfl⟩ | ⟨_, _, _, ho, _⟩
        · cases he
          exact ⟨.unmarked hblames, rfl⟩
        · cases ho
      · rcases Registry.alone_verify hmark with ⟨_, _, he, _⟩ | ⟨r', hr', -, -, rfl, rfl⟩
        · cases he
        · rw [hr] at hr'
          cases hr'
          obtain ⟨rfl, rfl, rfl⟩ := alone_done.1 hrest
          exact ⟨.marked hr (by simp [ho]) hcode, rfl⟩

/-- A provisioning fails and does nothing, or creates an unowned record. -/
theorem alone_provisionEmail {o : Except Failure Reply}
    (h : Alone sender (provisionEmail requestId codeLength email) s o s' sent) :
    let address := Address.normalize email
    Fails (Registry.details requestId "provision" [("address", .text address)]) s o s' sent ∨
      ∃ code, s.emails.get? address = none ∧
        o = .ok (.ofRecord? (some (s.fresh address none code))) ∧
        s' = {s with
          emails := s.emails.put address (s.fresh address none code)
          drawn := s.drawn + 1} ∧
        sent = [] := by
  obtain ⟨code, -, h⟩ := alone_draw h
  exact (Registry.alone_provision h).imp_right fun hcreated => ⟨code, hcreated⟩

end EmailOwnership.Verification
