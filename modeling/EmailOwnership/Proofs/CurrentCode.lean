import EmailOwnership.Proofs.Crowd.Settled
import EmailOwnership.Proofs.Memory.Issue
import EmailOwnership.Proofs.Registry.Outcome
import EmailOwnership.Rehearsal.Crowd
import Mathlib.Data.List.Induction

/-! The code by which an address becomes verified.

A verification looks the code up and then, by a second call, marks the address for the
account that it found; the second call asks for the owner and not for the code. So what is
verified is the record of that account with the code that it has by then: the code that was
looked up, unless another was issued for the address in between (`verified_code`). -/
namespace EmailOwnership.Rehearsal
open Store (Call Reply)
open Store.Memory (State step issued?)

/-! ### Codes issued along a run -/

/-- The code that a turn issues for an address. -/
def Crowd.issue? {α : Type} (address : String) (c : Crowd α) : Turn → Option String
  | .proceed k =>
    if c.interrupted k then none
    else (c.call? (.proceed k)).bind fun call => issued? address call c.world.memory
  | _ => none

/-- In the course of these turns a code other than `code` is the last one issued for the address. -/
def Crowd.Supersedes {α : Type} (c : Crowd α) (turns : List Turn) (address code : String) : Prop :=
  ∃ last, (c.collect (Crowd.issue? address) turns).getLast? = some last ∧ last ≠ code

section Issued
variable {α : Type} {c : Crowd α} {address : String}

theorem take_code (t : Turn) {r : EmailRecord} (hr : (c.take t).record? address = some r) :
    c.issue? address t = some r.code ∨
      c.issue? address t = none ∧ ∃ old, c.record? address = some old ∧ old.code = r.code := by
  have hsame : c.issue? address t = none → (c.take t).world.memory = c.world.memory →
      c.issue? address t = some r.code ∨
        c.issue? address t = none ∧ ∃ old, c.record? address = some old ∧ old.code = r.code := by
    intro hnone hm
    rw [Crowd.record?, hm] at hr
    exact .inr ⟨hnone, r, hr, rfl⟩
  cases c.take_advance t with
  | quiet hcall hm _ =>
    refine hsame ?_ hm
    cases t with
    | proceed k => simp [Crowd.issue?, hcall]
    | _ => rfl
  | @aside k effect next reply hp he hm _ _ =>
    refine hsame ?_ hm
    have hcall := Crowd.call?_proceed hp
    cases effect with
    | store call => exact absurd rfl (he call)
    | _ => simp [Crowd.issue?, hcall]
  | refused hint _ hm _ _ => exact hsame (by simp [Crowd.issue?, hint]) hm
  | @performed k call next hlive hp hm _ _ =>
    have hissue : c.issue? address (.proceed k) = issued? address call c.world.memory := by
      simp [Crowd.issue?, hlive, Crowd.call?_proceed hp]
    rw [hissue]
    rw [Crowd.record?, hm] at hr
    exact Store.Memory.step_codeOrigin call c.world.memory r hr

/-- A record's code is the last one issued since, or the one that it had. -/
theorem run_code {found : EmailRecord} (hfound : c.record? address = some found)
    (turns : List Turn) {r : EmailRecord} (hr : (c.run turns).record? address = some r) :
    r.code = (c.collect (Crowd.issue? address) turns).getLastD found.code := by
  induction turns using List.reverseRecOn generalizing r with
  | nil =>
    rw [show (c.run []).record? address = c.record? address from rfl, hfound] at hr
    cases hr
    rfl
  | append_singleton turns t ih =>
    rw [Crowd.run_append] at hr
    rw [Crowd.collect_concat]
    rcases take_code t hr with hissue | ⟨hnone, old, hold, hcode⟩
    · rw [hissue, Option.toList_some, List.getLastD_concat]
    · rw [hnone, Option.toList_none, List.append_nil, ← hcode]
      exact ih hold

theorem code_eq_iff {found : EmailRecord} (hfound : c.record? address = some found)
    {turns : List Turn} {r : EmailRecord} (hr : (c.run turns).record? address = some r) :
    r.code = found.code ↔ ¬ c.Supersedes turns address found.code := by
  rw [run_code hfound turns hr, List.getLastD_eq_getLast?]
  unfold Crowd.Supersedes
  cases (c.collect (Crowd.issue? address) turns).getLast? with
  | none => simp
  | some last => simp

end Issued
/-! ### The two calls of a verification -/

/-- A verification as a request. -/
def verification (requestId email code : String) : Program Result :=
  .verification <$> Verification.verifyEmail requestId email code

/-- What is left of it when its code has been found with an account. -/
def marking (requestId : String) (account : Uuid) (address : String) : Program Result :=
  .verification <$> (do
    Registry.verify requestId account address
    pure .success)

section Calls
variable (requestId email code : String)

/-- The first call looks the code up: with an account found the mark is left, else nothing. -/
theorem verification_asks :
    ∃ next, verification requestId email code =
        .ask (.store (.accountByCode (Address.normalize email) code)) next ∧
      (∀ fault, ∃ outcome, (next (.error fault)).settled? = some outcome) ∧
      ∀ s reply s', step (.accountByCode (Address.normalize email) code) s = (.ok reply, s') →
        (∃ outcome, (next (.ok reply)).settled? = some outcome) ∨
        ∃ r account, s.emails.get? (Address.normalize email) = some r ∧ r.owner = some account ∧
          r.code = code ∧
          next (.ok reply) = marking requestId account (Address.normalize email) := by
  obtain ⟨next, hask, hok, herror⟩ := Registry.stored_bind_ask "lookup_code"
    (Registry.details requestId "lookup_code" [("address", .text (Address.normalize email))])
    (.accountByCode (Address.normalize email) code) _
  refine ⟨fun reply => .verification <$> next reply, ?_, fun fault => ?_, fun s reply s' hs => ?_⟩
  · exact congrArg (Result.verification <$> ·) hask
  · obtain ⟨e, he⟩ := herror fault
    exact ⟨_, by rw [Program.settled?_map, he]; rfl⟩
  · rcases Store.Memory.step_accountByCode hs with rfl | ⟨r, a, hr, ho, hcode, rfl⟩
    · refine .inl ⟨.ok (.verification .invalidCode), ?_⟩
      rw [Program.settled?_map, hok]
      rfl
    · refine .inr ⟨r, a.id, hr, ho, hcode, ?_⟩
      show Result.verification <$> next (.ok (.ofAccount? (some a))) = _
      rw [hok]
      rfl

/-- The second call marks the address, and settles the verification. -/
theorem marking_asks (account : Uuid) (address : String) :
    ∃ next, marking requestId account address =
        .ask (.store (.markVerified address account)) next ∧
      ∀ reply, ∃ outcome, (next reply).settled? = some outcome := by
  obtain ⟨next, hask, hok, herror⟩ := Registry.stored_bind_ask "verify"
    (Registry.details requestId "verify" [("address", .text address), ("account_id", .id account)])
    (.markVerified address account) _
  refine ⟨fun reply => .verification <$> (next reply >>= fun _ => pure .success), ?_, fun reply => ?_⟩
  · exact congrArg (fun p => Result.verification <$> (p >>= fun _ => pure Verification.success)) hask
  · obtain ⟨outcome, ho⟩ : ∃ outcome, (next reply).settled? = some outcome := by
      cases reply with
      | error fault =>
        obtain ⟨e, he⟩ := herror fault
        exact ⟨_, he⟩
      | ok reply =>
        rw [hok]
        split <;> exact ⟨_, rfl⟩
    show ∃ outcome, (Result.verification <$> (next reply >>= fun _ => pure .success)).settled? = _
    rw [Program.settled?_map, Program.settled?_bind, ho]
    cases outcome <;> exact ⟨_, rfl⟩

end Calls

/-! ### How far a verification is -/

/-- The request at `k` has not looked its code up, has found it with an account by its last turn,
or will do no more. -/
inductive Verifying (requestId email code : String) (start : Crowd Result) (k : Nat)
    (past : List Turn) : Prop
  | unread : (start.run past).program? k = some (verification requestId email code) →
    Verifying requestId email code start k past
  | found {before window : List Turn} {r : EmailRecord} {account : Uuid} :
    past = before ++ .proceed k :: window → .proceed k ∉ window →
    ((start.run before).take (.proceed k)).world.memory = (start.run before).world.memory →
    (start.run before).record? (Address.normalize email) = some r → r.owner = some account →
    r.code = code →
    (start.run past).program? k = some (marking requestId account (Address.normalize email)) →
    Verifying requestId email code start k past
  | settled {outcome : Except Failure Result} : (start.run past).settled? k = some outcome →
    Verifying requestId email code start k past

section Verifying
variable {requestId email code : String} {start : Crowd Result} {k : Nat} {past : List Turn}

theorem Verifying.concat (h : Verifying requestId email code start k past) (t : Turn) :
    Verifying requestId email code start k (past ++ [t]) := by
  by_cases ht : t = .proceed k
  · subst ht
    cases h with
    | unread hp =>
      obtain ⟨next, hask, herror, hreply⟩ := verification_asks requestId email code
      rw [hask] at hp
      rcases Crowd.take_store hp with ⟨_, m, hk⟩ | ⟨hm, hk⟩
      · obtain ⟨outcome, ho⟩ := herror (.interrupted m)
        exact .settled (by rw [Crowd.run_concat, Crowd.settled?_eq hk, ho])
      · rcases hs : step (.accountByCode (Address.normalize email) code)
          (start.run past).world.memory with ⟨reply | reply, s'⟩
        · obtain ⟨outcome, ho⟩ := herror reply
          rw [hs] at hk
          exact .settled (by rw [Crowd.run_concat, Crowd.settled?_eq hk, ho])
        · rw [hs] at hk
          rcases hreply _ _ _ hs with ⟨outcome, ho⟩ | ⟨r, account, hr, howner, hcode, hnext⟩
          · exact .settled (by rw [Crowd.run_concat, Crowd.settled?_eq hk, ho])
          · refine .found (show past ++ [.proceed k] = past ++ .proceed k :: [] from rfl)
              List.not_mem_nil ?_ hr howner hcode ?_
            · rw [hm, Store.Memory.step_of_read rfl]
            · rw [Crowd.run_concat, hk, hnext]
    | @found before window r account hpast hlast hkept hr howner hcode hp =>
      obtain ⟨next, hask, hreply⟩ := marking_asks requestId account (Address.normalize email)
      rw [hask] at hp
      rcases Crowd.take_store hp with ⟨_, m, hk⟩ | ⟨_, hk⟩
      · obtain ⟨outcome, ho⟩ := hreply (.error (.interrupted m))
        exact .settled (by rw [Crowd.run_concat, Crowd.settled?_eq hk, ho])
      · obtain ⟨outcome, ho⟩ := hreply (step (.markVerified (Address.normalize email) account)
          (start.run past).world.memory).1
        exact .settled (by rw [Crowd.run_concat, Crowd.settled?_eq hk, ho])
    | settled ho => exact .settled (by rw [Crowd.run_concat]; exact Crowd.settled?_take ho _)
  · have hsame : (start.run (past ++ [t])).program? k = (start.run past).program? k := by
      rw [Crowd.run_concat]
      exact Crowd.program?_of_ne ht
    cases h with
    | unread hp => exact .unread (hsame.trans hp)
    | @found before window r account hpast hlast hkept hr howner hcode hp =>
      have hlonger : past ++ [t] = before ++ .proceed k :: (window ++ [t]) := by
        rw [hpast, List.append_assoc, List.cons_append]
      refine .found hlonger ?_ hkept hr howner hcode (hsame.trans hp)
      rw [List.mem_append, List.mem_singleton]
      rintro (hw | hw)
      · exact hlast hw
      · exact ht hw.symm
    | settled ho => exact .settled (by rw [Crowd.settled?_congr hsame]; exact ho)

theorem verifying (hk : start.program? k = some (verification requestId email code))
    (past : List Turn) : Verifying requestId email code start k past := by
  induction past using List.reverseRecOn with
  | nil => exact .unread hk
  | append_singleton past t ih => exact ih.concat t

end Verifying
/-! ### What is verified -/

theorem start_verification {codeLength : Nat} {requests : List Request} {k : Nat}
    {context : Context String} {email code : String}
    (hk : requests[k]? = some ⟨context, .verifyEmail email code⟩) (w : World) :
    (Crowd.start codeLength requests w).program? k =
      some (verification context.requestId email code) := by
  simp only [Crowd.program?, Crowd.start, List.getElem?_map, hk, Option.map_some]
  rfl

/-- **What a verification verifies.** If a turn of a verification makes an unverified record
verified, then the record is at the address that was asked for and nothing else of it changes. The
verification has looked its code up before, in a record with this code and the same owner, and the
record has this code still exactly if no other was the last one issued for the address since. -/
theorem verified_code (codeLength : Nat) (requests : List Request) (w : World) {k : Nat}
    {context : Context String} {email code : String}
    (hk : requests[k]? = some ⟨context, .verifyEmail email code⟩) (past : List Turn)
    {address : String} {r r' : EmailRecord}
    (hr : ((Crowd.start codeLength requests w).run past).record? address = some r)
    (hunverified : r.verified = false)
    (hr' : (((Crowd.start codeLength requests w).run past).take (.proceed k)).record? address =
      some r')
    (hverified : r'.verified = true) :
    let start := Crowd.start codeLength requests w
    address = Address.normalize email ∧ r' = {r with verified := true} ∧
    ∃ before window found account, past = before ++ .proceed k :: window ∧ .proceed k ∉ window ∧
      (start.run before).record? address = some found ∧ found.code = code ∧
      found.owner = some account ∧ r.owner = some account ∧
      (r.code = code ↔ ¬ ((start.run before).take (.proceed k)).Supersedes window address code) := by
  intro start
  -- a turn that leaves the store alone verifies nothing
  have hmoved : ((start.run past).take (.proceed k)).world.memory ≠ (start.run past).world.memory := by
    intro hm
    rw [Crowd.record?, hm] at hr'
    rw [show (start.run past).world.memory.emails.get? address = some r from hr] at hr'
    cases hr'
    rw [hunverified] at hverified
    cases hverified
  cases verifying (start_verification hk w) past with
  | unread hp =>
    obtain ⟨next, hask, -⟩ := verification_asks context.requestId email code
    rw [hask] at hp
    rcases Crowd.take_store hp with ⟨hm, -⟩ | ⟨hm, -⟩
    · exact absurd hm hmoved
    · rw [Store.Memory.step_of_read rfl] at hm
      exact absurd hm hmoved
  | settled ho => exact absurd (Crowd.memory_of_settled ho) hmoved
  | @found before window found account hpast hlast hkept hfound howner hcode hp =>
    obtain ⟨next, hask, -⟩ := marking_asks context.requestId account (Address.normalize email)
    rw [hask] at hp
    rcases Crowd.take_store hp with ⟨hm, -⟩ | ⟨hm, -⟩
    · exact absurd hm hmoved
    · rw [Crowd.record?, hm] at hr'
      obtain ⟨rfl, ho, hset⟩ := Store.Memory.mark_verifies hr hr' hunverified hverified
      have hthen : ((start.run before).take (.proceed k)).record? (Address.normalize email) =
          some found := by
        rw [Crowd.record?, hkept]
        exact hfound
      have hnow : (((start.run before).take (.proceed k)).run window).record?
          (Address.normalize email) = some r := by
        rw [← hr, hpast, Crowd.run_append]
        rfl
      refine ⟨rfl, hset, before, window, found, account, hpast, hlast, hfound, hcode, howner, ho, ?_⟩
      rw [← hcode]
      exact code_eq_iff hthen hnow

/-- An account and its unverified address. -/
def claimed : State :=
  (step (.createEmail "a@x.com" (some ⟨1⟩) "111111")
    (Store.Memory.addAccount "alice" none (some ⟨1⟩) .empty).2).2

/-- A verification with the first code, and a further claim that brings a second one. -/
def superseding : List Request :=
  [⟨.new "r" none, .verifyEmail "a@x.com" "111111"⟩,
    ⟨.new "s" none, .add ⟨1⟩ "a@x.com" "222222"⟩]

/-- The first code is looked up before the second is issued. -/
def lookedUpEarly : List Turn := [.proceed 0, .proceed 1, .proceed 1, .proceed 1]

/-- **A superseded code verifies** when it was looked up before the new one was issued. -/
theorem verified_code_superseded :
    let start := Crowd.start 6 superseding ⟨claimed, 0, .standard, []⟩
    (start.run lookedUpEarly).record? "a@x.com" =
      some ⟨.drawn 1, "a@x.com", some ⟨1⟩, "222222", false⟩ ∧
    ((start.run lookedUpEarly).take (.proceed 0)).record? "a@x.com" =
      some ⟨.drawn 1, "a@x.com", some ⟨1⟩, "222222", true⟩ ∧
    ∃ before window, lookedUpEarly = before ++ .proceed 0 :: window ∧
      ((start.run before).take (.proceed 0)).Supersedes window "a@x.com" "111111" := by
  intro start
  have hr : (start.run lookedUpEarly).record? "a@x.com" =
      some ⟨.drawn 1, "a@x.com", some ⟨1⟩, "222222", false⟩ := by decide +kernel
  have hr' : ((start.run lookedUpEarly).take (.proceed 0)).record? "a@x.com" =
      some ⟨.drawn 1, "a@x.com", some ⟨1⟩, "222222", true⟩ := by decide +kernel
  obtain ⟨-, -, before, window, _, _, hpast, -, -, -, -, -, hcode⟩ :=
    verified_code 6 superseding ⟨claimed, 0, .standard, []⟩ (k := 0) rfl lookedUpEarly hr rfl hr' rfl
  refine ⟨hr, hr', before, window, hpast, not_not.1 fun h => ?_⟩
  exact absurd (hcode.2 h) (by decide)

end EmailOwnership.Rehearsal
