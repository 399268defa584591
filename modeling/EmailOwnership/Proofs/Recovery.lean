import EmailOwnership.Proofs.Delivery
import EmailOwnership.Proofs.Interruption
import EmailOwnership.Proofs.Program.Troubled
import EmailOwnership.Proofs.Registry.Flow

/-! Recovery from a delivery that failed.

An attempt to add an address may fail after its claim was granted: reading the code back may be
cut short, and the sender may raise. The claim then stays in the store, and keeps the address:
whatever others do for themselves, the record remains, and their attempts fail (`Reserved`). So
the account can try again. It gets the same record with another code, this code is delivered
once, and with it the address is verified (`failed_delivery_recovers`). -/
namespace EmailOwnership

/-! ### Claims in trouble -/

namespace Registry
open Program (ends_run passes_answered passes_nil passes_run)
open Rehearsal
open Store (Call Reply)
open Store.Memory (step)
variable {requestId address : String} {account : Uuid} {sender : Sender} {t : Trouble}
  {P : Call → Prop}

/-- A claim that succeeds makes the write that the record of that moment calls for, after others
have made their calls, and ends with it. -/
theorem add_in_trouble (code : String) (session : Session)
    (hothers : ∀ m i, ∀ c ∈ t.intrusions m i, P c) {reply : Reply}
    (h : ((add requestId account address code).run
      (sessionHandler t.interposition sender) session).1 = .ok reply) :
    code ≠ "" ∧ ∃ others c, (∀ c ∈ others, P c) ∧
      let met := session.world.memory.after others
      claimWrite? account address code (met.emails.get? address) = some c ∧
      (step c met).1 = .ok reply ∧
      ((add requestId account address code).run
        (sessionHandler t.interposition sender) session).2.world.memory = (step c met).2 := by
  have hends := ends_run (sessionHandler t.interposition sender)
    (add requestId account address code) session
  have hpasses := passes_run hothers sender (add requestId account address code) session
  rw [h] at hends
  rcases ends_add hends with ⟨-, -, hempty⟩ | hclaiming
  · cases hempty
  refine ⟨fun hempty => ?_, ?_⟩
  · subst hempty
    cases h
  · obtain ⟨look, c, hexchanges, hpick, hne⟩ := claiming_granted hclaiming
    rw [hexchanges] at hpasses
    obtain ⟨earlier, hearlier, -, hpasses⟩ := passes_answered hpasses
    obtain ⟨later, hlater, hreply, hpasses⟩ := passes_answered hpasses
    have hmet : (step (.getEmail address) (session.world.memory.after earlier)).2.after later =
        session.world.memory.after (earlier ++ later) := List.foldl_append.symm
    rw [hmet] at hreply hpasses
    refine ⟨earlier ++ later, c, ?_, choice_of_written hpick hreply hne, hreply, ?_⟩
    · intro c hc
      exact (List.mem_append.1 hc).elim (hearlier c) (hlater c)
    · exact passes_nil hpasses

end Registry

namespace Rehearsal
open Program (Passes Writes after_kept ends_run passes_run)
open Registry (add_in_trouble claimWrite? claimWrite?_eq_none_iff claimWrite?_own
  written_of_choice)
open Store (Call Reply)
open Store.Memory (Linked State step step_of_read step_transition)

/-! ### Rivals -/

/-- Nothing is done in the attempt on behalf of the account. -/
structure Attempt.Rivals (account : Uuid) (a : Attempt) : Prop where
  other : a.account ≠ account
  intrusions : ∀ m i, ∀ c ∈ a.trouble.intrusions m i, c.account? ≠ some account

section Rivals
variable {codeLength : Nat} {account : Uuid} {address : String} {r : EmailRecord} {a : Attempt}
  {w : World}

/-- The record of an account is touched by no call of others. -/
theorem record_kept {s : State} {c : Call} (ho : r.owner = some account)
    (hc : c.account? ≠ some account) (hr : s.emails.get? address = some r) :
    (step c s).2.emails.get? address = some r := by
  have hchange := (step_transition c s).change address
  rw [hr] at hchange
  generalize (step c s).2.emails.get? address = r? at hchange
  cases hchange with
  | kept => rfl
  | claimed hnone _ =>
    rw [ho] at hnone
    cases hnone
  | reissued howner _ hmade | verified howner hmade | removed howner hmade =>
    subst hmade
    exact absurd (howner.symm.trans ho) hc

theorem wait_memory (w : World) (after : Option Float) : (w.wait after).memory = w.memory := by
  cases after <;> rfl

/-- Whatever happens in an attempt, it passes from the store before to the store after it. -/
theorem Attempt.passes {P : Call → Prop} (hothers : ∀ m i, ∀ c ∈ a.trouble.intrusions m i, P c)
    (codeLength : Nat) (w : World) :
    Passes P
      ((Verification.addEmail a.context.requestId codeLength a.account a.email).dialogue
        (sessionHandler a.trouble.interposition a.sender) (.start (w.wait a.after) a.context))
      w.memory (a.perform codeLength w).2.memory := by
  have h := passes_run hothers a.sender
    (Verification.addEmail a.context.requestId codeLength a.account a.email)
    (.start (w.wait a.after) a.context)
  rwa [show (Session.start (w.wait a.after) a.context).world.memory = w.memory from
    wait_memory w a.after] at h

/-- What every step of the store keeps, an attempt keeps. -/
theorem Attempt.kept {I : State → Prop} (hI : ∀ c s, I s → I (step c s).2) (codeLength : Nat)
    (a : Attempt) (h : I w.memory) : I (a.perform codeLength w).2.memory :=
  (a.passes (P := fun _ => True) (fun _ _ _ _ => trivial) codeLength w).kept
    (fun c s _ => hI c s) (fun x _ s => hI x.1 s) h

/-- The record of an account outlasts whatever writes for others alone. -/
theorem run_record_kept {α : Type} {p : Program α} {n : Nat} {t : Trouble} (sender : Sender)
    (session : Session) (hothers : ∀ m i, ∀ c ∈ t.intrusions m i, c.account? ≠ some account)
    (hwrites : Writes (fun c => c.account? ≠ some account) n p) (ho : r.owner = some account)
    (hr : session.world.memory.emails.get? address = some r) :
    (p.run (sessionHandler t.interposition sender) session).2.world.memory.emails.get? address =
      some r := by
  refine (passes_run hothers sender p session).kept
    (I := fun s => s.emails.get? address = some r) (fun c s hc => record_kept ho hc) ?_ hr
  intro x hx s hs
  cases hwrite : x.1.isWrite with
  | false =>
    rw [step_of_read hwrite]
    exact hs
  | true => exact record_kept ho (hwrites.of_leads (ends_run ..) hx hwrite) hs

theorem Attempt.Rivals.record_kept (ha : a.Rivals account) (ho : r.owner = some account)
    (hr : w.memory.emails.get? address = some r) :
    (a.perform codeLength w).2.memory.emails.get? address = some r := by
  have hne : some a.account ≠ some account := fun h => ha.other (Option.some.inj h)
  have hwrites : Writes (fun c => c.account? ≠ some account) 1
      (Verification.addEmail a.context.requestId codeLength a.account a.email) :=
    Verification.addEmail_writes (fun _ => hne) (fun _ => hne) (fun _ => hne)
  rw [← wait_memory w a.after] at hr
  exact (run_record_kept a.sender (.start (w.wait a.after) a.context) ha.intrusions hwrites ho hr :)

/-- An attempt is its claim, and what follows if that succeeds. -/
theorem Attempt.perform_eq (codeLength : Nat) (a : Attempt) (w : World) :
    a.perform codeLength w =
      match a.run (Verification.claimEmail a.context.requestId codeLength a.account a.email) w with
      | (.ok record, s) =>
        let ended := (Verification.sendCode a.context.requestId a.email record).run
          (sessionHandler a.trouble.interposition a.sender) s
        (ended.1, ended.2.world)
      | (.error e, s) => (.error e, s.world) := by
  simp only [Attempt.perform, Attempt.run, Verification.addEmail_eq, Program.run_bind]
  generalize (Verification.claimEmail a.context.requestId codeLength a.account a.email).run _ _ =
    claimed
  obtain ⟨_ | _, s⟩ := claimed <;> rfl

theorem Attempt.claim_of_perform {reply : Reply} (h : (a.perform codeLength w).1 = .ok reply) :
    ∃ reply, a.claim codeLength w = .ok reply := by
  rw [a.perform_eq] at h
  unfold Attempt.claim
  split at h
  · rename_i record s hclaim
    exact ⟨record, congrArg Prod.fst hclaim⟩
  · cases h

/-- A claim that succeeds: the session after it, and the write that it made. -/
theorem Attempt.claimed {P : Call → Prop} (hothers : ∀ m i, ∀ c ∈ a.trouble.intrusions m i, P c)
    {reply : Reply} (h : a.claim codeLength w = .ok reply) :
    1 ≤ codeLength ∧ ∃ code others c, (∀ c ∈ others, P c) ∧
      let met := w.memory.after others
      let address := Address.normalize a.email
      claimWrite? a.account address code (met.emails.get? address) = some c ∧
      (step c met).1 = .ok reply ∧
      (a.run (Verification.claimEmail a.context.requestId codeLength a.account a.email)
        w).2.world.memory = (step c met).2 := by
  let session : Session := .start (w.wait a.after) a.context
  -- the code is drawn first, which leaves the store alone
  let drawn : Session := {session with world := (session.world.draw codeLength).2}
  have hstart : drawn.world.memory = w.memory := wait_memory w a.after
  obtain ⟨hcode, others, c, hP, hchoice, hreply, hmemory⟩ :=
    add_in_trouble (session.world.draw codeLength).1 drawn hothers h
  rw [hstart] at hchoice hreply hmemory
  refine ⟨?_, _, others, c, hP, hchoice, hreply, hmemory⟩
  rcases Nat.eq_zero_or_pos codeLength with rfl | hpos
  · exact absurd (String.length_eq_zero_iff.1 (length_draw session.world 0)) hcode
  · exact hpos

/-- A record that its account has just claimed stands when the attempt is over, however it ends. -/
theorem Attempt.claimed_kept
    (hothers : ∀ m i, ∀ c ∈ a.trouble.intrusions m i, c.account? ≠ some a.account) {reply : Reply}
    (h : a.claim codeLength w = .ok reply) :
    ∃ r, reply = .ofRecord? (some r) ∧ r.owner = some a.account ∧ r.verified = false ∧
      (a.perform codeLength w).2.memory.emails.get? (Address.normalize a.email) = some r := by
  obtain ⟨-, code, others, c, -, hchoice, hreply, hmemory⟩ := Attempt.claimed hothers h
  obtain ⟨r, hwritten, hr, hclaimed⟩ := written_of_choice hchoice
  refine ⟨r, Except.ok.inj (hreply.symm.trans hwritten), hclaimed.owner, hclaimed.verified, ?_⟩
  rw [a.perform_eq]
  unfold Attempt.claim at h
  -- the rest of the attempt writes nothing
  have hsilent (record : Reply) : Writes (fun c => c.account? ≠ some a.account) 0
      (Verification.sendCode a.context.requestId a.email record) :=
    Registry.getCode_writes.after fun _ => Writes.deliver.after fun _ => .pure
  split
  · rename_i record s hclaim
    rw [hclaim] at hmemory
    replace hmemory : s.world.memory = _ := hmemory
    exact run_record_kept a.sender s hothers (hsilent record) hclaimed.owner
      (by rw [hmemory]; exact hr)
  · rename_i e s hclaim
    rw [hclaim] at h
    cases h

theorem Attempt.Rivals.refused (ha : a.Rivals account) (ho : r.owner = some account)
    (hr : w.memory.emails.get? address = some r) (haddress : Address.normalize a.email = address) :
    ∃ e, (a.perform codeLength w).1 = .error e := by
  cases houtcome : (a.perform codeLength w).1 with
  | error e => exact ⟨e, rfl⟩
  | ok reply =>
    subst haddress
    obtain ⟨reply, hclaim⟩ := Attempt.claim_of_perform houtcome
    obtain ⟨-, code, others, c, hothers, hchoice, -⟩ := Attempt.claimed ha.intrusions hclaim
    -- the record was still there when the write was picked
    have hmet := after_kept (I := fun s => s.emails.get? (Address.normalize a.email) = some r)
      (fun c s hc => Rehearsal.record_kept ho hc) hothers hr
    have hnone : claimWrite? a.account (Address.normalize a.email) code (some r) = none :=
      claimWrite?_eq_none_iff.2 ⟨r, account, rfl, ho, fun h => absurd h.symm ha.other⟩
    rw [hmet, hnone] at hchoice
    cases hchoice

/-- The account keeps the address: the record stays, and the attempts of rivals fail. -/
structure Reserved (codeLength : Nat) (account : Uuid) (address : String) (r : EmailRecord)
    (w : World) : Prop where
  kept : ∀ rivals : List Attempt, (∀ a ∈ rivals, a.Rivals account) →
    (Attempt.performAll codeLength rivals w).memory.emails.get? address = some r
  refused : ∀ rivals : List Attempt, (∀ a ∈ rivals, a.Rivals account) → ∀ a : Attempt,
    a.Rivals account → Address.normalize a.email = address →
    ∃ e, (a.perform codeLength (Attempt.performAll codeLength rivals w)).1 = .error e

theorem reserved_of_owned (ho : r.owner = some account)
    (hr : w.memory.emails.get? address = some r) : Reserved codeLength account address r w := by
  have hkept : ∀ rivals : List Attempt, (∀ a ∈ rivals, a.Rivals account) →
      (Attempt.performAll codeLength rivals w).memory.emails.get? address = some r := by
    intro rivals hrivals
    induction rivals generalizing w with
    | nil => exact hr
    | cons a rest ih =>
      exact ih ((hrivals a (List.mem_cons_self ..)).record_kept ho hr) fun a' ha' =>
        hrivals a' (List.mem_cons_of_mem _ ha')
  exact ⟨hkept, fun rivals hrivals a ha => ha.refused ho (hkept rivals hrivals)⟩

theorem performAll_kept {I : State → Prop} (hI : ∀ c s, I s → I (step c s).2)
    (attempts : List Attempt) (h : I w.memory) :
    I (Attempt.performAll codeLength attempts w).memory := by
  induction attempts generalizing w with
  | nil => exact h
  | cons a rest ih => exact ih (a.kept hI codeLength h)

end Rivals

/-! ### Recovery -/

section Recovery
variable {codeLength : Nat} {account : Uuid} {email : String} {r : EmailRecord} {w : World}

/-- The accounts of a store have their edges, and this one is among them. -/
structure Seeded (account : Uuid) (s : State) : Prop where
  linked : Linked s
  known : s.knows account = true

theorem Seeded.step {s : State} (h : Seeded account s) (c : Call) : Seeded account (step c s).2 := by
  have hedit := Store.Memory.step_edit c s
  exact ⟨h.linked.edit hedit, (congrFun hedit.knows account).trans h.known⟩

/-- Whoever arrives after rivals finds the account and its record as they were. -/
theorem met_after_rivals {address : String} {rivals : List Attempt}
    (hrivals : ∀ a ∈ rivals, a.Rivals account) (hseeded : Seeded account w.memory)
    (ho : r.owner = some account) (hr : w.memory.emails.get? address = some r)
    (after : Option Float) :
    let arrived := (Attempt.performAll codeLength rivals w).wait after
    Seeded account arrived.memory ∧ arrived.memory.emails.get? address = some r := by
  intro arrived
  have hmemory : arrived.memory = (Attempt.performAll codeLength rivals w).memory := wait_memory ..
  rw [hmemory]
  exact ⟨performAll_kept (fun c s h => h.step c) rivals hseeded,
    (reserved_of_owned ho hr).kept rivals hrivals⟩

/-- With this code the address is verified, under any live context and whatever rivals do first. -/
def Verifiable (codeLength : Nat) (account : Uuid) (email code : String) (w : World) : Prop :=
  ∀ (rivals : List Attempt) (after : Option Float) (context : Context String) (sender : Sender),
    (∀ a ∈ rivals, a.Rivals account) →
    let arrived := (Attempt.performAll codeLength rivals w).wait after
    context.isDone arrived.clock = false →
    ((Verification.verifyEmail context.requestId email code).run (plainHandler sender context)
      arrived).1 = .ok .success

theorem verifiable_of_owned (hseeded : Seeded account w.memory) (ho : r.owner = some account)
    (hr : w.memory.emails.get? (Address.normalize email) = some r) :
    Verifiable codeLength account email r.code w := by
  intro rivals after context sender hrivals arrived hlive
  obtain ⟨hthere, hstands⟩ := met_after_rivals hrivals hseeded ho hr after
  have hrun : ∃ entry, (Verification.verifyEmail context.requestId email r.code).run
      (plainHandler sender context) arrived = (.ok .success, _) :=
    Verification.run_verifyEmail hlive hthere.linked hthere.known hstands ho rfl
  exact hrun.elim fun _ h => congrArg Prod.fst h

/-- A retry that succeeds: the record, and the worlds before and after it. -/
structure Retried (codeLength : Nat) (account : Uuid) (email : String) (r r' : EmailRecord)
    (before after : World) : Prop where
  id : r'.id = r.id
  stored : after.memory.emails.get? (Address.normalize email) = some r'
  delivered : after.deliveries = before.deliveries ++ [(Address.normalize email, r'.code)]
  reserved : Reserved codeLength account (Address.normalize email) r' after
  verifiable : Verifiable codeLength account email r'.code after

theorem retried_of_owned {context : Context String} (hlive : context.isDone w.clock = false)
    (hlength : 1 ≤ codeLength) (hseeded : Seeded account w.memory) (ho : r.owner = some account)
    (hv : r.verified = false) (hr : w.memory.emails.get? (Address.normalize email) = some r) :
    ∃ r' w', (Verification.addEmail context.requestId codeLength account email).run
        (plainHandler .console context) w = (.ok (.ofRecord? (some r')), w') ∧
      Retried codeLength account email r r' w w' := by
  have hchoice : claimWrite? account (Address.normalize email) (w.draw codeLength).1
      (w.memory.emails.get? (Address.normalize email)) =
      some (.reissueCode (Address.normalize email) account (w.draw codeLength).1) := by
    rw [hr]
    exact claimWrite?_own ho hv
  obtain ⟨r', w', hrun, hmemory, hemails, hclaimed, hdelivered⟩ :=
    @Verification.run_addEmail_granted context.requestId _ _ _ _ _ hlive hlength _ hchoice
  have hstored : w'.memory.emails.get? (Address.normalize email) = some r' := by
    rw [hemails]
    exact Table.get?_put_self ..
  have hafter : Seeded account w'.memory := by
    rw [hmemory]
    exact hseeded.step _
  refine ⟨r', w', hrun, hclaimed.id r hr, hstored, ?_, reserved_of_owned hclaimed.owner hstored,
    verifiable_of_owned hafter hclaimed.owner hstored⟩
  rw [hclaimed.code]
  exact hdelivered

/-- **An attempt whose claim succeeded can be made again, however it fails after that.** The account
owns the address, unverified, and no rival gets it. A retry under any spelling, with the store to
itself and a live context, gives the same record with the code that it delivers, and this code
verifies the address. -/
theorem failed_delivery_recovers {a : Attempt} {reply : Reply}
    (hlinked : Linked w.memory) (hknown : w.memory.knows a.account = true)
    (hothers : ∀ m i, ∀ c ∈ a.trouble.intrusions m i, c.account? ≠ some a.account)
    (hclaim : a.claim codeLength w = .ok reply) :
    let failed := (a.perform codeLength w).2
    let address := Address.normalize a.email
    ∃ r, reply = .ofRecord? (some r) ∧ failed.memory.emails.get? address = some r ∧
      r.owner = some a.account ∧ r.verified = false ∧
      Reserved codeLength a.account address r failed ∧
      ∀ (rivals : List Attempt) (after : Option Float) (context : Context String) (email : String),
        (∀ a' ∈ rivals, a'.Rivals a.account) → Address.normalize email = address →
        let before := (Attempt.performAll codeLength rivals failed).wait after
        context.isDone before.clock = false →
        ∃ r' w', (Verification.addEmail context.requestId codeLength a.account email).run
            (plainHandler .console context) before = (.ok (.ofRecord? (some r')), w') ∧
          Retried codeLength a.account email r r' before w' := by
  intro failed address
  obtain ⟨r, hreply, ho, hv, hr⟩ := Attempt.claimed_kept hothers hclaim
  refine ⟨r, hreply, hr, ho, hv, reserved_of_owned ho hr, ?_⟩
  intro rivals after context email hrivals haddress before hlive
  obtain ⟨hthere, hstands⟩ := met_after_rivals hrivals
    (a.kept (fun c s h => h.step c) codeLength ⟨hlinked, hknown⟩) ho hr after
  exact retried_of_owned hlive (Attempt.claimed hothers hclaim).1 hthere ho hv
    (haddress ▸ hstands)

end Recovery

/-- Another account asks for the address before the code is read back, and then storage is lost. -/
def lostBeforeSecondLook : Trouble where
  pace := .steady
  intrusions method i :=
    if method = .getEmail ∧ i = 1 then [.createEmail "a@x.com" (some ⟨2⟩) "222222"] else []
  faults c i := if c.method = .getEmail ∧ i = 1 then some (.unavailable "lost") else none

/-- The claim of an unknown address stays, and the same account gets it with another spelling. -/
theorem failed_delivery_recovers_lost :
    let w : World := ⟨(Store.Memory.addAccount "alice" none (some ⟨1⟩) .empty).2, 0, .standard, []⟩
    let a : Attempt := ⟨none, .new "r" none, .console, lostBeforeSecondLook, ⟨1⟩, "a@x.com"⟩
    causeOf? (a.perform 6 w).1 = some (.unavailable "lost") ∧
      ∃ r r' w', (Verification.addEmail "r" 6 ⟨1⟩ " A@X.com").run
          (plainHandler .console (.new "r" none)) (a.perform 6 w).2 =
            (.ok (.ofRecord? (some r')), w') ∧
        Retried 6 ⟨1⟩ " A@X.com" r r' (a.perform 6 w).2 w' := by
  intro w a
  have hcause : causeOf? (a.perform 6 w).1 = some (.unavailable "lost") := by decide +kernel
  have hclaimed : (a.claim 6 w).toOption =
      some (.ofRecord? (some ⟨.drawn 1, "a@x.com", some ⟨1⟩, "123456", false⟩)) := by decide +kernel
  have hspelling : Address.normalize " A@X.com" = Address.normalize "a@x.com" := by decide +kernel
  have hothers : ∀ m i, ∀ c ∈ a.trouble.intrusions m i, c.account? ≠ some a.account := by
    intro m i c hc
    simp only [a, lostBeforeSecondLook] at hc
    split at hc
    · obtain rfl := List.mem_singleton.1 hc
      decide
    · cases hc
  obtain ⟨reply, hclaim⟩ : ∃ reply, a.claim 6 w = .ok reply := by
    cases hclaim : a.claim 6 w with
    | ok reply => exact ⟨reply, rfl⟩
    | error e =>
      rw [hclaim] at hclaimed
      cases hclaimed
  obtain ⟨r, -, -, -, -, -, hretry⟩ :=
    failed_delivery_recovers (Store.Memory.linked_empty.addAccount "alice" none (some ⟨1⟩))
      (by decide) hothers hclaim
  obtain ⟨r', w', hrun, hretried⟩ := hretry [] none (.new "r" none) " A@X.com" nofun hspelling rfl
  exact ⟨hcause, r, r', w', hrun, hretried⟩

end Rehearsal
end EmailOwnership
