import EmailOwnership.Proofs.Registry.Flow
import Mathlib.Data.List.Induction

/-! Where the code of a verification comes from.

Calls of the verification flow follow one another over a store that starts with accounts and
no records. A verification succeeds exactly if its code is the one that the last successful
claim of the address delivered, and the claimant has not removed the record since; otherwise
it answers that the code is invalid, and changes nothing (`verification_provenance`).

The history says which claims stand (`Standing`), the store which records have an owner. The
invariant is that these are the same (`Tied`), and one visit keeps it whatever happens in it
(`Visit.Happens`). -/
namespace EmailOwnership.Rehearsal
open Registry (claimWrite? Claimed)
open Store (Call Reply)
open Store.Memory (State Edit Filed Linked step step_edit)

/-! ### Runs of the flow -/

/-- Whether an action only seeds accounts and what hangs on them. -/
def Action.isSeeding : Action → Bool
  | .addAccount .. | .addPassword .. | .addRole .. | .addTag .. | .addMethod .. => true
  | _ => false

/-- The world after seeding. -/
def World.seed (w : World) (seeds : List Action) : World :=
  seeds.foldl (fun w a => (a.apply w).2) w

/-- The world after visits that nothing comes between. -/
def World.after (codeLength : Nat) (w : World) (visits : List Visit) : World :=
  visits.foldl (fun w v => (v.perform codeLength w).2) w

/-- Whether the context of a visit is live when its turn comes. -/
def Visit.isLive (v : Visit) (w : World) : Bool :=
  !(v.context.build w.clock : Context String).isDone w.clock

/-- Whether an action is a call of the flow, for an account that the store knows and through a
sender that works; between calls time may pass. -/
def Action.isFlow (s : State) : Action → Bool
  | .addEmail .console account _ => s.knows account
  | .verifyEmail .. | .provisionEmail .. | .removeEmail .. | .accountForEmail .. | .advance _ => true
  | _ => false

/-- Whether all visits are calls of the flow under live contexts. -/
def World.flows (codeLength : Nat) : World → List Visit → Bool
  | _, [] => true
  | w, v :: rest =>
    v.action.isFlow w.memory && v.isLive w && (v.perform codeLength w).2.flows codeLength rest

variable {codeLength : Nat} {start w : World} {past : List Visit} {v : Visit}

theorem after_concat (past : List Visit) (v : Visit) :
    start.after codeLength (past ++ [v]) = (v.perform codeLength (start.after codeLength past)).2 := by
  simp [World.after]

theorem flows_append (a b : List Visit) :
    w.flows codeLength (a ++ b) = (w.flows codeLength a && (w.after codeLength a).flows codeLength b) := by
  induction a generalizing w with
  | nil => simp [World.flows, World.after]
  | cons v rest ih => simp [World.flows, World.after, ih, Bool.and_assoc]

/-! ### Claims that stand -/

/-- The visit claims the address for the account: it answers with this record, and hands this code
to the sender and nothing else. -/
structure Visit.Delivers (codeLength : Nat) (w : World) (v : Visit) (account : Uuid)
    (address code : String) (r : EmailRecord) : Prop where
  asks : ∃ sender email, v.action = .addEmail sender account email ∧ Address.normalize email = address
  answer : (v.perform codeLength w).1 = .ok (.reply (.ofRecord? (some r)))
  delivered : (v.perform codeLength w).2.deliveries = w.deliveries ++ [(address, code)]

/-- The visit claims the address, for whatever account, and succeeds. -/
def Visit.Claims (codeLength : Nat) (w : World) (v : Visit) (address : String) : Prop :=
  ∃ sender account email result, v.action = .addEmail sender account email ∧
    Address.normalize email = address ∧ (v.perform codeLength w).1 = .ok result

/-- The visit provisions the address and succeeds. -/
def Visit.Provisions (codeLength : Nat) (w : World) (v : Visit) (address : String) : Prop :=
  ∃ email result, v.action = .provisionEmail email ∧
    Address.normalize email = address ∧ (v.perform codeLength w).1 = .ok result

/-- None of these visits claims the address with success. -/
def World.Unclaimed (codeLength : Nat) (w : World) (visits : List Visit) (address : String) : Prop :=
  ∀ before v rest, visits = before ++ v :: rest → ¬ v.Claims codeLength (w.after codeLength before) address

/-- Some visit delivered the code for the address to the account, with a record of this identifier;
no later claim of the address succeeded, and the account has not removed this record since. -/
def Standing (codeLength : Nat) (start : World) (past : List Visit) (account : Uuid)
    (address code : String) (id : Uuid) : Prop :=
  ∃ earlier v later r, past = earlier ++ v :: later ∧
    v.Delivers codeLength (start.after codeLength earlier) account address code r ∧ r.id = id ∧
    (start.after codeLength (earlier ++ [v])).Unclaimed codeLength later address ∧
    ∀ v' ∈ later, v'.action ≠ .removeEmail account id

/-- What a visit leaves of a claim, `held` being whether there was one before: it delivered the code
itself, or it neither claims the address nor removes the record. -/
def Visit.Leaves (codeLength : Nat) (w : World) (v : Visit) (account : Uuid) (address code : String)
    (id : Uuid) (held : Prop) : Prop :=
  (∃ r, v.Delivers codeLength w account address code r ∧ r.id = id) ∨
    held ∧ ¬ v.Claims codeLength w address ∧ v.action ≠ .removeEmail account id

theorem unclaimed_nil (address : String) : w.Unclaimed codeLength [] address := by
  intro before v rest h
  simp at h

theorem unclaimed_concat {visits : List Visit} {address : String} :
    w.Unclaimed codeLength (visits ++ [v]) address ↔
      w.Unclaimed codeLength visits address ∧ ¬ v.Claims codeLength (w.after codeLength visits) address := by
  constructor
  · intro h
    refine ⟨fun before u rest hu => h before u (rest ++ [v]) (by simp [hu]), h visits v [] rfl⟩
  · rintro ⟨hvisits, hv⟩ before u rest hu
    cases rest using List.reverseRecOn with
    | nil =>
      obtain ⟨rfl, hx⟩ := List.append_inj' hu rfl
      cases hx
      exact hv
    | append_singleton rest x =>
      have hcut : visits ++ [v] = (before ++ u :: rest) ++ [x] := by simpa using hu
      exact hvisits before u rest (List.append_inj' hcut rfl).1

/-- One more visit leaves its own claim standing, or those from before. -/
theorem standing_concat {account id : Uuid} {address code : String} :
    Standing codeLength start (past ++ [v]) account address code id ↔
      v.Leaves codeLength (start.after codeLength past) account address code id
        (Standing codeLength start past account address code id) := by
  constructor
  · rintro ⟨earlier, u, later, r, hpast, hdelivers, hid, hunclaimed, hkept⟩
    cases later using List.reverseRecOn with
    | nil =>
      obtain ⟨rfl, hu⟩ := List.append_inj' hpast rfl
      cases hu
      exact .inl ⟨r, hdelivers, hid⟩
    | append_singleton later x =>
      have hcut : past ++ [v] = (earlier ++ u :: later) ++ [x] := by simpa using hpast
      obtain ⟨rfl, hx⟩ := List.append_inj' hcut rfl
      cases hx
      obtain ⟨hlater, hv⟩ := unclaimed_concat.1 hunclaimed
      have hsame : (start.after codeLength (earlier ++ [u])).after codeLength later =
          start.after codeLength (earlier ++ u :: later) := by simp [World.after]
      rw [hsame] at hv
      exact .inr ⟨⟨earlier, u, later, r, rfl, hdelivers, hid, hlater,
        fun v' hv' => hkept v' (List.mem_append_left _ hv')⟩, hv, hkept v (by simp)⟩
  · rintro (⟨r, hdelivers, hid⟩ | ⟨⟨earlier, u, later, r, rfl, hdelivers, hid, hlater, hkept⟩, hv, hr⟩)
    · exact ⟨past, v, [], r, rfl, hdelivers, hid, unclaimed_nil address, by simp⟩
    · refine ⟨earlier, u, later ++ [v], r, by simp, hdelivers, hid, unclaimed_concat.2 ⟨hlater, ?_⟩, ?_⟩
      · simpa [World.after] using hv
      · intro v' hv'
        rcases List.mem_append.1 hv' with h | h
        · exact hkept v' h
        · rw [List.mem_singleton.1 h]
          exact hr

/-! ### What a visit of the flow does -/

/-- What happens in a visit of the flow under a live context. -/
inductive Visit.Happens (codeLength : Nat) (w : World) (v : Visit) : Prop
  | claimed {account : Uuid} {email : String} {r : EmailRecord} :
    v.action = .addEmail .console account email → w.memory.knows account = true →
    Claimed w.memory account (Address.normalize email) (w.draw codeLength).1 r →
    v.Delivers codeLength w account (Address.normalize email) (w.draw codeLength).1 r →
    (v.perform codeLength w).2.memory.emails = w.memory.emails.put (Address.normalize email) r →
    v.Happens codeLength w
  | refused {account : Uuid} {email : String} {e : Failure} :
    v.action = .addEmail .console account email → (v.perform codeLength w).1 = .error e →
    (v.perform codeLength w).2.memory = w.memory → v.Happens codeLength w
  | provisioned {email : String} {r : EmailRecord} :
    v.action = .provisionEmail email → w.memory.emails.get? (Address.normalize email) = none →
    r.owner = none →
    (v.perform codeLength w).2.memory.emails = w.memory.emails.put (Address.normalize email) r →
    v.Happens codeLength w
  | known {email : String} {r : EmailRecord} {e : Failure} :
    v.action = .provisionEmail email → w.memory.emails.get? (Address.normalize email) = some r →
    (v.perform codeLength w).1 = .error e → (v.perform codeLength w).2.memory = w.memory →
    v.Happens codeLength w
  | verified {email code : String} {r : EmailRecord} {owner : Uuid} :
    v.action = .verifyEmail email code →
    w.memory.emails.get? (Address.normalize email) = some r → r.owner = some owner → r.code = code →
    (v.perform codeLength w).1 = .ok (.verification .success) →
    (v.perform codeLength w).2.memory = {w.memory with
      emails := w.memory.emails.put (Address.normalize email) {r with verified := true}} →
    v.Happens codeLength w
  | invalid {email code : String} :
    v.action = .verifyEmail email code →
    (∀ r, w.memory.emails.get? (Address.normalize email) = some r → r.owner ≠ none → r.code ≠ code) →
    (v.perform codeLength w).1 = .ok (.verification .invalidCode) →
    (v.perform codeLength w).2.memory = w.memory → v.Happens codeLength w
  | removed {account : Uuid} {address : String} {r : EmailRecord} :
    v.action = .removeEmail account r.id → w.memory.emails.get? address = some r →
    r.owner = some account →
    (v.perform codeLength w).2.memory.emails = w.memory.emails.erase address →
    v.Happens codeLength w
  | missed {account id : Uuid} :
    v.action = .removeEmail account id →
    (∀ x r, w.memory.emails.get? x = some r → r.id = id → r.owner ≠ some account) →
    (v.perform codeLength w).2.memory = w.memory → v.Happens codeLength w
  | aside :
    (∀ sender account email, v.action ≠ .addEmail sender account email) →
    (∀ email code, v.action ≠ .verifyEmail email code) →
    (∀ email, v.action ≠ .provisionEmail email) →
    (∀ account id, v.action ≠ .removeEmail account id) →
    (v.perform codeLength w).2.memory = w.memory → v.Happens codeLength w

/-- Records are filed, accounts have their edges, and owners are accounts. -/
structure Sound (s : State) : Prop where
  filed : Filed s
  linked : Linked s
  known : ∀ x r account, s.emails.get? x = some r → r.owner = some account → s.knows account = true

theorem isDone_of_isLive (h : v.isLive w = true) :
    (v.context.build w.clock : Context String).isDone w.clock = false := by
  simpa [Visit.isLive] using h

/-- A visit is the run of its operation, its answer wrapped. -/
theorem perform_eq (codeLength : Nat) {α : Type} {f : α → Result} {p : Program α} {outcome : Except Failure α}
    {w' : World}
    (h : v.action.program? (v.context.build w.clock : Context String).requestId codeLength =
      some (f <$> p))
    (hrun : p.run (plainHandler v.action.sender (v.context.build w.clock)) w = (outcome, w')) :
    v.perform codeLength w = (outcome.map f, w') := by
  simp only [Visit.perform, h, Program.run_map, hrun]

/-- **A visit of the flow does one of these things**, as an edit of the records. -/
theorem visit_happens (hlength : 1 ≤ codeLength) (hsound : Sound w.memory)
    (hflow : v.action.isFlow w.memory = true) (hlive : v.isLive w = true) :
    v.Happens codeLength w ∧ Edit w.memory (v.perform codeLength w).2.memory := by
  have hdone := isDone_of_isLive hlive
  obtain ⟨action, context⟩ := v
  cases action with
  | addEmail sender account email =>
    cases sender with
    | failing message => cases hflow
    | console =>
      cases h : claimWrite? account (Address.normalize email) (w.draw codeLength).1
          (w.memory.emails.get? (Address.normalize email)) with
      | none =>
        obtain ⟨e, hrun⟩ := Verification.run_addEmail_refused hdone hlength h
        have hperform := perform_eq codeLength (v := ⟨.addEmail .console account email, context⟩) rfl hrun
        refine ⟨.refused rfl (by rw [hperform]; rfl) (by rw [hperform]; rfl), ?_⟩
        rw [hperform]
        exact .nothing
      | some c =>
        obtain ⟨r, w', hrun, hmemory, hemails, hclaimed, hdelivered⟩ :=
          Verification.run_addEmail_granted hdone hlength h
        have hperform := perform_eq codeLength (v := ⟨.addEmail .console account email, context⟩) rfl hrun
        refine ⟨.claimed rfl hflow hclaimed ⟨⟨_, _, rfl, rfl⟩, ?_, ?_⟩ ?_, ?_⟩
        · rw [hperform]
          rfl
        · rw [hperform]
          exact hdelivered
        · rw [hperform]
          exact hemails
        · rw [hperform]
          show Edit w.memory w'.memory
          rw [hmemory]
          exact step_edit c w.memory
  | provisionEmail email =>
    cases hr : w.memory.emails.get? (Address.normalize email) with
    | none =>
      have hperform := perform_eq codeLength (v := ⟨.provisionEmail email, context⟩) rfl
        (Verification.run_provisionEmail hdone hlength hr)
      refine ⟨.provisioned rfl hr (r := w.memory.fresh _ none _) rfl (by rw [hperform]; rfl), ?_⟩
      rw [hperform]
      exact .create hr
    | some r =>
      obtain ⟨e, hrun⟩ := Verification.run_provisionEmail_known hdone hlength hr
      have hperform := perform_eq codeLength (v := ⟨.provisionEmail email, context⟩) rfl hrun
      refine ⟨.known rfl hr (by rw [hperform]; rfl) (by rw [hperform]; rfl), ?_⟩
      rw [hperform]
      exact .nothing
  | verifyEmail email code =>
    by_cases h : ∃ r owner, w.memory.emails.get? (Address.normalize email) = some r ∧
        r.owner = some owner ∧ r.code = code
    · obtain ⟨r, owner, hr, ho, hcode⟩ := h
      obtain ⟨entry, hrun⟩ := Verification.run_verifyEmail hdone hsound.linked
        (hsound.known _ r owner hr ho) hr ho hcode
      have hperform := perform_eq codeLength (v := ⟨.verifyEmail email code, context⟩) rfl hrun
      refine ⟨.verified rfl hr ho hcode (by rw [hperform]; rfl) (by rw [hperform]; rfl), ?_⟩
      rw [hperform]
      exact .replace hr rfl rfl
    · have hinvalid : ∀ r, w.memory.emails.get? (Address.normalize email) = some r →
          r.owner ≠ none → r.code ≠ code := by
        intro r hr ho hcode
        obtain ⟨owner, ho⟩ := Option.ne_none_iff_exists'.1 ho
        exact h ⟨r, owner, hr, ho, hcode⟩
      have hperform := perform_eq codeLength (v := ⟨.verifyEmail email code, context⟩) rfl
        (Verification.run_verifyEmail_invalid hdone hinvalid)
      refine ⟨.invalid rfl hinvalid (by rw [hperform]; rfl) (by rw [hperform]), ?_⟩
      rw [hperform]
      exact .nothing
  | removeEmail account id =>
    obtain ⟨entry, hrun⟩ := Verification.run_removeEmail hdone id
    have hperform := perform_eq codeLength (v := ⟨.removeEmail account id, context⟩) rfl hrun
    have hmemory : (Visit.perform codeLength ⟨.removeEmail account id, context⟩ w).2.memory =
        (step (.deleteEmail id account) w.memory).2 := by rw [hperform]; rfl
    refine ⟨?_, hmemory ▸ step_edit ..⟩
    by_cases h : ∃ x r, w.memory.emails.get? x = some r ∧ r.id = id ∧ r.owner = some account
    · obtain ⟨x, r, hr, rfl, ho⟩ := h
      refine .removed rfl hr ho ?_
      rw [hmemory, Store.Memory.step_delete hsound.filed.toKeyed hr ho]
    · have hnone : ∀ x r, w.memory.emails.get? x = some r → r.id = id → r.owner ≠ some account :=
        fun x r hr hid ho => h ⟨x, r, hr, hid, ho⟩
      refine .missed rfl hnone ?_
      rw [hmemory, Store.Memory.step_delete_lost hnone]
  | accountForEmail email =>
    have hmemory : (Visit.perform codeLength ⟨.accountForEmail email, context⟩ w).2.memory =
        w.memory := by
      rw [perform_eq codeLength (v := ⟨.accountForEmail email, context⟩) rfl rfl]
      exact Program.Writes.run_memory (P := fun _ => False) Registry.lookupAccount_writes w
    refine ⟨.aside ?_ ?_ ?_ ?_ hmemory, hmemory ▸ .nothing⟩ <;> intros <;> exact Action.noConfusion
  | advance seconds =>
    refine ⟨.aside ?_ ?_ ?_ ?_ rfl, .nothing⟩ <;> intros <;> exact Action.noConfusion
  | _ => cases hflow

/-! ### The invariant -/

/-- The address has a record of this account, with this code and identifier. -/
def Owned (s : State) (account : Uuid) (address code : String) (id : Uuid) : Prop :=
  ∃ r, s.emails.get? address = some r ∧ r.owner = some account ∧ r.code = code ∧ r.id = id

/-- The store is sound, and the claims that stand are the records that have an owner. -/
structure Tied (codeLength : Nat) (start : World) (past : List Visit) : Prop where
  sound : Sound (start.after codeLength past).memory
  claims : ∀ account address code id, Standing codeLength start past account address code id ↔
    Owned (start.after codeLength past).memory account address code id

theorem Visit.Delivers.unique {account account' : Uuid} {address address' code code' : String}
    {r r' : EmailRecord} (h : v.Delivers codeLength w account address code r)
    (h' : v.Delivers codeLength w account' address' code' r') :
    account = account' ∧ address = address' ∧ code = code' ∧ r = r' := by
  obtain ⟨sender, email, ha, rfl⟩ := h.asks
  obtain ⟨sender', email', ha', rfl⟩ := h'.asks
  rw [ha] at ha'
  cases ha'
  have hr := h.answer.symm.trans h'.answer
  have hcode := List.append_cancel_left (h.delivered.symm.trans h'.delivered)
  refine ⟨rfl, rfl, ?_, Registry.ofRecord?_inj (Result.reply.inj (Except.ok.inj hr))⟩
  simpa using hcode

theorem Visit.Claims.address_eq {sender : Sender} {account : Uuid} {email address : String}
    (h : v.Claims codeLength w address) (ha : v.action = .addEmail sender account email) :
    address = Address.normalize email := by
  obtain ⟨sender', account', email', -, ha', rfl, -⟩ := h
  rw [ha] at ha'
  cases ha'
  rfl

theorem Visit.Delivers.claims {account : Uuid} {address code : String} {r : EmailRecord}
    (h : v.Delivers codeLength w account address code r) : v.Claims codeLength w address := by
  obtain ⟨sender, email, ha, hn⟩ := h.asks
  exact ⟨sender, account, email, _, ha, hn, h.answer⟩

/-- A visit that fails claims nothing. -/
theorem not_claims_of_error {e : Failure} (he : (v.perform codeLength w).1 = .error e)
    (address : String) : ¬ v.Claims codeLength w address := by
  rintro ⟨_, _, _, result, -, -, hok⟩
  rw [he] at hok
  cases hok

/-- No more does a visit that is no claim. -/
theorem not_claims_of_action (ha : ∀ sender account email, v.action ≠ .addEmail sender account email)
    (address : String) : ¬ v.Claims codeLength w address := by
  rintro ⟨sender, account, email, _, h, -⟩
  exact ha sender account email h

/-- A visit without claims leaves what it does not remove. -/
theorem leaves_of_unclaimed {account id : Uuid} {address code : String}
    (h : ¬ v.Claims codeLength w address) (held : Prop) :
    v.Leaves codeLength w account address code id held ↔ held ∧ v.action ≠ .removeEmail account id := by
  constructor
  · rintro (⟨r, hdelivers, -⟩ | ⟨hheld, -, hkept⟩)
    · exact absurd hdelivers.claims h
    · exact ⟨hheld, hkept⟩
  · exact fun hheld => .inr ⟨hheld.1, h, hheld.2⟩

/-- A visit that neither claims nor removes leaves everything. -/
theorem leaves_of_idle {account id : Uuid} {address code : String}
    (h : ¬ v.Claims codeLength w address) (hr : ∀ account id, v.action ≠ .removeEmail account id)
    (held : Prop) : v.Leaves codeLength w account address code id held ↔ held := by
  rw [leaves_of_unclaimed h]
  exact and_iff_left (hr account id)

theorem Sound.after_visit (hsound : Sound w.memory) (h : v.Happens codeLength w)
    (hedit : Edit w.memory (v.perform codeLength w).2.memory) :
    Sound (v.perform codeLength w).2.memory := by
  refine ⟨hsound.filed.edit hedit, hsound.linked.edit hedit, ?_⟩
  rw [hedit.knows]
  intro x q account hq ho
  have hkept : (v.perform codeLength w).2.memory = w.memory → w.memory.knows account = true :=
    fun hm => hsound.known x q account (hm ▸ hq) ho
  -- a record stored at `address` is `r`, any other was there before
  have hput : ∀ {address : String} {r : EmailRecord},
      (v.perform codeLength w).2.memory.emails = w.memory.emails.put address r →
      (r.owner = some account → w.memory.knows account = true) → w.memory.knows account = true := by
    intro address r hemails hr
    rw [hemails, Table.get?_put] at hq
    split at hq
    · cases hq
      exact hr ho
    · exact hsound.known x q account hq ho
  cases h with
  | claimed ha hknown hclaimed hdelivers hemails =>
    refine hput hemails fun hr => ?_
    rw [hclaimed.owner] at hr
    cases hr
    exact hknown
  | provisioned ha hnone hunowned hemails =>
    refine hput hemails fun hr => ?_
    rw [hunowned] at hr
    cases hr
  | @verified email code r owner ha hr' hr'' hcode hanswer hm =>
    exact hput (congrArg State.emails hm) fun hr => hsound.known _ r account hr' hr
  | removed ha hr hr' hemails =>
    rw [hemails, Table.get?_erase] at hq
    split at hq
    · cases hq
    · exact hsound.known x q account hq ho
  | refused _ _ hm => exact hkept hm
  | known _ _ _ hm => exact hkept hm
  | invalid _ _ _ hm => exact hkept hm
  | missed _ _ hm => exact hkept hm
  | aside _ _ _ _ hm => exact hkept hm

/-- What a visit leaves of the owned records is what it leaves of the claims. -/
theorem owned_after (hsound : Sound w.memory) (h : v.Happens codeLength w) {account id : Uuid}
    {address code : String} :
    Owned (v.perform codeLength w).2.memory account address code id ↔
      v.Leaves codeLength w account address code id (Owned w.memory account address code id) := by
  cases h with
  | @claimed claimant email r ha hknown hclaimed hdelivers hemails =>
    by_cases hx : address = Address.normalize email
    · subst hx
      constructor
      · rintro ⟨q, hq, ho, hcode, hid⟩
        rw [hemails, Table.get?_put_self] at hq
        cases hq
        rw [hclaimed.owner] at ho
        cases ho
        rw [← hcode, hclaimed.code]
        exact .inl ⟨r, hdelivers, hid⟩
      · rintro (⟨q, hq, hid⟩ | ⟨-, hnone, -⟩)
        · obtain ⟨rfl, -, rfl, rfl⟩ := hq.unique hdelivers
          exact ⟨q, by rw [hemails, Table.get?_put_self], hclaimed.owner, hclaimed.code, hid⟩
        · exact absurd hdelivers.claims hnone
    · rw [leaves_of_idle (fun hc => hx (hc.address_eq ha)) (by simp [ha]), Owned, hemails,
        Table.get?_put_of_ne _ _ hx]
      rfl
  | refused ha he hm =>
    rw [leaves_of_idle (not_claims_of_error he address) (by simp [ha]), hm]
  | @provisioned email r ha hnone hunowned hemails =>
    rw [leaves_of_idle (not_claims_of_action (by simp [ha]) address) (by simp [ha])]
    by_cases hx : address = Address.normalize email
    · subst hx
      simp [Owned, hemails, hnone, hunowned]
    · rw [Owned, hemails, Table.get?_put_of_ne _ _ hx]
      rfl
  | known ha hr he hm =>
    rw [leaves_of_idle (not_claims_of_error he address) (by simp [ha]), hm]
  | @verified email code' r owner ha hr ho hcode hanswer hm =>
    rw [leaves_of_idle (not_claims_of_action (by simp [ha]) address) (by simp [ha])]
    by_cases hx : address = Address.normalize email
    · subst hx
      simp [Owned, hm, hr]
    · rw [Owned, hm, Table.get?_put_of_ne _ _ hx]
      rfl
  | invalid ha _ hanswer hm =>
    rw [leaves_of_idle (not_claims_of_action (by simp [ha]) address) (by simp [ha]), hm]
  | @removed owner x r ha hr ho hemails =>
    rw [leaves_of_unclaimed (not_claims_of_action (by simp [ha]) address)]
    by_cases hx : address = x
    · subst hx
      constructor
      · rintro ⟨q, hq, -⟩
        rw [hemails, Table.get?_erase_self] at hq
        cases hq
      · rintro ⟨⟨q, hq, ho', -, rfl⟩, hkept⟩
        rw [hr] at hq
        cases hq
        rw [ho] at ho'
        cases ho'
        exact absurd ha hkept
    · rw [Owned, hemails, Table.get?_erase_of_ne _ hx]
      refine ⟨fun hold => ⟨hold, fun ha' => ?_⟩, And.left⟩
      -- the identifier of the record that is removed names no other address
      obtain ⟨q, hq, -, -, hid⟩ := hold
      rw [ha] at ha'
      cases ha'
      exact hx (hsound.filed.ids address x q r hq hr hid)
  | @missed owner id' ha hnone hm =>
    rw [leaves_of_unclaimed (not_claims_of_action (by simp [ha]) address), hm]
    refine ⟨fun hold => ⟨hold, fun ha' => ?_⟩, And.left⟩
    obtain ⟨q, hq, ho, -, hid⟩ := hold
    rw [ha] at ha'
    cases ha'
    exact hnone address q hq hid ho
  | aside hadd hverify hprovision hremove hm =>
    rw [leaves_of_idle (not_claims_of_action hadd address) hremove, hm]

/-- **One visit keeps the claims that stand and the owned records the same.** -/
theorem Tied.concat (hlength : 1 ≤ codeLength) (h : Tied codeLength start past)
    (hflow : v.action.isFlow (start.after codeLength past).memory = true)
    (hlive : v.isLive (start.after codeLength past) = true) :
    Tied codeLength start (past ++ [v]) := by
  obtain ⟨hhappens, hedit⟩ := visit_happens hlength h.sound hflow hlive
  refine ⟨?_, fun account address code id => ?_⟩
  · rw [after_concat]
    exact h.sound.after_visit hhappens hedit
  · rw [after_concat, standing_concat, owned_after h.sound hhappens, Visit.Leaves, Visit.Leaves,
      h.claims]

theorem tied_of_flows (hlength : 1 ≤ codeLength) (hsound : Sound start.memory)
    (hempty : start.memory.emails = .empty) {past : List Visit}
    (hpast : start.flows codeLength past = true) : Tied codeLength start past := by
  induction past using List.reverseRecOn with
  | nil =>
    refine ⟨hsound, fun account address code id => ⟨?_, ?_⟩⟩
    · rintro ⟨earlier, v, later, r, hpast, -⟩
      simp at hpast
    · rintro ⟨r, hr, -⟩
      simp [World.after, hempty] at hr
  | append_singleton past v ih =>
    rw [flows_append] at hpast
    simp only [World.flows, Bool.and_true, Bool.and_eq_true] at hpast
    exact (ih hpast.1).concat hlength hpast.2.1 hpast.2.2

/-- Seeding gives accounts their edges, and no records. -/
theorem seed_sound {seeds : List Action} (hseeds : ∀ a ∈ seeds, a.isSeeding = true)
    (hw : Linked w.memory ∧ w.memory.emails = .empty) :
    Linked (w.seed seeds).memory ∧ (w.seed seeds).memory.emails = .empty := by
  induction seeds generalizing w with
  | nil => exact hw
  | cons a rest ih =>
    refine ih (fun b hb => hseeds b (List.mem_cons_of_mem a hb)) ?_
    have ha := hseeds a (List.mem_cons_self ..)
    cases a with
    | addAccount handle name id => exact ⟨hw.1.addAccount .., (Store.Memory.addAccount_emails ..).trans hw.2⟩
    | addPassword account hash => exact ⟨hw.1.addPassword .., (Store.Memory.addPassword_emails ..).trans hw.2⟩
    | addRole account name => exact ⟨hw.1.addRole .., (Store.Memory.addRole_emails ..).trans hw.2⟩
    | addTag account name => exact ⟨hw.1.addTag .., (Store.Memory.addTag_emails ..).trans hw.2⟩
    | addMethod account method secret =>
      exact ⟨hw.1.addMethod .., (Store.Memory.addMethod_emails ..).trans hw.2⟩
    | _ => cases ha

/-! ### Verifications -/

/-- A provisioning that succeeds leaves no claim of its address standing. -/
theorem not_standing_of_provisions (hlength : 1 ≤ codeLength) (h : Tied codeLength start past)
    (hflow : v.action.isFlow (start.after codeLength past).memory = true)
    (hlive : v.isLive (start.after codeLength past) = true) {account id : Uuid} {address code : String}
    (hprovisions : v.Provisions codeLength (start.after codeLength past) address) :
    ¬ Standing codeLength start (past ++ [v]) account address code id := by
  rw [(h.concat hlength hflow hlive).claims, after_concat]
  obtain ⟨email, result, ha, rfl, hanswer⟩ := hprovisions
  rintro ⟨r, hr, ho, -⟩
  cases (visit_happens hlength h.sound hflow hlive).1 with
  | provisioned ha' _ hunowned hemails =>
    rw [ha] at ha'
    cases ha'
    rw [hemails, Table.get?_put_self] at hr
    cases hr
    rw [hunowned] at ho
    cases ho
  | known _ _ he _ =>
    rw [he] at hanswer
    cases hanswer
  | refused _ he _ =>
    rw [he] at hanswer
    cases hanswer
  | aside _ _ hprovision _ _ => exact hprovision _ ha
  | claimed ha' | verified ha' | invalid ha' | removed ha' | missed ha' =>
    rw [ha] at ha'
    cases ha'

/-- Without a claim, none begins to stand. -/
theorem not_standing_of_unclaimed {account id : Uuid} {address code : String} {later : List Visit}
    (h : ¬ Standing codeLength start past account address code id)
    (hlater : (start.after codeLength past).Unclaimed codeLength later address) :
    ¬ Standing codeLength start (past ++ later) account address code id := by
  induction later using List.reverseRecOn with
  | nil => simpa using h
  | append_singleton later x ih =>
    obtain ⟨hlater, hx⟩ := unclaimed_concat.1 hlater
    have hsame : (start.after codeLength past).after codeLength later =
        start.after codeLength (past ++ later) := by simp [World.after]
    rw [hsame] at hx
    rw [← List.append_assoc, standing_concat, leaves_of_unclaimed hx]
    exact fun hstands => ih hlater hstands.1

/-- The visit repeats the verification of an address by a code, however the address is spelled, or
only lets time pass. -/
def Visit.Repeats (address code : String) (v : Visit) : Prop :=
  (∃ email, v.action = .verifyEmail email code ∧ Address.normalize email = address) ∨
    ∃ seconds, v.action = .advance seconds

/-- A verification marks the record that has the code and an owner, or there is none. -/
theorem verify_cases (hlength : 1 ≤ codeLength) (hsound : Sound w.memory)
    (hflow : v.action.isFlow w.memory = true) (hlive : v.isLive w = true) {email code : String}
    (ha : v.action = .verifyEmail email code) :
    (∃ r owner, w.memory.emails.get? (Address.normalize email) = some r ∧ r.owner = some owner ∧
      r.code = code ∧ (v.perform codeLength w).1 = .ok (.verification .success) ∧
      (v.perform codeLength w).2.memory = {w.memory with
        emails := w.memory.emails.put (Address.normalize email) {r with verified := true}}) ∨
    (∀ account id, ¬ Owned w.memory account (Address.normalize email) code id) ∧
      (v.perform codeLength w).1 = .ok (.verification .invalidCode) ∧
      (v.perform codeLength w).2.memory = w.memory := by
  cases (visit_happens hlength hsound hflow hlive).1 with
  | @verified email' code' r owner ha' hr ho hcode hanswer hm =>
    rw [ha] at ha'
    cases ha'
    exact .inl ⟨r, owner, hr, ho, hcode, hanswer, hm⟩
  | invalid ha' hinvalid hanswer hm =>
    rw [ha] at ha'
    cases ha'
    refine .inr ⟨?_, hanswer, hm⟩
    rintro account id ⟨r, hr, ho, hcode, -⟩
    exact hinvalid r hr (by simp [ho]) hcode
  | aside _ hverify _ _ _ => exact absurd ha (hverify _ _)
  | claimed ha' | refused ha' | provisioned ha' | known ha' | removed ha' | missed ha' =>
    rw [ha] at ha'
    cases ha'

/-- Repeating the verification of a record that is verified changes nothing. -/
theorem perform_of_repeats (hlength : 1 ≤ codeLength) (hsound : Sound w.memory)
    (hflow : v.action.isFlow w.memory = true) (hlive : v.isLive w = true)
    {account : Uuid} {address code : String} {r : EmailRecord}
    (hr : w.memory.emails.get? address = some r) (ho : r.owner = some account) (hcode : r.code = code)
    (hverified : r.verified = true) (hrepeats : v.Repeats address code) :
    (v.perform codeLength w).2.memory = w.memory ∧
      ∀ email, v.action = .verifyEmail email code →
        (v.perform codeLength w).1 = .ok (.verification .success) := by
  rcases hrepeats with ⟨email, ha, rfl⟩ | ⟨seconds, ha⟩
  · rcases verify_cases hlength hsound hflow hlive ha with
      ⟨q, owner, hq, -, -, hanswer, hm⟩ | ⟨hnone, -⟩
    · rw [hr] at hq
      cases hq
      have hsame : {r with verified := true} = r := by rw [← hverified]
      rw [hsame, Table.put_of_get? hr] at hm
      exact ⟨hm, fun _ _ => hanswer⟩
    · exact absurd ⟨r, hr, ho, hcode, rfl⟩ (hnone account r.id)
  · obtain ⟨action, context⟩ := v
    obtain rfl : action = .advance seconds := ha
    exact ⟨rfl, fun _ h => by cases h⟩

theorem after_of_repeats (hlength : 1 ≤ codeLength) (hsound : Sound w.memory)
    {account : Uuid} {address code : String} {r : EmailRecord}
    (hr : w.memory.emails.get? address = some r) (ho : r.owner = some account) (hcode : r.code = code)
    (hverified : r.verified = true) {again : List Visit} (hagain : ∀ u ∈ again, u.Repeats address code)
    (hflows : w.flows codeLength again = true) : (w.after codeLength again).memory = w.memory := by
  induction again generalizing w with
  | nil => rfl
  | cons u rest ih =>
    simp only [World.flows, Bool.and_eq_true] at hflows
    have hm := (perform_of_repeats hlength hsound hflows.1.1 hflows.1.2 hr ho hcode hverified
      (hagain u (List.mem_cons_self ..))).1
    exact (ih (hm ▸ hsound) (hm ▸ hr) (fun x hx => hagain x (List.mem_cons_of_mem u hx))
      hflows.2).trans hm

/-- A verification marks the record of a claim that stands, or no claim with its code does. -/
theorem Tied.verify (hlength : 1 ≤ codeLength) (h : Tied codeLength start past)
    (hflow : v.action.isFlow (start.after codeLength past).memory = true)
    (hlive : v.isLive (start.after codeLength past) = true) {email code : String}
    (ha : v.action = .verifyEmail email code) :
    (∃ account r, Standing codeLength start past account (Address.normalize email) code r.id ∧
      (start.after codeLength past).memory.emails.get? (Address.normalize email) = some r ∧
      r.owner = some account ∧ r.code = code ∧
      (v.perform codeLength (start.after codeLength past)).1 = .ok (.verification .success) ∧
      (start.after codeLength (past ++ [v])).memory = {(start.after codeLength past).memory with
        emails := (start.after codeLength past).memory.emails.put (Address.normalize email)
          {r with verified := true}}) ∨
    (∀ account id, ¬ Standing codeLength start past account (Address.normalize email) code id) ∧
      (v.perform codeLength (start.after codeLength past)).1 = .ok (.verification .invalidCode) ∧
      (start.after codeLength (past ++ [v])).memory = (start.after codeLength past).memory := by
  simp only [h.claims, after_concat]
  rcases verify_cases hlength h.sound hflow hlive ha with
    ⟨r, account, hr, ho, hcode, hanswer, hm⟩ | hinvalid
  · exact .inl ⟨account, r, ⟨r, hr, ho, hcode, rfl⟩, hr, ho, hcode, hanswer, hm⟩
  · exact .inr hinvalid

/-- A claim stands against an address that was provisioned only if it was claimed since. -/
theorem not_standing_of_provisioned (hlength : 1 ≤ codeLength) (hsound : Sound start.memory)
    (hempty : start.memory.emails = .empty) (hpast : start.flows codeLength past = true)
    {earlier later : List Visit} {u : Visit} (hsplit : past = earlier ++ u :: later)
    {account id : Uuid} {address code : String}
    (hprovisions : u.Provisions codeLength (start.after codeLength earlier) address)
    (hunclaimed : (start.after codeLength (earlier ++ [u])).Unclaimed codeLength later address) :
    ¬ Standing codeLength start past account address code id := by
  have hcut : past = earlier ++ [u] ++ later := by simp [hsplit]
  subst hcut
  rw [flows_append, flows_append, Bool.and_eq_true, Bool.and_eq_true] at hpast
  obtain ⟨⟨hearlier, hu⟩, -⟩ := hpast
  simp only [World.flows, Bool.and_true, Bool.and_eq_true] at hu
  exact not_standing_of_unclaimed (not_standing_of_provisions hlength
    (tied_of_flows hlength hsound hempty hearlier) hu.1 hu.2 hprovisions) hunclaimed

/-- What comes of verifying an address by a code after the visits `past`. -/
structure Verdict (codeLength : Nat) (start : World) (past : List Visit) (v : Visit)
    (address code : String) : Prop where
  /-- It succeeds exactly if a claim that delivered the code stands. -/
  success : (v.perform codeLength (start.after codeLength past)).1 = .ok (.verification .success) ↔
    ∃ account id, Standing codeLength start past account address code id
  /-- Or else it answers that the code is invalid, and leaves the store as it is. -/
  otherwise : (v.perform codeLength (start.after codeLength past)).1 ≠ .ok (.verification .success) →
    (v.perform codeLength (start.after codeLength past)).1 = .ok (.verification .invalidCode) ∧
    (start.after codeLength (past ++ [v])).memory = (start.after codeLength past).memory
  /-- With success, the record of the claim is marked as verified, and nothing else changes. -/
  marks : (v.perform codeLength (start.after codeLength past)).1 = .ok (.verification .success) →
    ∃ account r, Standing codeLength start past account address code r.id ∧
      (start.after codeLength past).memory.emails.get? address = some r ∧ r.owner = some account ∧
      (start.after codeLength (past ++ [v])).memory = {(start.after codeLength past).memory with
        emails := (start.after codeLength past).memory.emails.put address {r with verified := true}}
  /-- No code verifies an address that was provisioned and not claimed since. -/
  provisioned : ∀ earlier u later, past = earlier ++ u :: later →
    u.Provisions codeLength (start.after codeLength earlier) address →
    (start.after codeLength (earlier ++ [u])).Unclaimed codeLength later address →
    (v.perform codeLength (start.after codeLength past)).1 = .ok (.verification .invalidCode)
  /-- Repeated, it succeeds again each time, and changes nothing more. -/
  again : (v.perform codeLength (start.after codeLength past)).1 = .ok (.verification .success) →
    ∀ again u email, (∀ x ∈ again, x.Repeats address code) →
      u.action = .verifyEmail email code → Address.normalize email = address →
      (start.after codeLength (past ++ [v])).flows codeLength (again ++ [u]) = true →
      (u.perform codeLength (start.after codeLength (past ++ v :: again))).1 =
        .ok (.verification .success) ∧
      (start.after codeLength (past ++ v :: again ++ [u])).memory =
        (start.after codeLength (past ++ [v])).memory

/-- **A verification succeeds exactly if a claim that delivered its code stands.** -/
theorem verification_provenance (hlength : 1 ≤ codeLength) {w₀ : World}
    (hempty : w₀.memory = .empty) {seeds : List Action} (hseeds : ∀ a ∈ seeds, a.isSeeding = true)
    {past : List Visit} {v : Visit} {email code : String} (ha : v.action = .verifyEmail email code)
    (hflows : (w₀.seed seeds).flows codeLength (past ++ [v]) = true) :
    Verdict codeLength (w₀.seed seeds) past v (Address.normalize email) code := by
  obtain ⟨hlinked, hnone⟩ := seed_sound hseeds
    ⟨hempty ▸ Store.Memory.linked_empty, congrArg State.emails hempty⟩
  have hsound : Sound (w₀.seed seeds).memory :=
    ⟨Store.Memory.filed_of_no_records hnone, hlinked, fun x r _ hr => by simp [hnone] at hr⟩
  rw [flows_append, Bool.and_eq_true] at hflows
  obtain ⟨hpast, hnow⟩ := hflows
  simp only [World.flows, Bool.and_true, Bool.and_eq_true] at hnow
  have htied := tied_of_flows hlength hsound hnone hpast
  rcases htied.verify hlength hnow.1 hnow.2 ha with
    ⟨account, r, hstanding, hr, ho, hcode, hanswer, hm⟩ | ⟨hnothing, hanswer, hm⟩
  · have hmarked : ((w₀.seed seeds).after codeLength (past ++ [v])).memory.emails.get?
        (Address.normalize email) = some {r with verified := true} := by
      rw [hm, Table.get?_put_self]
    have hsound' := (htied.concat hlength hnow.1 hnow.2).sound
    refine ⟨⟨fun _ => ⟨account, r.id, hstanding⟩, fun _ => hanswer⟩, fun h => absurd hanswer h,
      fun _ => ⟨account, r, hstanding, hr, ho, hm⟩, fun earlier u later hsplit hu hlater => ?_,
      fun _ again u email' hagain hu hspelled hflows' => ?_⟩
    · exact absurd hstanding
        (not_standing_of_provisioned hlength hsound hnone hpast hsplit hu hlater)
    · rw [flows_append, Bool.and_eq_true] at hflows'
      obtain ⟨hagain', hlast⟩ := hflows'
      have hm' := after_of_repeats (r := {r with verified := true}) hlength hsound' hmarked ho hcode
        rfl hagain hagain'
      have hworld : ((w₀.seed seeds).after codeLength (past ++ [v])).after codeLength again =
          (w₀.seed seeds).after codeLength (past ++ v :: again) := by simp [World.after]
      rw [hworld] at hm' hlast
      simp only [World.flows, Bool.and_true, Bool.and_eq_true] at hlast
      obtain ⟨hsame, hanswer'⟩ := perform_of_repeats (v := u) (r := {r with verified := true}) hlength
        (hm' ▸ hsound') hlast.1 hlast.2 (hm' ▸ hmarked) ho hcode rfl (.inl ⟨email', hu, hspelled⟩)
      refine ⟨hanswer' email' hu, ?_⟩
      rw [after_concat, hsame, hm']
  · have hfails : (v.perform codeLength ((w₀.seed seeds).after codeLength past)).1 ≠
        .ok (.verification .success) := by
      rw [hanswer]
      intro h
      cases h
    have hstands : ¬ ∃ account id, Standing codeLength (w₀.seed seeds) past account
        (Address.normalize email) code id := by
      rintro ⟨account, id, h⟩
      exact hnothing account id h
    exact ⟨⟨fun h => absurd h hfails, fun h => absurd h hstands⟩,
      fun _ => ⟨hanswer, hm⟩, fun h => absurd h hfails, fun _ _ _ _ _ _ => hanswer,
      fun h => absurd h hfails⟩

instance (a : Answer) : Decidable (a = .ok (.verification .success)) :=
  match a with
  | .ok (.verification .success) => .isTrue rfl
  | .ok (.verification .invalidCode) | .ok .nothing | .ok (.id _) | .ok (.reply _) | .ok (.value _)
  | .ok (.state _) | .error _ => .isFalse fun h => by cases h

/-- The address is provisioned, claimed under another spelling, and tried with the seed code. -/
def claimedAfterProvisioning : List Visit :=
  [⟨.provisionEmail "a@x.com", .plain⟩, ⟨.addEmail .console ⟨1⟩ " A@X.com", .plain⟩,
    ⟨.verifyEmail "a@x.com" "123456", .plain⟩]

/-- The delivered code verifies the address, and the claim that delivered it stands. -/
theorem verification_provenance_provisioned :
    let start := World.seed ⟨.empty, 0, .standard, []⟩ [.addAccount "alice" none (some ⟨1⟩)]
    (∃ account id, Standing 6 start claimedAfterProvisioning account "a@x.com" "789012" id) ∧
    ¬ ∃ account id, Standing 6 start claimedAfterProvisioning account "a@x.com" "123456" id := by
  intro start
  have hseeds : ∀ a ∈ [Action.addAccount "alice" none (some ⟨1⟩)], a.isSeeding = true := by
    simp [Action.isSeeding]
  have hcode : Verdict 6 start claimedAfterProvisioning ⟨.verifyEmail "a@x.com" "789012", .plain⟩
      (Address.normalize "a@x.com") "789012" :=
    verification_provenance (by decide) rfl hseeds rfl (by decide +kernel)
  have hseed : Verdict 6 start claimedAfterProvisioning ⟨.verifyEmail "a@x.com" "123456", .plain⟩
      (Address.normalize "a@x.com") "123456" :=
    verification_provenance (by decide) rfl hseeds rfl (by decide +kernel)
  have hn : Address.normalize "a@x.com" = "a@x.com" := by decide +kernel
  rw [hn] at hcode hseed
  refine ⟨hcode.success.1 (by decide +kernel), fun h => ?_⟩
  exact absurd (hseed.success.2 h) (by decide +kernel)

end EmailOwnership.Rehearsal
