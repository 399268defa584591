import EmailOwnership.Proofs.Crowd.Dialogue
import EmailOwnership.Proofs.Registry.Course
import EmailOwnership.Proofs.Registry.Writes

/-! Operations that fail have written nothing.

Over any store, an operation of the registry asks for at most one write, and ends well as soon
as it is granted; a storage fault ends it as an internal error that names the fault, the
request and the operation (`Sparing`). So an operation that fails was granted nothing, and
over the memory store it has changed nothing (`failed_operation_writes_nothing`): what is not
granted there does not happen (`step_of_not_granted`). -/
namespace EmailOwnership

/-! ### Granted writes -/

namespace Store
open Memory (State step step_create step_create_known step_of_read step_fault)

/-- Whether the store has made a write that it answers so: it brings a record, or a count that is
not zero. -/
def Call.granted : Call → Reply → Bool
  | .createEmail .., reply | .claimUnowned .., reply | .reissueCode .., reply =>
    decide (reply ≠ .nothing)
  | .markVerified .., reply | .deleteEmail .., reply => !reply.isZero
  | _, _ => false

theorem Call.isWrite_of_granted {c : Call} {reply : Reply} (h : c.granted reply = true) :
    c.isWrite = true := by
  cases c <;> first | rfl | cases h

/-- The memory store has not made a write that it does not grant. -/
theorem step_of_not_granted {c : Call} {s s' : State} {reply : Reply}
    (h : step c s = (.ok reply, s')) (hg : c.granted reply = false) : s' = s := by
  cases c with
  | createEmail address owner code =>
    cases hr : s.emails.get? address with
    | none =>
      rw [step_create hr] at h
      cases h
      cases hg
    | some r =>
      rw [step_create_known hr] at h
      cases h
      rfl
  | claimUnowned address account code =>
    simp only [step] at h
    split at h
    · split at h <;> cases h
      · cases hg
      · rfl
    · cases h
      rfl
  | reissueCode address account code =>
    simp only [step] at h
    split at h
    · split at h <;> cases h
      · cases hg
      · rfl
    · cases h
      rfl
  | markVerified address account =>
    simp only [step] at h
    split at h
    · split at h <;> cases h
      · cases hg
      · rfl
    · cases h
      rfl
  | deleteEmail email account =>
    simp only [step] at h
    split at h <;> cases h
    · cases hg
    · rfl
  | _ => exact (congrArg Prod.snd h).symm.trans (step_of_read rfl s)

end Store

/-! ### Sparing exchanges -/

namespace Registry
open Program (Exchange Ends)
open Store (Call Fault Reply)
variable {α β : Type} {requestId operation address code : String} {about : List (String × Detail)}
  {account : Uuid} {xs : List Exchange} {o : Except Failure α}

/-- The error names the fault as its cause, and the request and the operation in its details. -/
structure Classifies (requestId operation : String) (fault : Fault) (e : RegistryError) : Prop where
  kind : e.kind = .internal
  message : e.message = fault.message
  cause : e.cause = some fault
  request : e.details.get? "request_id" = some (.text requestId)
  operation : e.details.get? "operation" = some (.text operation)

/-- Whether a write was asked for and granted. -/
def wrote : Exchange → Bool
  | (c, .ok reply) => c.granted reply
  | _ => false

/-- An operation that exchanges this with its store, and ends so, writes once at most, does nothing
after a write that was granted or after a fault, and reports every storage fault. -/
structure Sparing (requestId operation : String) (xs : List Exchange) (o : Except Failure α) :
    Prop where
  once : (xs.filter fun x => x.1.isWrite).length ≤ 1
  last : ∀ x ∈ xs.dropLast, wrote x = false ∧ ∃ reply, x.2 = .ok reply
  granted : ∀ x ∈ xs, wrote x = true → ∃ a, o = .ok a
  faults : ∀ c fault, (c, .error fault) ∈ xs → fault.isStorage = true →
    ∃ e, o = .error (.registry e) ∧ Classifies requestId operation fault e

theorem Sparing.map {f : α → β} (h : Sparing requestId operation xs o) :
    Sparing requestId operation xs (o.map f) := by
  refine ⟨h.once, h.last, fun x hx hw => ?_, fun c fault hx hf => ?_⟩
  · obtain ⟨a, rfl⟩ := h.granted x hx hw
    exact ⟨f a, rfl⟩
  · obtain ⟨e, rfl, he⟩ := h.faults c fault hx hf
    exact ⟨e, rfl, he⟩

/-- Details under other names leave the request and the operation as they are. -/
theorem details_get? (habout : ∀ x ∈ about, x.1 ≠ "request_id" ∧ x.1 ≠ "operation") :
    (details requestId operation about).get? "request_id" = some (.text requestId) ∧
      (details requestId operation about).get? "operation" = some (.text operation) := by
  have hkept : ∀ k, (∀ x ∈ about, x.1 ≠ k) → ∀ t : Details,
      (about.foldl (fun t r => t.put r.1 r.2) t).get? k = t.get? k := by
    intro k hk
    clear habout
    induction about with
    | nil => exact fun _ => rfl
    | cons x rest ih =>
      intro t
      rw [List.foldl_cons, ih fun y hy => hk y (List.mem_cons_of_mem x hy),
        Table.get?_put_of_ne _ _ fun h => hk x (List.mem_cons_self ..) h.symm]
  constructor
  · refine (hkept _ (fun x hx => (habout x hx).1) _).trans ?_
    rw [Table.get?_put_of_ne _ _ (show "request_id" ≠ "operation" by decide), Table.get?_put_self]
  · exact (hkept _ (fun x hx => (habout x hx).2) _).trans (Table.get?_put_self ..)

theorem classifies_raised (habout : ∀ x ∈ about, x.1 ≠ "request_id" ∧ x.1 ≠ "operation")
    {fault : Fault} (hf : fault.isStorage = true) :
    ∃ e, (.error (raised (details requestId operation about) fault) : Except Failure α) =
      .error (.registry e) ∧ Classifies requestId operation fault e := by
  exact ⟨_, congrArg _ (if_pos hf), rfl, rfl, rfl, (details_get? habout).1, (details_get? habout).2⟩

/-! ### Building up -/

theorem sparing_nil : Sparing requestId operation [] o := by
  refine ⟨Nat.zero_le 1, ?_, ?_, ?_⟩ <;> simp

theorem sparing_fault (habout : ∀ x ∈ about, x.1 ≠ "request_id" ∧ x.1 ≠ "operation") (c : Call)
    (fault : Fault) :
    Sparing requestId operation [(c, .error fault)]
      (.error (raised (details requestId operation about) fault) : Except Failure α) := by
  refine ⟨List.length_filter_le .., by simp, by simp [wrote], fun c' fault' hx hstorage => ?_⟩
  obtain ⟨rfl, rfl⟩ : c' = c ∧ fault' = fault := by simpa using hx
  exact classifies_raised habout hstorage

theorem sparing_answer {c : Call} {reply : Reply}
    (hgranted : c.granted reply = true → ∃ a, o = .ok a) :
    Sparing requestId operation [(c, .ok reply)] o := by
  refine ⟨List.length_filter_le .., by simp, fun x hx hw => ?_, by simp⟩
  obtain rfl := List.mem_singleton.1 hx
  exact hgranted hw

theorem sparing_read {c : Call} {reply : Reply} (hc : c.isWrite = false) :
    Sparing requestId operation [(c, .ok reply)] o := by
  refine sparing_answer fun hg => ?_
  rw [Call.isWrite_of_granted hg] at hc
  cases hc

/-- An exchange in front that wrote nothing, if it is no write or none follows. -/
theorem Sparing.cons {c : Call} {reply : Reply} (h : Sparing requestId operation xs o)
    (hg : c.granted reply = false) (hw : c.isWrite = false ∨ ∀ x ∈ xs, x.1.isWrite = false) :
    Sparing requestId operation ((c, .ok reply) :: xs) o := by
  refine ⟨?_, fun x hx => ?_, fun x hx hwrote => ?_, fun c' fault hx => ?_⟩
  · rcases hw with hread | hreads
    · rw [List.filter_cons_of_neg (by simp [hread])]
      exact h.once
    · rw [List.filter_cons, List.filter_eq_nil_iff.2 fun x hx => by simp [hreads x hx]]
      split <;> simp
  · cases xs with
    | nil => cases hx
    | cons y ys =>
      rcases List.mem_cons.1 hx with rfl | hmem
      · exact ⟨hg, reply, rfl⟩
      · exact h.last x hmem
  · rcases List.mem_cons.1 hx with rfl | hmem
    · exact absurd hwrote (by rw [wrote, hg]; exact Bool.false_ne_true)
    · exact h.granted x hmem hwrote
  · rcases List.mem_cons.1 hx with heq | hmem
    · cases heq
    · exact h.faults c' fault hmem

/-- An operation of one call is sparing if it ends well once its write is granted. -/
theorem single_sparing {c : Call} {outcome : Reply → Except Failure α}
    (h : Single (details requestId operation about) c outcome xs o)
    (habout : ∀ x ∈ about, x.1 ≠ "request_id" ∧ x.1 ≠ "operation")
    (hgranted : ∀ reply, c.granted reply = true → ∃ a, outcome reply = .ok a) :
    Sparing requestId operation xs o := by
  cases h with
  | faulty => exact sparing_fault habout _ _
  | answered => exact sparing_answer (hgranted _)

/-! ### Claims -/

theorem Picks.isWrite {look : Reply} {c : Call} (h : Picks account address code look c) :
    c.isWrite = true := by
  cases h <;> rfl

theorem Picks.not_granted {look : Reply} {c : Call} (h : Picks account address code look c) :
    c.granted .nothing = false := by
  cases h <;> rfl

/-- **A claim is sparing**, on each of its ways. -/
theorem claiming_sparing {o : Except Failure Reply}
    (h : Claiming (claimDetails requestId account address) account address code xs o) :
    Sparing requestId "add" xs o := by
  have habout : ∀ x ∈ [("address", Detail.text address), ("account_id", Detail.id account)],
      x.1 ≠ "request_id" ∧ x.1 ≠ "operation" := by simp
  cases h with
  | unread => exact sparing_fault habout _ _
  | illegible _ _ => exact sparing_read rfl
  | foreign _ _ _ => exact sparing_read rfl
  | verified _ _ _ => exact sparing_read rfl
  | unwritten _ => exact (sparing_fault habout _ _).cons rfl (.inl rfl)
  | granted _ _ => exact (sparing_answer fun _ => ⟨_, rfl⟩).cons rfl (.inl rfl)
  | lost hpick _ =>
    refine (sparing_answer fun hg => ?_).cons rfl (.inl rfl)
    rw [hpick.not_granted] at hg
    cases hg
  | unreread hpick =>
    refine ((sparing_fault habout _ _).cons hpick.not_granted (.inr ?_)).cons rfl (.inl rfl)
    simp [Call.isWrite]
  | reread hpick _ =>
    refine ((sparing_read rfl).cons hpick.not_granted (.inr ?_)).cons rfl (.inl rfl)
    simp [Call.isWrite]

/-- What a claim answers is what its one write was granted. -/
theorem claiming_answer {reply : Reply} (h : Claiming (claimDetails requestId account address)
      account address code xs (.ok reply)) :
    ∃ c, (xs.filter fun x => x.1.isWrite) = [(c, .ok reply)] := by
  cases h with
  | @granted look _ c hpick _ =>
    refine ⟨c, ?_⟩
    rw [List.filter_cons_of_neg (by simp [Call.isWrite]),
      List.filter_cons_of_pos (by exact hpick.isWrite), List.filter_nil]

end Registry

/-! ### Every operation -/

namespace Rehearsal
open Program (Exchange Ends Handler ends_run)
open Registry (Sparing single_sparing wrote)
open Store (Call)

variable {codeLength : Nat} {requestId operation : String} {action : Action} {p : Program Result}
  {xs : List Exchange} {o : Except Failure Result}

/-- **Every operation of the registry is sparing**, on each of its ways. -/
theorem Action.Goes.sparing (h : action.Goes requestId xs o)
    (ha : action.operation? = some operation) : Sparing requestId operation xs o := by
  cases h with
  | codelessAdd => exact Registry.sparing_nil
  | codelessProvision => exact Registry.sparing_nil
  | add hway =>
    cases ha
    exact (Registry.claiming_sparing hway).map
  | provision hway =>
    cases ha
    refine (single_sparing hway (by simp) fun reply hg => ?_).map
    exact ⟨reply, if_neg (of_decide_eq_true hg)⟩
  | getCode hway =>
    cases ha
    exact (single_sparing hway (by simp) fun _ hg => nomatch hg).map
  | lookupCode hway =>
    cases ha
    exact (single_sparing hway (by simp) fun _ _ => ⟨_, rfl⟩).map
  | verify hway =>
    cases ha
    refine (single_sparing hway (by simp) fun affected hg => ?_).map
    have hnonzero : affected.isZero = false := by simpa [Call.granted] using hg
    exact ⟨(), if_neg (by rw [hnonzero]; exact Bool.false_ne_true)⟩
  | lookupAccount hway =>
    cases ha
    exact (single_sparing hway (by simp) fun _ _ => ⟨_, rfl⟩).map
  | remove hway =>
    cases ha
    exact (single_sparing hway (by simp) fun _ _ => ⟨_, rfl⟩).map

/-- A claim that succeeds answers what its one write brought. -/
theorem Action.Goes.answer {account : Uuid} {address code : String} {result : Result}
    (h : (Action.add account address code).Goes requestId xs (.ok result)) :
    ∃ c reply, result = .reply reply ∧ (xs.filter fun x => x.1.isWrite) = [(c, .ok reply)] := by
  generalize ho : Except.ok result = outcome at h
  cases h with
  | codelessAdd => cases ho
  | @add _ _ _ _ o hway =>
    cases o with
    | error e => cases ho
    | ok reply =>
      cases ho
      obtain ⟨c, hc⟩ := Registry.claiming_answer hway
      exact ⟨c, reply, rfl, hc⟩

/-! ### Over the memory store -/

/-- A turn in which a request is granted no write leaves the memory store alone. -/
theorem memory_of_not_wrote {α : Type} {c : Crowd α} {k : Nat}
    (h : ∀ x, c.exchange? k (.proceed k) = some x → wrote x = false) :
    (c.take (.proceed k)).world.memory = c.world.memory := by
  cases hx : c.exchange? k (.proceed k) with
  | none => exact Crowd.memory_of_silent hx
  | some x =>
    obtain ⟨call, answer⟩ := x
    obtain ⟨-, -, ⟨-, hanswer, hm⟩ | ⟨-, -, hm⟩⟩ := Crowd.exchange?_cases hx
    · rw [hm]
      have hstep : Store.Memory.step call c.world.memory =
          (answer, (Store.Memory.step call c.world.memory).2) := Prod.ext hanswer.symm rfl
      cases answer with
      | error fault => exact Store.Memory.step_fault hstep
      | ok reply => exact Store.step_of_not_granted hstep (h _ hx)
    · exact hm

/-- **Operations that fail have written nothing.** Over any store, in any state and whatever it
does between the calls, an operation of the registry is sparing, and a claim answers what its one
write brought. Over the memory store, among any other requests, an operation that fails has in
none of its turns changed records, accounts or the count of identifiers. -/
theorem failed_operation_writes_nothing (codeLength : Nat) (context : Context String)
    (ha : action.operation? = some operation)
    (hp : action.program? context.requestId codeLength = some p) :
    (∀ (σ : Type) (handle : Handler σ) (s : σ),
      Sparing context.requestId operation (p.dialogue handle s) (p.run handle s).1 ∧
      ∀ account address code, action = .add account address code →
        ∀ result, (p.run handle s).1 = .ok result → ∃ c reply, result = .reply reply ∧
          ((p.dialogue handle s).filter fun x => x.1.isWrite) = [(c, .ok reply)]) ∧
    ∀ (requests : List Request) (w : World) (k : Nat) (turns : List Turn) (e : Failure),
      requests[k]? = some ⟨context, action⟩ →
      ((Crowd.start codeLength requests w).run turns).outcome? k = some (.error e) →
      ∀ before after, turns = before ++ .proceed k :: after →
        (((Crowd.start codeLength requests w).run before).take (.proceed k)).world.memory =
          ((Crowd.start codeLength requests w).run before).world.memory := by
  refine ⟨fun σ handle s => ?_, fun requests w k turns e hk ho before after hcut => ?_⟩
  · have hway := ends_run handle p s
    refine ⟨(Action.ends_goes ha hp hway).sparing ha, fun account address code hadd result hok => ?_⟩
    subst hadd
    rw [hok] at hway
    exact (Action.ends_goes ha hp hway).answer
  · have hbegin : (Request.begin codeLength ⟨context, action⟩).program = p := by
      unfold Request.begin
      rw [hp]
      rfl
    have hway := Crowd.ends_of_outcome (Crowd.program?_start hk w) ho
    rw [hbegin] at hway
    have hsparing := (Action.ends_goes ha hp hway).sparing ha
    -- an operation that fails was granted no write
    refine memory_of_not_wrote fun x hx => Bool.eq_false_iff.2 fun hwrote => ?_
    have hmem : x ∈ (Crowd.start codeLength requests w).dialogue k turns := by
      rw [hcut, Crowd.dialogue_of_exchange hx]
      simp
    obtain ⟨a, hok⟩ := hsparing.granted x hmem hwrote
    cases hok

/-- Surroundings whose store answers no call. -/
def unreachable : Handler Unit
  | .store _, s => (.error (.unavailable "connection refused"), s)
  | .log _, s => ((), s)
  | .deliver .., s => (.ok (), s)
  | .drawCode _, s => ("", s)

/-- Two accounts that claim one address. -/
def racing : List Request :=
  [⟨.new "r" none, .add ⟨1⟩ "a@x.com" "111111"⟩, ⟨.new "s" none, .add ⟨2⟩ "a@x.com" "222222"⟩]

/-- The first looks first, and the second is there first. -/
def overtaken : List Turn :=
  [.proceed 0, .proceed 1, .proceed 1, .proceed 1, .proceed 0, .proceed 0]

/-- A claim that loses its race, or finds no store, has changed nothing and says why. -/
theorem failed_operation_writes_nothing_overtaken :
    let start := Crowd.start 6 racing ⟨.empty, 0, .standard, []⟩
    (∃ e, (start.run overtaken).outcome? 0 = some (.error e)) ∧
    (∀ before after, overtaken = before ++ .proceed 0 :: after →
      ((start.run before).take (.proceed 0)).world.memory = (start.run before).world.memory) ∧
    ∃ p, (Action.add ⟨1⟩ "a@x.com" "111111").program? "r" 6 = some p ∧
      Sparing "r" "add" [(.getEmail "a@x.com", .error (.unavailable "connection refused"))]
        (p.run unreachable ()).1 := by
  intro start
  obtain ⟨e, he⟩ : ∃ e, (start.run overtaken).outcome? 0 = some (.error e) := by
    have hkind : ((start.run overtaken).outcome? 0).bind Registry.errorKind? =
        some .alreadyClaimed := by decide +kernel
    obtain ⟨o, ho, hk⟩ := Option.bind_eq_some_iff.1 hkind
    cases o with
    | ok result => cases hk
    | error e => exact ⟨e, ho⟩
  have hp : (Action.add ⟨1⟩ "a@x.com" "111111").program? "r" 6 = some _ := rfl
  have h := failed_operation_writes_nothing 6 (.new "r" none) rfl hp
  exact ⟨⟨e, he⟩, h.2 racing _ 0 overtaken e rfl he, _, rfl, (h.1 Unit unreachable ()).1⟩

end Rehearsal
end EmailOwnership
