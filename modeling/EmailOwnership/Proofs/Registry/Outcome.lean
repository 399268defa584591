import EmailOwnership.Proofs.Memory.Step
import EmailOwnership.Proofs.Program.Settled

/-! What a whole operation does when nothing comes between.

Under a context that is not done, each store call of an operation is one step of the store
(`run_stored`). From this follow the outcomes of `add`, one for each state in which it may
find the address: unknown, unowned, the account's own and unverified, its own and verified,
or another account's. -/
namespace EmailOwnership.Registry
open Rehearsal
open Store (Call Reply)
open Store.Memory (State step)
variable {α : Type} {operation requestId address code : String} {details : Details}
  {account : Uuid} {sender : Sender} {context : Context String} {w : World}

/-! ### Stored calls -/

/-- The failure that a fault of the store becomes. -/
def raised (details : Details) (fault : Store.Fault) : Failure :=
  if fault.isStorage then .registry ⟨.internal, fault.message, details, some fault⟩
  else .store fault

/-- The report of a fault, on which nothing follows. -/
def report (operation : String) (details : Details) (fault : Store.Fault) : Program α :=
  if fault.isStorage then do
    Program.log (.storageFailed operation)
    .fail (raised details fault)
  else .fail (raised details fault)

theorem report_settled (operation : String) (details : Details) (fault : Store.Fault) :
    (report operation details fault : Program α).settled? = some (.error (raised details fault)) := by
  unfold report
  split <;> rfl

/-- A stored call goes on with its reply, and ends with the report of a fault. -/
theorem stored_bind (operation : String) (details : Details) (c : Call) (f : Reply → Program α) :
    stored operation details c >>= f = .ask (.store c) fun
      | .ok reply => f reply
      | .error fault => report operation details fault := by
  refine congrArg (Program.ask (.store c)) (funext fun answer => ?_)
  cases answer with
  | ok reply => rfl
  | error fault =>
    show (if fault.isStorage then _ else _) >>= f = report operation details fault
    unfold report raised
    cases fault.isStorage <;> rfl

/-- A stored call goes on with the reply; a fault of the store settles a failure. -/
theorem stored_bind_ask (operation : String) (details : Details) (c : Call)
    (f : Reply → Program α) :
    ∃ next, stored operation details c >>= f = .ask (.store c) next ∧
      (∀ reply, next (.ok reply) = f reply) ∧
      ∀ fault, ∃ e, (next (.error fault)).settled? = some (.error e) :=
  ⟨_, stored_bind operation details c f, fun _ => rfl, fun fault =>
    ⟨_, report_settled operation details fault⟩⟩

theorem perform_step (hlive : context.isDone w.clock = false) (c : Call) :
    w.perform context c = ((step c w.memory).1, {w with memory := (step c w.memory).2}) := by
  unfold World.perform
  rw [Store.Memory.perform_live hlive]

/-- A call that the store answers, and what follows. -/
theorem run_stored (hlive : context.isDone w.clock = false) {c : Call} {reply : Reply} {s : State}
    (hstep : step c w.memory = (.ok reply, s)) (f : Reply → Program α) :
    (stored operation details c >>= f).run (plainHandler sender context) w =
      (f reply).run (plainHandler sender context) {w with memory := s} := by
  have hperform : plainHandler sender context (.store c) w = (.ok reply, {w with memory := s}) := by
    show w.perform context c = _
    rw [perform_step hlive, hstep]
    rfl
  show Program.run _ (Program.ask (.store c) _) w = _
  rw [Program.run_ask, hperform]
  rfl

/-! ### Claims -/

theorem add_of_code (hcode : code ≠ "") :
    add requestId account address code =
      stored "add" (claimDetails requestId account address) (.getEmail address) >>=
        claim (claimDetails requestId account address) account address code := by
  unfold add
  rw [if_neg (by simpa using hcode)]

theorem claim_unknown :
    claim details account address code (.ofRecord? none) = create details account address code :=
  rfl

/-- What a claim does about a record, by its owner and then by whether it is verified. -/
theorem claim_record (row : Store.EmailRow) :
    claim details account address code (.record row) =
      if row.owner = .null then takeOver details account address code
      else if row.owner ≠ .uuid account then refuse .claimed details
      else if row.verified.isTrue then refuse .verified details
      else reissue details account address code := rfl

theorem claim_unowned {r : EmailRecord} (hr : r.owner = none) :
    claim details account address code (.ofRecord? (some r)) =
      takeOver details account address code := by
  have hrow : (Store.EmailRow.ofRecord r).owner = .null := congrArg Store.Value.ofOwner hr
  rw [Reply.ofRecord?, claim_record, if_pos hrow]

theorem claim_foreign {r : EmailRecord} {owner : Uuid} (hr : r.owner = some owner)
    (hne : owner ≠ account) :
    claim details account address code (.ofRecord? (some r)) = refuse .claimed details := by
  have hrow : (Store.EmailRow.ofRecord r).owner = .uuid owner :=
    congrArg Store.Value.ofOwner hr
  rw [Reply.ofRecord?, claim_record, hrow, if_neg (by simp), if_pos (by simpa using hne)]

theorem claim_verified {r : EmailRecord} (hr : r.owner = some account) (hv : r.verified = true) :
    claim details account address code (.ofRecord? (some r)) = refuse .verified details := by
  have hrow : (Store.EmailRow.ofRecord r).owner = .uuid account :=
    congrArg Store.Value.ofOwner hr
  have hflag : (Store.EmailRow.ofRecord r).verified.isTrue = true := hv
  rw [Reply.ofRecord?, claim_record, hrow, if_neg (by simp), if_neg (by simp), if_pos hflag]

theorem claim_own {r : EmailRecord} (hr : r.owner = some account) (hv : r.verified = false) :
    claim details account address code (.ofRecord? (some r)) =
      reissue details account address code := by
  have hrow : (Store.EmailRow.ofRecord r).owner = .uuid account :=
    congrArg Store.Value.ofOwner hr
  have hflag : (Store.EmailRow.ofRecord r).verified.isTrue = false := hv
  rw [Reply.ofRecord?, claim_record, hrow, if_neg (by simp), if_neg (by simp),
    if_neg (by rw [hflag]; exact Bool.false_ne_true)]

/-! ### Whole claims -/

section Whole
variable (hlive : context.isDone w.clock = false)
include hlive

theorem run_add (hcode : code ≠ "") :
    (add requestId account address code).run (plainHandler sender context) w =
      (claim (claimDetails requestId account address) account address code
        (.ofRecord? (w.memory.emails.get? address))).run (plainHandler sender context) w := by
  rw [add_of_code hcode, run_stored hlive rfl]

theorem run_create (h : w.memory.emails.get? address = none) :
    (create details account address code).run (plainHandler sender context) w =
      (.ok (.ofRecord? (some (w.memory.fresh address (some account) code))),
        {w with memory := (step (.createEmail address (some account) code) w.memory).2}.note
          (.added address account)) := by
  unfold create
  rw [run_stored hlive (Store.Memory.step_create h), Store.Memory.step_create h]
  rfl

theorem run_takeOver {r : EmailRecord} (h : w.memory.emails.get? address = some r)
    (hr : r.owner = none) :
    (takeOver details account address code).run (plainHandler sender context) w =
      (.ok (.ofRecord? (some (Store.Memory.taken r account code))),
        {w with memory := (step (.claimUnowned address account code) w.memory).2}.note
          (.unownedClaimed address account)) := by
  unfold takeOver
  rw [run_stored hlive (Store.Memory.step_claim h hr), Store.Memory.step_claim h hr]
  rfl

theorem run_reissue {r : EmailRecord} (h : w.memory.emails.get? address = some r)
    (hr : r.owner = some account) (hv : r.verified = false) :
    (reissue details account address code).run (plainHandler sender context) w =
      (.ok (.ofRecord? (some {r with code := code})),
        {w with memory := (step (.reissueCode address account code) w.memory).2}.note
          (.codeReissued address)) := by
  unfold reissue
  rw [run_stored hlive (Store.Memory.step_reissue h hr hv), Store.Memory.step_reissue h hr hv]
  rfl

end Whole
end EmailOwnership.Registry
