import EmailOwnership.Proofs.Memory.Filing
import EmailOwnership.Proofs.Program.Dialogue
import EmailOwnership.Proofs.Registry.Decision

/-! The decision table of claims.

Left alone with the memory store and a live request, a claim looks at its address once, and the
record that it finds decides the rest: one write, which matches, or a refusal (`claim_decides`).
The course of a program is all that can be seen of it, from its exchanges with the store to the
world that it leaves; each row of the table is an equation for the course. So nothing else
happens in it: a write that matches nothing, and the second look that may follow one, occur in
no row. -/
namespace EmailOwnership.Registry
open Program (Exchange Handler)
open Rehearsal
open Store (Call Reply)
open Store.Memory (Filed State step)

/-! ### The course of a program -/

section Course
variable {α σ : Type} {operation requestId address code : String} {details : Details}
  {account : Uuid} {sender : Sender} {context : Context String} {w : World}

/-- What a program exchanges with its store, how it ends, and what it leaves. -/
def course (handle : Handler σ) (p : Program α) (s : σ) :
    List Exchange × Except Failure α × σ :=
  (p.dialogue handle s, p.run handle s)

/-- A call that the store answers, and then what follows. -/
theorem course_stored (hlive : context.isDone w.clock = false) {c : Call} {reply : Reply} {s : State}
    (hstep : step c w.memory = (.ok reply, s)) (f : Reply → Program α) :
    course (plainHandler sender context) (stored operation details c >>= f) w =
      ((c, .ok reply) :: (course (plainHandler sender context) (f reply) {w with memory := s}).1,
        (course (plainHandler sender context) (f reply) {w with memory := s}).2) := by
  have hperform : plainHandler sender context (.store c) w = (.ok reply, {w with memory := s}) := by
    show w.perform context c = _
    rw [perform_step hlive, hstep]
    rfl
  refine Prod.ext ?_ (run_stored hlive hstep f)
  rw [stored_bind]
  simp only [course, Program.dialogue, Program.calls, Program.call?, hperform, Option.map_some,
    Option.toList_some, List.singleton_append, List.map_cons]

section Claim
variable (requestId account sender) (hlive : context.isDone w.clock = false) (hcode : code ≠ "")
include hlive hcode

/-- A claim looks at its address, and goes on by what it finds. -/
theorem course_add {found? : Option EmailRecord} {p : Program Reply}
    (hfound : w.memory.emails.get? address = found?)
    (hclaim : claim (claimDetails requestId account address) account address code
      (.ofRecord? found?) = p) :
    course (plainHandler sender context) (add requestId account address code) w =
      ((.getEmail address, .ok (.ofRecord? found?)) ::
          (course (plainHandler sender context) p w).1,
        (course (plainHandler sender context) p w).2) := by
  subst hfound hclaim
  rw [add_of_code hcode]
  exact course_stored hlive rfl _

/-- A write that matches ends the claim. -/
theorem course_granted {found? : Option EmailRecord} {c : Call} {r : EmailRecord} {s : State}
    {entry : Log.Entry} {f : Reply → Program Reply}
    (hfound : w.memory.emails.get? address = found?)
    (hclaim : claim (claimDetails requestId account address) account address code
      (.ofRecord? found?) = stored "add" (claimDetails requestId account address) c >>= f)
    (hf : f (.ofRecord? (some r)) = do
      Program.log entry
      pure (.ofRecord? (some r)))
    (hstep : step c w.memory = (.ok (.ofRecord? (some r)), s)) :
    course (plainHandler sender context) (add requestId account address code) w =
      ([(.getEmail address, .ok (.ofRecord? found?)), (c, .ok (.ofRecord? (some r)))],
        .ok (.ofRecord? (some r)), {w with memory := s}.note entry) := by
  rw [course_add requestId account sender hlive hcode hfound hclaim, course_stored hlive hstep, hf]
  rfl

theorem course_refused {found? : Option EmailRecord} {refusal : Refusal}
    (hfound : w.memory.emails.get? address = found?)
    (hclaim : claim (claimDetails requestId account address) account address code
      (.ofRecord? found?) = refuse refusal (claimDetails requestId account address)) :
    course (plainHandler sender context) (add requestId account address code) w =
      ([(.getEmail address, .ok (.ofRecord? found?))],
        .error (.registry ⟨refusal.kind, refusal.message, claimDetails requestId account address,
          none⟩), w) :=
  course_add requestId account sender hlive hcode hfound hclaim

end Claim
end Course

/-! ### The table -/

/-- The record of the address is replaced where it stands. -/
def InPlace (emails : Table String EmailRecord) (address : String) (r r' : EmailRecord) : Prop :=
  ∃ before after, emails.rows = before ++ (address, r) :: after ∧
    (emails.put address r').rows = before ++ (address, r') :: after

/-- What becomes of a claim, by the record that stands at the address. -/
structure DecisionTable (sender : Sender) (context : Context String) (requestId : String)
    (account : Uuid) (address code : String) (w : World) : Prop where
  unknown : ∀ r : EmailRecord, w.memory.emails.get? address = none →
    r = ⟨.drawn (w.memory.drawn + 1), address, some account, code, false⟩ →
    course (plainHandler sender context) (add requestId account address code) w =
      ([(.getEmail address, .ok .nothing),
          (.createEmail address (some account) code, .ok (.ofRecord? (some r)))],
        .ok (.ofRecord? (some r)),
        {w with memory := {w.memory with
          emails := w.memory.emails.put address r
          drawn := w.memory.drawn + 1}}.note (.added address account)) ∧
    (w.memory.emails.put address r).rows = w.memory.emails.rows ++ [(address, r)] ∧
    ∀ x other, w.memory.emails.get? x = some other → other.id ≠ r.id
  /-- Also where the flag was set. -/
  unowned : ∀ r r' : EmailRecord, w.memory.emails.get? address = some r → r.owner = none →
    r' = ⟨r.id, address, some account, code, false⟩ →
    course (plainHandler sender context) (add requestId account address code) w =
      ([(.getEmail address, .ok (.ofRecord? (some r))),
          (.claimUnowned address account code, .ok (.ofRecord? (some r')))],
        .ok (.ofRecord? (some r')),
        {w with memory := {w.memory with emails := w.memory.emails.put address r'}}.note
          (.unownedClaimed address account)) ∧
    InPlace w.memory.emails address r r'
  own : ∀ r r' : EmailRecord, w.memory.emails.get? address = some r → r.owner = some account →
    r.verified = false → r' = {r with code := code} →
    course (plainHandler sender context) (add requestId account address code) w =
      ([(.getEmail address, .ok (.ofRecord? (some r))),
          (.reissueCode address account code, .ok (.ofRecord? (some r')))],
        .ok (.ofRecord? (some r')),
        {w with memory := {w.memory with emails := w.memory.emails.put address r'}}.note
          (.codeReissued address)) ∧
    InPlace w.memory.emails address r r'
  verified : ∀ r : EmailRecord, w.memory.emails.get? address = some r → r.owner = some account →
    r.verified = true →
    course (plainHandler sender context) (add requestId account address code) w =
      ([(.getEmail address, .ok (.ofRecord? (some r)))],
        .error (.registry ⟨.alreadyVerified, "email address already exists and is verified",
          claimDetails requestId account address, none⟩), w)
  /-- Whether it is verified or not. -/
  foreign : ∀ (r : EmailRecord) (owner : Uuid), w.memory.emails.get? address = some r →
    r.owner = some owner → owner ≠ account →
    course (plainHandler sender context) (add requestId account address code) w =
      ([(.getEmail address, .ok (.ofRecord? (some r)))],
        .error (.registry ⟨.alreadyClaimed, "email address already claimed",
          claimDetails requestId account address, none⟩), w)
  /-- In all cases, the records at other addresses are the same, in the same places. -/
  others : ∀ (i : Nat) (x : String) (r : EmailRecord), x ≠ address →
    (((add requestId account address code).run (plainHandler sender context)
        w).2.memory.emails.rows[i]? = some (x, r) ↔
      w.memory.emails.rows[i]? = some (x, r))

/-- Whatever a claim writes, it writes at its address. -/
theorem others_kept {context : Context String} {w : World} {address code x : String}
    (hlive : context.isDone w.clock = false) (hcode : code ≠ "") (sender : Sender)
    (requestId : String) (account : Uuid) (hx : x ≠ address) (i : Nat) (r : EmailRecord) :
    ((add requestId account address code).run (plainHandler sender context)
        w).2.memory.emails.rows[i]? = some (x, r) ↔
      w.memory.emails.rows[i]? = some (x, r) := by
  cases hchoice : claimWrite? account address code (w.memory.emails.get? address) with
  | none =>
    obtain ⟨e, hrun⟩ := run_add_refused hlive hcode requestId sender hchoice
    rw [hrun]
  | some c =>
    obtain ⟨made, entry, -, -, hemails, -, hrun⟩ :=
      run_add_granted hlive hcode requestId sender hchoice
    rw [hrun]
    show (step c w.memory).2.emails.rows[i]? = _ ↔ _
    rw [hemails]
    exact Table.rows_put_getElem? _ hx ..

/-- **A claim is decided by the record that stands at the address**, in every filed store and for
every account, address and code that is not empty. -/
theorem claim_decides {context : Context String} {w : World} {code : String}
    (hfiled : Filed w.memory) (hlive : context.isDone w.clock = false) (hcode : code ≠ "")
    (sender : Sender) (requestId : String) (account : Uuid) (address : String) :
    DecisionTable sender context requestId account address code w := by
  constructor
  case unknown =>
    rintro r hr rfl
    refine ⟨?_, Table.rows_put_of_none hr _, fun x other hother => ?_⟩
    · exact course_granted requestId account sender hlive hcode hr
        claim_unknown rfl (Store.Memory.step_create hr)
    · exact hfiled.unused x other hother _ (Nat.lt_succ_self _)
  case unowned =>
    rintro r r' hr ho rfl
    have haddress := hfiled.address address r hr
    subst haddress
    refine ⟨?_, Table.rows_put_of_some hr _⟩
    exact course_granted requestId account sender hlive hcode hr
      (claim_unowned ho) rfl (Store.Memory.step_claim hr ho)
  case own =>
    rintro r r' hr ho hv rfl
    refine ⟨?_, Table.rows_put_of_some hr _⟩
    exact course_granted requestId account sender hlive hcode hr
      (claim_own ho hv) rfl (Store.Memory.step_reissue hr ho hv)
  case verified =>
    intro r hr ho hv
    exact course_refused requestId account sender hlive hcode hr (claim_verified ho hv)
  case foreign =>
    intro r owner hr ho hne
    exact course_refused requestId account sender hlive hcode hr (claim_foreign ho hne)
  case others =>
    intro i x r hx
    exact others_kept hlive hcode sender requestId account hx i r

/-- A provisioned record on which somebody has set the flag. -/
def flagged : EmailRecord := ⟨.drawn 1, "a@x.com", none, "111111", true⟩

def flaggedWorld : World :=
  ⟨Store.Memory.putRecord flagged (step (.createEmail "a@x.com" none "111111") .empty).2, 0,
    .standard, []⟩

theorem filed_flaggedWorld : Filed flaggedWorld.memory := by
  have hprovisioned : Filed (step (.createEmail "a@x.com" none "111111") .empty).2 :=
    (Store.Memory.filed_of_no_records rfl).edit (Store.Memory.step_edit ..)
  have hr : (step (.createEmail "a@x.com" none "111111") .empty).2.emails.get? "a@x.com" =
      some ⟨.drawn 1, "a@x.com", none, "111111", false⟩ := rfl
  exact hprovisioned.replace hr (show flagged.id = _ from rfl) rfl

/-- Its first claim takes the flag away. -/
theorem claim_decides_flagged :
    ((add "r" (.drawn 7) "a@x.com" "222222").run (plainHandler .console (.new "r" none))
        flaggedWorld).2.memory.emails.get? "a@x.com" =
      some ⟨.drawn 1, "a@x.com", some (.drawn 7), "222222", false⟩ := by
  have hlive : (Context.new "r" none : Context String).isDone flaggedWorld.clock = false := rfl
  have hcode : "222222" ≠ "" := by decide
  have htable := claim_decides filed_flaggedWorld hlive hcode .console "r" (.drawn 7) "a@x.com"
  obtain ⟨hcourse, -⟩ := htable.unowned flagged _ rfl rfl rfl
  rw [show Program.run _ _ _ = _ from congrArg Prod.snd hcourse]
  exact Table.get?_put_self ..

end EmailOwnership.Registry
