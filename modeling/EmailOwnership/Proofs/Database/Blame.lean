import EmailOwnership.Proofs.Context.Expiry
import EmailOwnership.Proofs.Database.Faults

/-! What a call blames on the time of its request.

A call ends with a storage fault only because the request was done before it began, or because the
server raised something (`plain_of_quiet`); what the server raised is then classified by the
context as it stands at the end (`perform_of_raised`). -/
namespace EmailOwnership.Store.Database
open Rehearsal (Player)
variable {σ α : Type} {server : Server σ} {c : Call} {s : State σ}

/-! ### Faults that a session finds itself -/

/-- The fault, if there is one, is no storage fault. -/
def Plain (x : Except Fault α) : Prop := ∀ fault, x = .error fault → fault.isStorage = false

/-- What is neither a value nor raised by the server is no storage fault. -/
theorem conduct_plain (server : Server σ) (c : Call) (s : State σ) :
    Ends (fun fault => fault.isStorage = false) Plain (s.conduct server c.session).1 := by
  have hmalformed : ∀ fault, fault = Fault.malformedRow ∧ True → fault.isStorage = false := by
    rintro fault ⟨rfl, -⟩
    rfl
  have hbody := (session_keeps True c).mono (U := fun _ => True) (fun _ _ => trivial) hmalformed
    fun x (hx : WellRead True c x) fault hfault => hmalformed fault (hx.fault fault hfault)
  exact runSession_ends (F := fun query r => Fits query r ∨ True)
    (limited_obeys (E := fun fault => fault.isStorage = false) trivial (fun _ _ _ => rfl) hbody)
    fun _ _ => .inr trivial

/-! ### Where storage faults come from -/

/-- If the server raises nothing, a call under a live context ends with no storage fault. -/
theorem plain_of_quiet (hlive : s.context.isDone s.clock = false)
    (hquiet : s.raised? server c = none) : Plain (perform server c s).1 := by
  obtain ⟨result, s', hperform, hcourse⟩ := perform_course server c s
  have hplain := conduct_plain server c (s.asked server).2
  rw [hperform]
  cases hcourse with
  | refused hcheck =>
    rw [(Context.check_eq_ok_iff ..).2 hlive] at hcheck
    cases hcheck
  | unconnected _ htrouble => simp [State.raised?, hlive, htrouble] at hquiet
  | @rolledBack stop _ _ htrouble hconduct =>
    cases stop with
    | trouble t => simp [State.raised?, hlive, htrouble, hconduct] at hquiet
    | fault fault =>
      rw [hconduct] at hplain
      rintro fault' ⟨⟩
      exact hplain
  | uncommitted _ htrouble hconduct hcommit =>
    simp [State.raised?, hlive, htrouble, hconduct, hcommit] at hquiet
  | committed _ _ hconduct =>
    rw [hconduct] at hplain
    exact hplain

/-- What the server raises is classified by the context that the call leaves behind. -/
theorem perform_of_raised {t : Trouble} (h : s.raised? server c = some t) :
    (perform server c s).1 =
      .error (classify (perform server c s).2.context (s.context.remaining s.clock) t) := by
  obtain ⟨result, s', hperform, hcourse⟩ := perform_course server c s
  rw [hperform]
  cases hcourse with
  | refused hcheck =>
    have hdone := Context.check_eq_error_iff.1 ⟨_, hcheck⟩
    simp [State.raised?, hdone] at h
  | unconnected hlive htrouble =>
    simp only [State.raised?, hlive, htrouble] at h
    cases h
    rfl
  | @rolledBack stop _ hlive htrouble hconduct =>
    simp only [State.raised?, hlive, htrouble, hconduct] at h
    cases stop with
    | trouble t' =>
      cases h
      rfl
    | fault fault => cases h
  | uncommitted hlive htrouble hconduct hcommit =>
    simp only [State.raised?, hlive, htrouble, hconduct, hcommit] at h
    cases h
    rfl
  | committed hlive htrouble hconduct hcommit =>
    simp only [State.raised?, hlive, htrouble, hconduct, hcommit] at h
    cases h

/-! ### The request during a call -/

theorem perform_outlives (server : Server σ) (c : Call) (s : State σ) :
    Outlives s.context (perform server c s).2.context := by
  cases hdone : s.context.isDone s.clock with
  | true =>
    obtain ⟨message, hperform⟩ := perform_of_done server (c := c) hdone
    rw [hperform]
    exact .refl _
  | false =>
    obtain ⟨sent, ending, hshape⟩ := perform_shape server c hdone
    exact hshape.outlives

/-! ### Interruptions -/

/-- The troubles that are taken for the end of the time of a request, which may have none. -/
def Trouble.interrupts (bounded : Bool) : Trouble → Bool
  | .poolTimeout _ => bounded
  | .queryCanceled _ => true
  | .database .. | .foreign .. => false

theorem classify_interrupted_iff (context : Context Nat) (wait : Option Float) (t : Trouble) :
    (∃ message, classify context wait t = .interrupted message) ↔
      t.interrupts wait.isSome = true := by
  cases t with
  | poolTimeout => cases wait <;> simp [classify, Trouble.interrupts]
  | queryCanceled | database | foreign => simp [classify, Trouble.interrupts]

/-- What an interruption is blamed on. -/
structure Blame (server : Server σ) (c : Call) (s : State σ) (answer : Except Fault Reply)
    (later : Context Nat) : Prop where
  interrupted_iff : (∃ message, answer = .error (.interrupted message)) ↔
    s.context.isDone s.clock = true ∨
      ∃ t, s.raised? server c = some t ∧ t.interrupts s.context.deadline.isSome = true
  /-- Only a statement that the server ended is blamed on a time without end. -/
  cause : ∀ message, answer = .error (.interrupted message) →
    later.cancelled = true ∨ s.context.deadline ≠ none ∨
      ∃ text, s.raised? server c = some (.queryCanceled text)
  named : s.context.deadline = none → later.cancelled = false → ∀ t,
    s.raised? server c = some t → t.isDatabase = true → (∀ text, t ≠ .queryCanceled text) →
      answer = .error (.unavailable t.describe)
  mistaken : s.context.deadline = none → later.cancelled = false → ∀ text,
    s.raised? server c = some (.queryCanceled text) →
      answer = .error (.interrupted (Interruption.expired s.context.requestId).message)

/-- **A call is interrupted only if its request was done, or if the server raised what is taken for
that**: that no connection came in time, under a deadline, or that a statement was ended, under
any context. A request that has no deadline and is not cancelled is told the name of what went
wrong, except that a statement ended by the server passes for its deadline. -/
theorem interruption_blamed (server : Server σ) (c : Call) (s : State σ) :
    Blame server c s (perform server c s).1 (perform server c s).2.context := by
  have hwait : (s.context.remaining s.clock).isSome = s.context.deadline.isSome := by
    simp [Context.remaining]
  have houtlives := perform_outlives server c s
  have hiff : (∃ message, (perform server c s).1 = .error (.interrupted message)) ↔
      s.context.isDone s.clock = true ∨
        ∃ t, s.raised? server c = some t ∧ t.interrupts s.context.deadline.isSome = true := by
    cases hdone : s.context.isDone s.clock with
    | true =>
      obtain ⟨message, hperform⟩ := perform_of_done server (c := c) hdone
      rw [hperform]
      exact iff_of_true ⟨message, rfl⟩ (.inl rfl)
    | false =>
      cases hraised : s.raised? server c with
      | none =>
        refine iff_of_false ?_ (by simp)
        rintro ⟨message, h⟩
        cases plain_of_quiet hdone hraised _ h
      | some t =>
        rw [perform_of_raised hraised, ← hwait]
        simpa using classify_interrupted_iff (perform server c s).2.context
          (s.context.remaining s.clock) t
  refine ⟨hiff, fun message h => ?_, fun hdeadline hcancelled t ht hdatabase hother => ?_,
    fun hdeadline hcancelled text ht => ?_⟩
  · rcases hiff.1 ⟨message, h⟩ with hdone | ⟨t, ht, hinterrupts⟩
    · rcases Context.isDone_iff_not_lt.1 hdone with hc | ⟨deadline, hdeadline, -⟩
      · exact .inl (houtlives.cancelled hc)
      · exact .inr (.inl (by simp [hdeadline]))
    · cases t with
      | poolTimeout => exact .inr (.inl (Option.isSome_iff_ne_none.1 hinterrupts))
      | queryCanceled text => exact .inr (.inr ⟨text, ht⟩)
      | database | foreign => cases hinterrupts
  · rw [perform_of_raised ht, Context.remaining, hdeadline]
    cases t with
    | poolTimeout | database => rfl
    | queryCanceled text => exact absurd rfl (hother text)
    | foreign => cases hdatabase
  · rw [perform_of_raised ht]
    simp only [classify, hcancelled, houtlives.requestId, Bool.false_eq_true, if_false]

/-- A request without a deadline whose statement the server ends. -/
def endedByServer : State Player :=
  ⟨⟨⟨.none, .none,
      [⟨⟨none, false, some (.queryCanceled "canceling statement")⟩, ⟨[], 0⟩⟩], .none⟩, []⟩,
    0, .new "k" none, 0, []⟩

/-- It is told that its deadline has passed, though it has none. -/
theorem interruption_blamed_without_deadline :
    endedByServer.context.deadline = none ∧
      (perform Player.server (.getEmail "a@x.com") endedByServer).2.context.cancelled = false ∧
      (perform Player.server (.getEmail "a@x.com") endedByServer).1 =
        .error (.interrupted "request k deadline exceeded") :=
  ⟨rfl, rfl, (interruption_blamed Player.server (.getEmail "a@x.com") endedByServer).mistaken
    rfl rfl "canceling statement" rfl⟩

end EmailOwnership.Store.Database
