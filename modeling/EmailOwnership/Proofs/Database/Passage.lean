import EmailOwnership.Proofs.Database.Sessions

/-! What the run of a session sends.

While a session runs, statements are executed and cancellations are sent, and the request goes
on as it was or is cancelled, once (`Passage`). What it comes to is what its text says of the
answers that it was given (`runSession_ends`). -/
namespace EmailOwnership.Store.Database
variable {σ α β : Type} {server : Server σ} {connection : Nat}

/-! ### Requests -/

/-- The request goes on as it was, or was cancelled. -/
def Outlives (context later : Context Nat) : Prop := later = context ∨ later = context.cancel.2

namespace Outlives
variable {a b c : Context Nat}

theorem refl (context : Context Nat) : Outlives context context := .inl rfl

theorem trans (h : Outlives a b) (h' : Outlives b c) : Outlives a c := by
  rcases h with rfl | rfl
  · exact h'
  · rcases h' with rfl | rfl <;> exact .inr rfl

theorem requestId (h : Outlives a b) : b.requestId = a.requestId := by
  rcases h with rfl | rfl <;> rfl

theorem deadline (h : Outlives a b) : b.deadline = a.deadline := by
  rcases h with rfl | rfl <;> rfl

/-- A cancellation is for good. -/
theorem cancelled (h : Outlives a b) (ha : a.cancelled = true) : b.cancelled = true := by
  rcases h with rfl | rfl
  · exact ha
  · rfl

/-- Of a request that was live, all callbacks are pending still, or none is. -/
theorem pending (h : Outlives a b) (ha : a.cancelled = false) :
    b.pending = if b.cancelled then [] else a.pending := by
  rcases h with rfl | rfl
  · simp [ha]
  · rfl

end Outlives

theorem suffer_outlives (s : State σ) (connection : Option Nat) (incident : Incident) :
    Outlives s.context (s.suffer connection incident).context := by
  rw [suffer_context]
  split
  · exact .inr rfl
  · exact .inl rfl

/-! ### Events -/

/-- The statement that an event executes. -/
def Event.query? : Event → Option Query
  | .execute query _ => some query
  | _ => none

/-- The statements executed, oldest first. -/
def statements (events : List Event) : List Query := events.filterMap Event.query?

theorem statements_append (a b : List Event) : statements (a ++ b) = statements a ++ statements b :=
  List.filterMap_append ..

/-- Statements and cancellations only. -/
def Work (sent : List Event) : Prop :=
  ∀ e ∈ sent, e = .cancelSent ∨ ∃ query parameters, e = .execute query parameters

theorem Work.append {a b : List Event} (ha : Work a) (hb : Work b) : Work (a ++ b) :=
  fun e he => (List.mem_append.1 he).elim (ha e) (hb e)

theorem Work.not_mem {sent : List Event} (h : Work sent) {e : Event} (hc : e ≠ .cancelSent)
    (hq : e.query? = none) : e ∉ sent := by
  intro he
  rcases h e he with rfl | ⟨query, parameters, rfl⟩
  · exact hc rfl
  · cases hq

/-- An event that is no work is the last one only as the ending. -/
theorem Work.getLast?_ne {sent : List Event} (h : Work sent) {e e' : Event} (he : e ≠ e')
    (hc : e ≠ .cancelSent) (hq : e.query? = none) : (e' :: sent).getLast? ≠ some e := by
  intro hlast
  rcases List.mem_cons.1 (List.mem_of_getLast? hlast) with hmem | hmem
  · exact he hmem
  · exact h.not_mem hc hq hmem

/-! ### Passages -/

/-- From `s` to `s'` the events `sent` happened: statements with `P`, and a cancellation for each
registration of the connection, if the request was cancelled. -/
structure Passage (connection : Nat) (P : Query → Prop) (s s' : State σ) (sent : List Event) : Prop where
  events : s'.events = s.events ++ sent
  work : Work sent
  statements : ∀ query ∈ statements sent, P query
  context : s'.context = s.context ∧ sent.count .cancelSent = 0 ∨
    s'.context = s.context.cancel.2 ∧ sent.count .cancelSent = s.context.pending.count connection

section Passage
variable {P : Query → Prop} {s s' s'' : State σ} {sent sent' : List Event}

theorem Passage.outlives (h : Passage connection P s s' sent) : Outlives s.context s'.context :=
  h.context.imp And.left And.left

theorem Passage.refl (connection : Nat) (P : Query → Prop) (s : State σ) :
    Passage connection P s s [] :=
  ⟨(List.append_nil _).symm, fun _ he => absurd he List.not_mem_nil,
    fun _ hq => absurd hq List.not_mem_nil, .inl ⟨rfl, rfl⟩⟩

theorem Passage.trans (h : Passage connection P s s' sent) (h' : Passage connection P s' s'' sent') :
    Passage connection P s s'' (sent ++ sent') := by
  refine ⟨by rw [h'.events, h.events, List.append_assoc], h.work.append h'.work, fun query hq => ?_, ?_⟩
  · rw [statements_append] at hq
    exact (List.mem_append.1 hq).elim (h.statements query) (h'.statements query)
  · rw [List.count_append]
    rcases h.context with ⟨hc, hn⟩ | ⟨hc, hn⟩ <;> rcases h'.context with ⟨hc', hn'⟩ | ⟨hc', hn'⟩
    · exact .inl ⟨hc'.trans hc, by rw [hn, hn']⟩
    · rw [hc] at hc' hn'
      exact .inr ⟨hc', by rw [hn, hn', Nat.zero_add]⟩
    · exact .inr ⟨hc'.trans hc, by rw [hn, hn', Nat.add_zero]⟩
    · -- once cancelled, the context has nothing pending
      rw [hc] at hc' hn'
      exact .inr ⟨hc', by rw [hn, hn']; rfl⟩

theorem Passage.weaken {P' : Query → Prop} (h : Passage connection P s s' sent)
    (hP : ∀ q, P q → P' q) : Passage connection P' s s' sent :=
  ⟨h.events, h.work, fun query hq => hP query (h.statements query hq), h.context⟩

/-- One statement, whatever comes of it. -/
theorem execute_passage (server : Server σ) (connection : Nat) (query : Query) (hP : P query)
    (parameters : Option (List Value)) (s : State σ) :
    ∃ sent, Passage connection P s (s.executed server connection query parameters) sent ∧
      statements sent = [query] := by
  let incident := (server.execute query parameters s.server).1
  let before := {s with server := (server.execute query parameters s.server).2.2}.note
    (.execute query parameters)
  have hevents : (s.executed server connection query parameters).events =
      s.events ++ .execute query parameters ::
        if incident.cancel then cancellations connection s.context.pending else [] :=
    (suffer_events before connection incident).trans (List.append_assoc ..)
  have hcontext : (s.executed server connection query parameters).context =
      if incident.cancel then s.context.cancel.2 else s.context :=
    suffer_context before connection incident
  cases hcancel : incident.cancel with
  | false =>
    simp only [hcancel, Bool.false_eq_true, if_false] at hevents hcontext
    exact ⟨_, ⟨hevents, by simp [Work], by simp [statements, Event.query?, hP],
      .inl ⟨hcontext, by simp⟩⟩, rfl⟩
  | true =>
    simp only [hcancel, if_true] at hevents hcontext
    have hstatements : statements (cancellations connection s.context.pending) = [] :=
      List.filterMap_eq_nil_iff.2 fun e he => by rw [List.eq_of_mem_replicate he]; rfl
    refine ⟨_, ⟨hevents, ?_, ?_, .inr ⟨hcontext, ?_⟩⟩, congrArg (query :: ·) hstatements⟩
    · exact List.forall_mem_cons.2 ⟨.inr ⟨query, parameters, rfl⟩,
        fun e he => .inl (List.eq_of_mem_replicate he)⟩
    · intro q hq
      obtain rfl : q = query := List.mem_singleton.1 (congrArg (query :: ·) hstatements ▸ hq)
      exact hP
    · simp [cancellations]

end Passage

/-- **A session sends nothing but its statements and cancellations.** -/
theorem runSession_passage (server : Server σ) (connection : Nat) {P : Query → Prop}
    {F : Query → ResultSet → Prop} {E : Fault → Prop} {Q : α → Prop} {body : Session α}
    (h : body.Obeys P F E Q) (hF : ∀ query r, F query r) (s : State σ) :
    ∃ sent, Passage connection P s (runSession server connection body s).2 sent := by
  induction body generalizing s with
  | done a | fail fault => exact ⟨[], .refl connection P s⟩
  | drawId next ih =>
    obtain ⟨sent, hsent⟩ := ih (.drawn (s.drawn + 1)) (h _) {s with drawn := s.drawn + 1}
    exact ⟨sent, hsent.events, hsent.work, hsent.statements, hsent.context⟩
  | execute query parameters next ih =>
    obtain ⟨sent, hsent, -⟩ := execute_passage server connection query h.1 parameters s
    rw [runSession_execute]
    split
    · exact ⟨sent, hsent⟩
    · obtain ⟨sent', hsent'⟩ := ih _ (h.2 _ (hF ..)) _
      exact ⟨sent ++ sent', hsent.trans hsent'⟩

/-- While the connection is awaited, nothing is sent. -/
theorem asked_events (server : Server σ) (s : State σ) :
    (s.asked server).2.events = s.events ++ [.connection (s.context.remaining s.clock)] :=
  suffer_none_events ..

theorem asked_outlives (server : Server σ) (s : State σ) :
    Outlives s.context (s.asked server).2.context :=
  suffer_outlives ({s with server := (server.connect s.server).2}.note _) none _

theorem commit_outlives (server : Server σ) (s : State σ) :
    Outlives s.context (s.commit server).2.context :=
  suffer_outlives {s with server := (server.commit s.server).2} none _

theorem rollBack_outlives (server : Server σ) (s : State σ) :
    Outlives s.context (s.rollBack server).context :=
  suffer_outlives {s with server := (server.rollback s.server).2} none _

/-! ### Answers -/

/-- The statements that a session's run has answered, with the answers. -/
def answers (server : Server σ) (connection : Nat) : Session α → State σ → List (Query × ResultSet)
  | .done _, _ | .fail _, _ => []
  | .drawId next, s =>
    answers server connection (next (.drawn (s.drawn + 1))) {s with drawn := s.drawn + 1}
  | .execute query parameters next, s =>
    let (incident, result, _) := server.execute query parameters s.server
    match incident.trouble with
    | some _ => []
    | none =>
      (query, result) ::
        answers server connection (next result) (s.executed server connection query parameters)

/-- A value with `Q`, a fault of its own with `E`, or whatever the server has raised. -/
def Ends (E : Fault → Prop) (Q : α → Prop) : Except Stop α → Prop
  | .ok a => Q a
  | .error (.fault fault) => E fault
  | .error (.trouble _) => True

/-- **A session comes to what its text says**, as long as its answers are as that supposes. -/
theorem runSession_ends {P : Query → Prop} {F : Query → ResultSet → Prop} {E : Fault → Prop}
    {Q : α → Prop} {body : Session α} (h : body.Obeys P F E Q) {s : State σ}
    (hanswers : ∀ x ∈ answers server connection body s, F x.1 x.2) :
    Ends E Q (runSession server connection body s).1 := by
  induction body generalizing s with
  | done a | fail fault => exact h
  | drawId next ih => exact ih _ (h _) hanswers
  | execute query parameters next ih =>
    rw [runSession_execute]
    simp only [answers] at hanswers
    split
    · trivial
    · rename_i hnone
      simp only [hnone, List.mem_cons, forall_eq_or_imp] at hanswers
      exact ih _ (h.2 _ hanswers.1) hanswers.2

end EmailOwnership.Store.Database
