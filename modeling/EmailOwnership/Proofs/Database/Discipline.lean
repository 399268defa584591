import EmailOwnership.Proofs.Database.Passage
import EmailOwnership.Rehearsal.Database

/-! The discipline of transactions.

Over any server and whatever happens meanwhile, a store call asks for one connection, limits
its statements before it sends the first, ends a session on the connection with a commit or a
rollback, and leaves no callback behind (`transaction_discipline`). -/
namespace EmailOwnership.Store.Database
open Rehearsal (Player)
variable {σ α : Type} {server : Server σ}

/-! ### Statements under a limit -/

/-- Under a bound, the first statement sets the limit and no other does; without one, none does. -/
def Limits {β : Type} (bound : Option β) (queries : List Query) : Prop :=
  match bound with
  | none => .setTimeout ∉ queries
  | some _ => queries = [] ∨ ∃ rest, queries = .setTimeout :: rest ∧ .setTimeout ∉ rest

theorem limited_passage (server : Server σ) (connection : Nat) (c : Call) (remaining : Option Float)
    (s : State σ) :
    ∃ sent, Passage connection (fun _ => True) s
        (runSession server connection (limited remaining c.session) s).2 sent ∧
      Limits remaining (statements sent) := by
  have hbody := runSession_passage server connection (session_keeps True c) fun _ _ => .inr trivial
  cases remaining with
  | none =>
    obtain ⟨sent, hsent⟩ := hbody s
    exact ⟨sent, hsent.weaken fun _ _ => trivial, fun hmem => hsent.statements _ hmem rfl⟩
  | some seconds =>
    cases hn : milliseconds? seconds with
    | none =>
      rw [limited_of_boundless hn]
      exact ⟨[], .refl _ _ s, .inl rfl⟩
    | some n =>
      obtain ⟨sent, hsent, hfirst⟩ := execute_passage (P := fun _ => True) server connection .setTimeout
        trivial (some (limit n)) s
      rw [limited_of_finite hn, runSession_execute]
      split
      · exact ⟨sent, hsent, .inr ⟨[], hfirst, List.not_mem_nil⟩⟩
      · obtain ⟨sent', hsent'⟩ := hbody (s.executed server connection .setTimeout (some (limit n)))
        refine ⟨sent ++ sent', hsent.trans (hsent'.weaken fun _ _ => trivial),
          .inr ⟨statements sent', ?_, ?_⟩⟩
        · rw [statements_append, hfirst]
          rfl
        · exact fun hmem => hsent'.statements _ hmem rfl

theorem limits_map {β γ : Type} (f : β → γ) {bound : Option β} {queries : List Query} :
    Limits (bound.map f) queries ↔ Limits bound queries := by
  cases bound <;> rfl

theorem limits_nil {β : Type} (bound : Option β) : Limits bound [] := by
  cases bound with
  | none => exact List.not_mem_nil
  | some _ => exact .inl rfl

/-! ### Sessions on a connection -/

theorem unregister_of_not_mem {context : Context Nat} {k : Nat} (h : k ∉ context.pending) :
    context.unregister k = context := by
  rw [Context.unregister, List.erase_of_not_mem h]

theorem unregister_last {context : Context Nat} {k : Nat} (h : k ∉ context.pending) :
    Context.unregister {context with pending := context.pending ++ [k]} k = context := by
  simp only [Context.unregister, List.erase_append_right _ h, List.erase_cons_head, List.append_nil]

/-- From `s` to `s'` a connection was used: work was sent over it, the statements under the limit,
and a cancellation if the request is cancelled by then. The callbacks that were pending before
are no others now. -/
structure Used (s s' : State σ) (sent : List Event) : Prop where
  events : s'.events = s.events ++ sent
  work : Work sent
  limit : Limits s.context.deadline (statements sent)
  outlives : Outlives s.context s'.context
  cancellations : sent.count .cancelSent = if s'.context.cancelled then 1 else 0

/-- **A session on a connection uses it.** -/
theorem conduct_used (server : Server σ) (c : Call) (s : State σ) :
    ∃ sent, Used s (s.conduct server c.session).2 sent := by
  obtain ⟨sent, hsent, hlimit⟩ := limited_passage server s.fresh c
    (s.register.2.context.remaining s.register.2.clock) s.register.2
  rw [register_remaining, Context.remaining, limits_map] at hlimit
  have hfresh := fresh_not_mem s
  simp only [State.conduct, register_fst]
  generalize (runSession server s.fresh
    (limited (s.register.2.context.remaining s.register.2.clock) c.session) s.register.2).2 = r at hsent
  cases h : s.context.cancelled with
  | true =>
    -- the cancellation is sent with the registration, which never takes place
    rw [register_of_cancelled h] at hsent
    obtain ⟨hcount, houtlives⟩ : sent.count .cancelSent = 0 ∧ Outlives s.context r.context := by
      refine ⟨?_, hsent.outlives⟩
      rcases hsent.context with ⟨-, hn⟩ | ⟨-, hn⟩
      · exact hn
      · exact hn.trans (List.count_eq_zero.2 hfresh)
    have hkept : r.context.unregister s.fresh = r.context := by
      refine unregister_of_not_mem fun hmem => ?_
      rcases houtlives with hc | hc <;> rw [hc] at hmem
      · exact hfresh hmem
      · cases hmem
    refine ⟨.cancelSent :: sent, ?_, .append (a := [.cancelSent]) (by simp [Work]) hsent.work, hlimit, ?_, ?_⟩
    · rw [hsent.events]
      exact List.append_assoc ..
    · rwa [hkept]
    · rw [hkept, houtlives.cancelled h, List.count_cons_self, hcount]
      rfl
  | false =>
    rw [register_of_not_cancelled h] at hsent
    rcases hsent.context with ⟨hc, hn⟩ | ⟨hc, hn⟩
    · rw [hc, unregister_last hfresh]
      exact ⟨sent, hsent.events, hsent.work, hlimit, .refl _, by simp [h, hn]⟩
    · have hlast : r.context.unregister s.fresh = s.context.cancel.2 := by
        rw [hc, unregister_of_not_mem] <;> simp [Context.cancel]
      rw [hlast]
      refine ⟨sent, hsent.events, hsent.work, hlimit, .inr rfl, hn.trans ?_⟩
      simp [List.count_append, List.count_eq_zero.2 hfresh, Context.cancel]

/-! ### Calls -/

/-- The statements that a transaction's session has answered, with the answers. -/
def State.answered (server : Server σ) (body : Session α) (s : State σ) : List (Query × ResultSet) :=
  match (s.asked server).1.trouble with
  | some _ => []
  | none =>
    let (k, r) := (s.asked server).2.register
    answers server k (limited (r.context.remaining r.clock) body) r

/-- What a call under a live context comes to, and what it has sent. -/
structure Disciplined (server : Server σ) (c : Call) (s : State σ) (answer : Except Fault Reply)
    (s' : State σ) (sent : List Event) : Prop where
  events : s'.events = s.events ++ sent
  /-- One connection is asked for, before anything else. -/
  connection : ∃ rest, sent = .connection (s.context.remaining s.clock) :: rest ∧
    ∀ wait, .connection wait ∉ rest
  limit : Limits s.context.deadline (statements sent)
  /-- The call returns exactly if it ends with the commit. -/
  returns : (∀ x ∈ s.answered server c.session, Fits x.1 x.2) →
    ((∃ reply, answer = .ok reply) ↔ sent.getLast? = some .commit)
  commits : sent.count .commit ≤ 1
  /-- Without a connection there is nothing to commit or roll back. -/
  unconnected : (s.asked server).1.trouble ≠ none →
    (∃ fault, answer = .error fault) ∧ .commit ∉ sent ∧ .rollback ∉ sent
  /-- A session that fails is rolled back, once and in the end. -/
  rolledBack : (s.asked server).1.trouble = none → ∀ stop,
    ((s.asked server).2.conduct server c.session).1 = .error stop →
    (∃ fault, answer = .error fault) ∧ sent.getLast? = some .rollback ∧
      sent.count .rollback = 1 ∧ .commit ∉ sent
  /-- A commit that fails leaves no trace. -/
  uncommitted : (s.asked server).1.trouble = none → ∀ x,
    ((s.asked server).2.conduct server c.session).1 = .ok x →
    (((s.asked server).2.conduct server c.session).2.commit server).1 ≠ none →
    (∃ fault, answer = .error fault) ∧ .commit ∉ sent ∧ .rollback ∉ sent
  /-- No callback of the call stays behind, and those of others stay unless they are run. -/
  pending : s'.context.pending = if s'.context.cancelled then [] else s.context.pending
  /-- One cancellation is sent if the connection was handed over and the request was cancelled
  before the callback was withdrawn, and none otherwise: none with the commit or the rollback. -/
  cancellations : sent.count .cancelSent =
    if (s.asked server).1.trouble = none ∧
      ((s.asked server).2.conduct server c.session).2.context.cancelled = true then 1 else 0

/-- How a call ends once it has asked for a connection, with the last event of it. -/
inductive Ending (server : Server σ) (c : Call) (s : State σ) : Except Fault Reply → List Event → Prop
  | unconnected {fault : Fault} :
    (s.asked server).1.trouble ≠ none → Ending server c s (.error fault) []
  | rolledBack {fault : Fault} {stop : Stop} :
    (s.asked server).1.trouble = none →
    ((s.asked server).2.conduct server c.session).1 = .error stop →
    Ending server c s (.error fault) [.rollback]
  | uncommitted {fault : Fault} {x : Except Fault Reply} :
    (s.asked server).1.trouble = none →
    ((s.asked server).2.conduct server c.session).1 = .ok x →
    (((s.asked server).2.conduct server c.session).2.commit server).1 ≠ none →
    Ending server c s (.error fault) []
  | committed {answer : Except Fault Reply} :
    (s.asked server).1.trouble = none →
    ((s.asked server).2.conduct server c.session).1 = .ok answer →
    (((s.asked server).2.conduct server c.session).2.commit server).1 = none →
    Ending server c s answer [.commit]

/-- A call asks for a connection, works on it and ends. -/
structure Shape (server : Server σ) (c : Call) (s : State σ) (answer : Except Fault Reply)
    (s' : State σ) (sent ending : List Event) : Prop where
  events : s'.events = s.events ++ .connection (s.context.remaining s.clock) :: (sent ++ ending)
  work : Work sent
  limit : Limits s.context.deadline (statements sent)
  outlives : Outlives s.context s'.context
  cancellations : sent.count .cancelSent =
    if (s.asked server).1.trouble = none ∧
      ((s.asked server).2.conduct server c.session).2.context.cancelled = true then 1 else 0
  ending : Ending server c s answer ending

theorem perform_shape (server : Server σ) (c : Call) {s : State σ}
    (hlive : s.context.isDone s.clock = false) :
    ∃ sent ending, Shape server c s (perform server c s).1 (perform server c s).2 sent ending := by
  obtain ⟨sent, hused⟩ := conduct_used server c (s.asked server).2
  have hasked := asked_outlives server s
  have hlimit : Limits s.context.deadline (statements sent) := hasked.deadline ▸ hused.limit
  have hcount : (s.asked server).1.trouble = none → sent.count .cancelSent =
      if (s.asked server).1.trouble = none ∧
        ((s.asked server).2.conduct server c.session).2.context.cancelled = true then 1 else 0 := by
    intro htrouble
    simp [htrouble, hused.cancellations]
  have hevents : ((s.asked server).2.conduct server c.session).2.events =
      s.events ++ .connection (s.context.remaining s.clock) :: sent := by
    rw [hused.events, asked_events, List.append_assoc]
    rfl
  have hafter : Outlives s.context ((s.asked server).2.conduct server c.session).2.context :=
    hasked.trans hused.outlives
  obtain ⟨result, s', hperform, hcourse⟩ := perform_course server c s
  rw [hperform]
  cases hcourse with
  | refused hcheck =>
    rw [(Context.check_eq_ok_iff ..).2 hlive] at hcheck
    cases hcheck
  | unconnected _ htrouble =>
    exact ⟨[], [], asked_events server s, fun _ he => absurd he List.not_mem_nil, limits_nil _, hasked,
      by simp [htrouble], .unconnected (by simp [htrouble])⟩
  | @rolledBack _ r _ htrouble hconduct =>
    rw [hconduct] at hevents hafter
    refine ⟨sent, [.rollback], ?_, hused.work, hlimit, hafter.trans (rollBack_outlives server r),
      hcount htrouble, .rolledBack htrouble (by rw [hconduct])⟩
    rw [rollBack_events]
    simpa using congrArg (· ++ [Event.rollback]) hevents
  | @uncommitted _ r r' t _ htrouble hconduct hcommit =>
    have hkept := commit_events server r
    have hlater := commit_outlives server r
    rw [hcommit] at hkept hlater
    rw [hconduct] at hevents hafter
    refine ⟨sent, [], ?_, hused.work, hlimit, hafter.trans hlater, hcount htrouble,
      .uncommitted htrouble (by rw [hconduct]) (by simp [hconduct, hcommit])⟩
    rw [List.append_nil]
    exact hkept.trans hevents
  | @committed _ r r' _ htrouble hconduct hcommit =>
    have hkept := commit_events server r
    have hlater := commit_outlives server r
    rw [hcommit] at hkept hlater
    rw [hconduct] at hevents hafter
    refine ⟨sent, [.commit], ?_, hused.work, hlimit, hafter.trans hlater, hcount htrouble,
      .committed htrouble (by rw [hconduct]; rfl) (by simp [hconduct, hcommit])⟩
    simpa [State.note] using congrArg (· ++ [Event.commit]) (hkept.trans hevents)

/-- A committed session whose rows all fit has come to a reply. -/
theorem reply_of_committed {c : Call} {s : State σ} {answer : Except Fault Reply}
    (htrouble : (s.asked server).1.trouble = none)
    (hconduct : ((s.asked server).2.conduct server c.session).1 = .ok answer)
    (hfits : ∀ x ∈ s.answered server c.session, Fits x.1 x.2) : ∃ reply, answer = .ok reply := by
  simp only [State.answered, htrouble] at hfits
  have hobeys := (session_keeps False c).mono (U := fun _ => True) (V := fun _ => True)
    (fun _ _ => trivial) (fun _ _ => trivial) fun _ h => h
  have hends := runSession_ends (limited_obeys trivial (fun _ _ _ => trivial) hobeys)
    fun x hx => .inl (hfits x hx)
  simp only [State.conduct] at hconduct
  rw [hconduct] at hends
  cases answer with
  | ok reply => exact ⟨reply, rfl⟩
  | error fault => exact (hends.fault fault rfl).2.elim

/-- **A call under a live context keeps the discipline.** -/
theorem disciplined {c : Call} {s : State σ} (hlive : s.context.isDone s.clock = false) :
    ∃ sent, Disciplined server c s (perform server c s).1 (perform server c s).2 sent := by
  obtain ⟨sent, ending, hevents, hwork, hlimit, houtlives, hcount, hending⟩ :=
    perform_shape server c hlive
  generalize (perform server c s).1 = answer at hending ⊢
  -- whatever the ending, there is no connection, statement or cancellation in it
  obtain ⟨hquiet, hidle, hkept⟩ : (∀ wait, Event.connection wait ∉ ending) ∧
      statements ending = [] ∧ ending.count .cancelSent = 0 := by
    cases hending <;> simp [statements, Event.query?]
  have hconnection : ∀ wait, Event.connection wait ∉ sent ++ ending := fun wait hmem =>
    (List.mem_append.1 hmem).elim (hwork.not_mem (by simp) rfl) (hquiet wait)
  have hlimits : Limits s.context.deadline
      (statements (.connection (s.context.remaining s.clock) :: (sent ++ ending))) := by
    rw [← List.cons_append, statements_append, hidle, List.append_nil]
    exact hlimit
  have hcancellations : (Event.connection (s.context.remaining s.clock) :: (sent ++ ending)).count
      .cancelSent = sent.count .cancelSent := by
    simp [List.count_append, hkept]
  rw [← hcancellations] at hcount
  have hcommit : Event.commit ∉ sent := hwork.not_mem (by simp) rfl
  have hrollback : Event.rollback ∉ sent := hwork.not_mem (by simp) rfl
  have hnocommit : (Event.connection (s.context.remaining s.clock) :: sent).getLast? ≠ some .commit :=
    hwork.getLast?_ne (by simp) (by simp) rfl
  refine ⟨_, hevents, ⟨_, rfl, hconnection⟩, hlimits, ?_, ?_, ?_, ?_, ?_,
    houtlives.pending (Context.cancelled_of_live hlive), hcount⟩
  · intro hfits
    cases hending with
    | unconnected | uncommitted => simpa using hnocommit
    | rolledBack => simp [List.getLast?_cons]
    | committed htrouble hx _ => simpa [List.getLast?_cons] using reply_of_committed htrouble hx hfits
  · cases hending <;> simp [List.count_append, List.count_eq_zero.2 hcommit]
  · intro htrouble
    cases hending with
    | unconnected => simp [hcommit, hrollback]
    | rolledBack h | uncommitted h | committed h => exact absurd h htrouble
  · intro htrouble stop hstop
    cases hending with
    | unconnected h => exact absurd htrouble h
    | rolledBack =>
      simp [List.getLast?_cons, List.count_append, List.count_eq_zero.2 hrollback, hcommit]
    | uncommitted _ h | committed _ h =>
      rw [hstop] at h
      cases h
  · intro htrouble x hx hfailed
    cases hending with
    | unconnected h => exact absurd htrouble h
    | rolledBack _ h =>
      rw [hx] at h
      cases h
    | uncommitted => simp [hcommit, hrollback]
    | committed _ _ h => exact absurd h hfailed

/-! ### The discipline -/

/-- **Every call keeps the discipline**, over any server: under a context that is done nothing
happens at all, and under a live one what `Disciplined` says. -/
theorem transaction_discipline (server : Server σ) (c : Call) (s : State σ) :
    (s.context.isDone s.clock = true →
      (perform server c s).2 = s ∧ ∃ message, (perform server c s).1 = .error (.interrupted message)) ∧
    (s.context.isDone s.clock = false →
      ∃ sent, Disciplined server c s (perform server c s).1 (perform server c s).2 sent) := by
  refine ⟨fun hdone => ?_, disciplined⟩
  obtain ⟨message, hperform⟩ := perform_of_done server (c := c) hdone
  rw [hperform]
  exact ⟨rfl, message, rfl⟩

/-- A request without a deadline, with a callback of somebody else's, before a database that does
what the script says. -/
def scripted (script : Rehearsal.Script) : State Player :=
  ⟨⟨script, []⟩, 0, ⟨"r", none, false, [0]⟩, 0, []⟩

/-- The request is cancelled. -/
def cancellation : Incident := ⟨none, true, none⟩

/-- Cancelled while its statement is executed, a request sends one cancellation, though two
callbacks are run; cancelled while it is committed, it sends none. -/
theorem transaction_discipline_cancelled :
    (∃ sent, (perform Player.server (.getEmail "a@x.com")
        (scripted ⟨.none, .none, [⟨cancellation, ⟨[], 0⟩⟩], .none⟩)).2.events = sent ∧
      sent.count .cancelSent = 1 ∧ sent.getLast? = some .commit) ∧
    ∃ sent, (perform Player.server (.getEmail "a@x.com")
        (scripted ⟨.none, .none, [], cancellation⟩)).2.events = sent ∧
      sent.count .cancelSent = 0 ∧ sent.getLast? = some .commit := by
  have hfits : ∀ x ∈ [(Query.emails getEmail, (⟨[], 0⟩ : ResultSet))], Fits x.1 x.2 := by
    intro x hx row hrow
    rw [List.mem_singleton.1 hx] at hrow
    cases hrow
  constructor
  · let s := scripted ⟨.none, .none, [⟨cancellation, ⟨[], 0⟩⟩], .none⟩
    obtain ⟨sent, h⟩ := (transaction_discipline Player.server (.getEmail "a@x.com") s).2 rfl
    exact ⟨sent, h.events, h.cancellations, (h.returns hfits).1 ⟨.nothing, rfl⟩⟩
  · let s := scripted ⟨.none, .none, [], cancellation⟩
    obtain ⟨sent, h⟩ := (transaction_discipline Player.server (.getEmail "a@x.com") s).2 rfl
    exact ⟨sent, h.events, h.cancellations, (h.returns hfits).1 ⟨.nothing, rfl⟩⟩

/-- A connection that is handed over to a request which nobody cancels is sent no cancellation. -/
theorem uncancelled_sends_no_cancellation :
    let s := scripted ⟨.none, .none, [], .none⟩
    s.context.isDone s.clock = false ∧ (s.asked Player.server).1.trouble = none ∧
      (perform Player.server (.getEmail "a@x.com") s).2.events =
        [.connection none, .execute (.emails getEmail) (some [.text "a@x.com"]), .commit] ∧
      (perform Player.server (.getEmail "a@x.com") s).2.events.count .cancelSent = 0 :=
  ⟨rfl, rfl, rfl, rfl⟩

end EmailOwnership.Store.Database
