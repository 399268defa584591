import EmailOwnership.Store.Database.Transaction

/-! The course of a transaction.

A transaction asks for a connection (`State.asked`), registers it and limits its statements
(`State.opened`), and runs its session, after which the registration is withdrawn
(`State.conduct`). From there it ends in one of five ways (`Course`), and there is no other
(`transact_course`). -/
namespace EmailOwnership.Store.Database
variable {σ α β : Type} (server : Server σ)

/-! ### Incidents -/

/-- An incident leaves the server as it is. -/
@[simp] theorem suffer_server (s : State σ) (connection : Option Nat) (incident : Incident) :
    (s.suffer connection incident).server = s.server := by
  obtain ⟨_ | _, _ | _, _⟩ := incident <;> rfl

@[simp] theorem suffer_drawn (s : State σ) (connection : Option Nat) (incident : Incident) :
    (s.suffer connection incident).drawn = s.drawn := by
  obtain ⟨_ | _, _ | _, _⟩ := incident <;> rfl

theorem suffer_context (s : State σ) (connection : Option Nat) (incident : Incident) :
    (s.suffer connection incident).context =
      if incident.cancel then s.context.cancel.2 else s.context := by
  obtain ⟨_ | _, _ | _, _⟩ := incident <;> rfl

theorem suffer_events (s : State σ) (connection : Option Nat) (incident : Incident) :
    (s.suffer connection incident).events =
      s.events ++ if incident.cancel then cancellations connection s.context.pending else [] := by
  obtain ⟨_ | _, _ | _, _⟩ := incident <;> simp [State.suffer, Context.cancel]

/-- As long as no connection is registered, no cancellation is sent. -/
@[simp] theorem suffer_none_events (s : State σ) (incident : Incident) :
    (s.suffer none incident).events = s.events := by
  simp [suffer_events, cancellations]

/-! ### Sessions in sequence -/

theorem runSession_bind (connection : Nat) (p : Session α) (f : α → Session β) (s : State σ) :
    runSession server connection (p.bind f) s =
      match runSession server connection p s with
      | (.ok a, s) => runSession server connection (f a) s
      | (.error stop, s) => (.error stop, s) := by
  induction p generalizing s with
  | done a => rfl
  | fail fault => rfl
  | drawId next ih => exact ih _ _
  | execute query parameters next ih =>
    simp only [Session.bind, runSession]
    split
    · rfl
    · exact ih _ _

/-- A statement has been executed, with what happened meanwhile. -/
def State.executed (connection : Nat) (query : Query) (parameters : Option (List Value))
    (s : State σ) : State σ :=
  let (incident, _, state) := server.execute query parameters s.server
  ({s with server := state}.note (.execute query parameters)).suffer connection incident

theorem runSession_execute (connection : Nat) (query : Query) (parameters : Option (List Value))
    (next : ResultSet → Session α) (s : State σ) :
    runSession server connection (.execute query parameters next) s =
      match (server.execute query parameters s.server).1.trouble with
      | some t => (.error (.trouble t), s.executed server connection query parameters)
      | none =>
        runSession server connection (next (server.execute query parameters s.server).2.1)
          (s.executed server connection query parameters) := rfl

/-! ### Limits -/

/-- What sets the limit on statements. -/
def limit (milliseconds : Nat) : List Value := [.text (toString milliseconds)]

theorem limited_of_finite {seconds : Float} {n : Nat} (h : milliseconds? seconds = some n)
    (body : Session α) :
    limited (some seconds) body = .execute .setTimeout (some (limit n)) fun _ => body := by
  simp only [limited, h, limit]

theorem limited_of_boundless {seconds : Float} (h : milliseconds? seconds = none)
    (body : Session α) : limited (some seconds) body = .fail .boundlessTimeout := by
  simp only [limited, h]

/-- The limit is set before anything else. -/
theorem limited_eq (remaining : Option Float) (body : Session α) :
    limited remaining body = (limited remaining (.done ())).bind fun _ => body := by
  unfold limited
  split
  · rfl
  · split <;> rfl

/-! ### Stages -/

/-- The connection is registered and its statements are limited, or that has failed. -/
def State.opened (s : State σ) : Except Stop Unit × State σ :=
  let (k, s) := s.register
  runSession server k (limited (s.context.remaining s.clock) (.done ())) s

theorem fresh_not_mem (s : State σ) : s.fresh ∉ s.context.pending := by
  have hbelow : ∀ (l : List Nat), ∀ k ∈ l, k < l.foldr (fun k n => max (k + 1) n) 0 := by
    intro l k hk
    induction l with
    | nil => cases hk
    | cons j l ih =>
      rcases List.mem_cons.1 hk with rfl | hk
      · exact Nat.le_max_left ..
      · exact Nat.lt_of_lt_of_le (ih hk) (Nat.le_max_right ..)
  exact fun hmem => Nat.lt_irrefl _ (hbelow _ _ hmem)

theorem register_of_cancelled {s : State σ} (h : s.context.cancelled = true) :
    s.register = (s.fresh, s.note .cancelSent) := by
  simp [State.register, Context.onCancel, h]

theorem register_of_not_cancelled {s : State σ} (h : s.context.cancelled = false) :
    s.register =
      (s.fresh, {s with context := {s.context with pending := s.context.pending ++ [s.fresh]}}) := by
  simp [State.register, Context.onCancel, h]

/-- A registration sends a cancellation at most, and draws nothing. -/
theorem register_cases (s : State σ) :
    ∃ sent, s.register.2.events = s.events ++ sent ∧ (∀ e ∈ sent, e = .cancelSent) ∧
      s.register.2.drawn = s.drawn := by
  cases h : s.context.cancelled with
  | true =>
    rw [register_of_cancelled h]
    exact ⟨[.cancelSent], rfl, fun e he => List.mem_singleton.1 he, rfl⟩
  | false =>
    rw [register_of_not_cancelled h]
    exact ⟨[], (List.append_nil _).symm, fun e he => absurd he List.not_mem_nil, rfl⟩

theorem commit_events (s : State σ) : (s.commit server).2.events = s.events := suffer_none_events ..

theorem rollBack_events (s : State σ) : (s.rollBack server).events = s.events ++ [.rollback] :=
  congrArg (· ++ [Event.rollback]) (suffer_none_events ..)

/-- A registration does not change how much time is left, nor the server. -/
theorem register_remaining (s : State σ) :
    s.register.2.context.remaining s.register.2.clock = s.context.remaining s.clock := by
  cases h : s.context.cancelled with
  | true =>
    rw [register_of_cancelled h]
    rfl
  | false =>
    rw [register_of_not_cancelled h]
    rfl

theorem register_server (s : State σ) : s.register.2.server = s.server := by
  cases h : s.context.cancelled with
  | true =>
    rw [register_of_cancelled h]
    rfl
  | false => rw [register_of_not_cancelled h]

theorem register_fst (s : State σ) : s.register.1 = s.fresh := by
  cases h : s.context.cancelled with
  | true => rw [register_of_cancelled h]
  | false => rw [register_of_not_cancelled h]

/-- The session runs once the connection is open. -/
theorem conduct_of_opened {body : Session α} {s r : State σ} (h : s.opened server = (.ok (), r)) :
    s.conduct server body = ((runSession server s.fresh body r).1,
      {(runSession server s.fresh body r).2 with
        context := (runSession server s.fresh body r).2.context.unregister s.fresh}) := by
  simp only [State.opened, register_fst] at h
  simp only [State.conduct, limited_eq _ body, runSession_bind, h, register_fst]

theorem conduct_of_not_opened {body : Session α} {s r : State σ} {stop : Stop}
    (h : s.opened server = (.error stop, r)) :
    s.conduct server body = (.error stop, {r with context := r.context.unregister s.fresh}) := by
  simp only [State.opened, register_fst] at h
  simp only [State.conduct, limited_eq _ body, runSession_bind, h, register_fst]

/-- Opening a connection draws no identifier. -/
theorem opened_drawn (s : State σ) : (s.opened server).2.drawn = s.drawn := by
  obtain ⟨-, -, -, hdrawn⟩ := register_cases s
  rw [← hdrawn]
  simp only [State.opened]
  cases s.register.2.context.remaining s.register.2.clock with
  | none => rfl
  | some seconds =>
    cases hn : milliseconds? seconds with
    | none =>
      rw [limited_of_boundless hn]
      rfl
    | some n =>
      rw [limited_of_finite hn, runSession_execute]
      split <;> simp [runSession, State.executed, State.note]

/-- The connection is handed over and its statements are limited; `r` is the state then. -/
def Opens (s r : State σ) : Prop :=
  (s.asked server).1.trouble = none ∧ (s.asked server).2.opened server = (.ok (), r)

/-! ### Transactions -/

/-- How a transaction comes out, and the state that it leaves. -/
inductive Course (body : Session α) (s : State σ) : Except Fault α → State σ → Prop
  | refused {why : Interruption} :
    s.context.check s.clock = .error why → Course body s (.error (.interrupted why.message)) s
  | unconnected {t : Trouble} :
    s.context.isDone s.clock = false → (s.asked server).1.trouble = some t →
    Course body s
      (.error (classify (s.asked server).2.context (s.context.remaining s.clock) t))
      (s.asked server).2
  | rolledBack {stop : Stop} {s' : State σ} :
    s.context.isDone s.clock = false → (s.asked server).1.trouble = none →
    (s.asked server).2.conduct server body = (.error stop, s') →
    Course body s
      (.error (stop.classify (s'.rollBack server).context (s.context.remaining s.clock)))
      (s'.rollBack server)
  | uncommitted {a : α} {s' s'' : State σ} {t : Trouble} :
    s.context.isDone s.clock = false → (s.asked server).1.trouble = none →
    (s.asked server).2.conduct server body = (.ok a, s') → s'.commit server = (some t, s'') →
    Course body s (.error (classify s''.context (s.context.remaining s.clock) t)) s''
  | committed {a : α} {s' s'' : State σ} :
    s.context.isDone s.clock = false → (s.asked server).1.trouble = none →
    (s.asked server).2.conduct server body = (.ok a, s') → s'.commit server = (none, s'') →
    Course body s (.ok a) (s''.note .commit)

/-- **A transaction takes one of these courses.** -/
theorem transact_course (body : Session α) (s : State σ) :
    Course server body s (transact server body s).1 (transact server body s).2 := by
  unfold transact
  cases hcheck : s.context.check s.clock with
  | error why => exact .refused hcheck
  | ok u =>
    have hlive := (Context.check_eq_ok_iff ..).1 hcheck
    dsimp only
    cases htrouble : (s.asked server).1.trouble with
    | some t => exact .unconnected hlive htrouble
    | none =>
      dsimp only
      rcases hconduct : (s.asked server).2.conduct server body with ⟨stop | a, s'⟩
      · exact .rolledBack hlive htrouble hconduct
      · dsimp only
        rcases hcommit : s'.commit server with ⟨_ | t, s''⟩
        · exact .committed hlive htrouble hconduct hcommit
        · exact .uncommitted hlive htrouble hconduct hcommit

/-- A call takes the course of its transaction, whose value may still be a fault. -/
theorem perform_course (c : Call) (s : State σ) :
    ∃ result s', perform server c s = (result >>= id, s') ∧ Course server c.session s result s' := by
  refine ⟨_, _, ?_, transact_course server c.session s⟩
  unfold perform
  rcases transact server c.session s with ⟨_ | _, _⟩ <;> rfl

/-- Under a context that is done, nothing happens. -/
theorem perform_of_done {c : Call} {s : State σ} (hdone : s.context.isDone s.clock = true) :
    ∃ message, perform server c s = (.error (.interrupted message), s) := by
  obtain ⟨result, s', hperform, hcourse⟩ := perform_course server c s
  rw [hperform]
  cases hcourse with
  | refused hcheck => exact ⟨_, rfl⟩
  | unconnected h | rolledBack h | uncommitted h | committed h =>
    rw [hdone] at h
    cases h

/-- Without a connection, nothing else happens. -/
theorem perform_of_unconnected {c : Call} {s : State σ} (hlive : s.context.isDone s.clock = false)
    (htrouble : (s.asked server).1.trouble ≠ none) :
    ∃ fault, perform server c s = (.error fault, (s.asked server).2) := by
  obtain ⟨result, s', hperform, hcourse⟩ := perform_course server c s
  rw [hperform]
  cases hcourse with
  | refused hcheck =>
    rw [(Context.check_eq_ok_iff ..).2 hlive] at hcheck
    cases hcheck
  | unconnected => exact ⟨_, rfl⟩
  | rolledBack _ h | uncommitted _ h | committed _ h => exact absurd h htrouble

/-- With a connection, a call comes to what its session and the commit come to. -/
theorem perform_of_connected {c : Call} {s : State σ} (hlive : s.context.isDone s.clock = false)
    (htrouble : (s.asked server).1.trouble = none) :
    perform server c s =
      match (s.asked server).2.conduct server c.session with
      | (.error stop, s') =>
        (.error (stop.classify (s'.rollBack server).context (s.context.remaining s.clock)),
          s'.rollBack server)
      | (.ok answer, s') =>
        match s'.commit server with
        | (some t, s'') => (.error (classify s''.context (s.context.remaining s.clock) t), s'')
        | (none, s'') => (answer, s''.note .commit) := by
  simp only [perform, transact, (Context.check_eq_ok_iff ..).2 hlive, htrouble]
  rcases (s.asked server).2.conduct server c.session with ⟨stop | answer, s'⟩
  · rfl
  · dsimp only
    rcases s'.commit server with ⟨_ | t, s''⟩ <;> rfl

end EmailOwnership.Store.Database
