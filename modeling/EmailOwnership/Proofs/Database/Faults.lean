import EmailOwnership.Proofs.Database.Discipline

/-! The faults of a call over a database.

A server is in order in a call if it raises nothing but errors of the database, and its rows have
the columns that were selected (`Orderly`). Then a session never fails of its own, and a call
comes to a reply or to a storage fault, with one exception: a time left that has no number of
milliseconds (`perform_surface`). -/
namespace EmailOwnership.Store.Database
variable {σ α : Type} {server : Server σ}

/-! ### Troubles -/

/-- An error of the database, or of waiting for it. -/
def Trouble.isDatabase : Trouble → Bool
  | .foreign .. => false
  | _ => true

/-- Errors of the database become storage faults, whatever the context. -/
theorem classify_isStorage {t : Trouble} (h : t.isDatabase = true) (context : Context Nat)
    (wait : Option Float) : (classify context wait t).isStorage = true := by
  cases t with
  | poolTimeout => cases wait <;> rfl
  | queryCanceled | database => rfl
  | foreign => cases h

/-! ### Time without bound -/

/-- The call gets its connection under a time left that has no number of milliseconds. -/
def State.Boundless (server : Server σ) (s : State σ) : Prop :=
  s.context.isDone s.clock = false ∧ (s.asked server).1.trouble = none ∧
    ∃ seconds, (s.asked server).2.context.remaining (s.asked server).2.clock = some seconds ∧
      milliseconds? seconds = none

theorem conduct_of_boundless {s : State σ} {seconds : Float}
    (hleft : s.context.remaining s.clock = some seconds) (h : milliseconds? seconds = none)
    (body : Session α) : (s.conduct server body).1 = .error (.fault .boundlessTimeout) := by
  have hregister := register_remaining s
  rw [hleft] at hregister
  simp only [State.conduct, hregister, limited_of_boundless h]
  rfl

/-! ### Calls -/

/-- What a server raises in a call: for want of a connection, at a statement or at the commit. -/
def State.raised? (server : Server σ) (c : Call) (s : State σ) : Option Trouble :=
  if s.context.isDone s.clock then none
  else match (s.asked server).1.trouble with
    | some t => some t
    | none =>
      match (s.asked server).2.conduct server c.session with
      | (.error (.trouble t), _) => some t
      | (.error (.fault _), _) => none
      | (.ok _, s') => (s'.commit server).1

/-- In the call the server raises nothing but errors of the database, and every row it brings has
the columns that were selected. -/
structure Orderly (server : Server σ) (c : Call) (s : State σ) : Prop where
  raises : ∀ t, s.raised? server c = some t → t.isDatabase = true
  fits : ∀ x ∈ s.answered server c.session, Fits x.1 x.2

/-- The ways that a call can come out. -/
inductive Surface (server : Server σ) (c : Call) (s : State σ) : Except Fault Reply → Prop
  | answered {reply : Reply} :
    ¬ s.Boundless server → s.raised? server c = none → Legible c reply →
    Surface server c s (.ok reply)
  | failed {fault : Fault} :
    ¬ s.Boundless server → fault.isStorage = true → Surface server c s (.error fault)
  | boundless :
    s.Boundless server → s.raised? server c = none →
    Surface server c s (.error .boundlessTimeout)

/-- How the session of a call ends on its connection. -/
inductive Conducted (server : Server σ) (c : Call) (s : State σ) :
    Except Stop (Except Fault Reply) → Prop
  | answered {reply : Reply} :
    ¬ s.Boundless server → Legible c reply → Conducted server c s (.ok (.ok reply))
  | stopped {t : Trouble} : ¬ s.Boundless server → Conducted server c s (.error (.trouble t))
  | boundless : s.Boundless server → Conducted server c s (.error (.fault .boundlessTimeout))

/-- On rows that fit, only the server or a time without bound stops a session. -/
theorem conduct_ends {c : Call} {s : State σ} (hlive : s.context.isDone s.clock = false)
    (htrouble : (s.asked server).1.trouble = none)
    (hfits : ∀ x ∈ s.answered server c.session, Fits x.1 x.2) :
    Conducted server c s ((s.asked server).2.conduct server c.session).1 := by
  by_cases h : s.Boundless server
  · obtain ⟨-, -, seconds, hleft, hnone⟩ := h
    rw [conduct_of_boundless hleft hnone]
    exact .boundless ⟨hlive, htrouble, seconds, hleft, hnone⟩
  · have hbounded : ∀ seconds,
        (s.asked server).2.register.2.context.remaining (s.asked server).2.register.2.clock =
          some seconds → milliseconds? seconds ≠ none := by
      rw [register_remaining]
      exact fun seconds hleft hnone => h ⟨hlive, htrouble, seconds, hleft, hnone⟩
    simp only [State.answered, htrouble] at hfits
    -- rows fit, so that the faults of the session's own do not occur
    have hbody := (session_keeps False c).mono (U := fun _ => True) (V := fun _ => False)
      (fun _ _ => trivial) (fun _ hfault => hfault.2) fun _ hx => hx
    have hends := runSession_ends (limited_obeys (R := WellRead False c) trivial hbounded hbody)
      fun x hx => .inl (hfits x hx)
    simp only [State.conduct]
    rcases hrun : (runSession server (s.asked server).2.register.1 (limited
      ((s.asked server).2.register.2.context.remaining (s.asked server).2.register.2.clock) c.session)
      (s.asked server).2.register.2).1 with (t | fault) | fault | reply <;> rw [hrun] at hends
    · exact .stopped h
    · exact hends.elim
    · exact (hends.fault _ rfl).2.elim
    · exact .answered h (hends.reply _ rfl)

/-- **A call over a database that is in order** comes to a reply, to a storage fault, or fails for
a time left without bound. -/
theorem perform_surface {c : Call} {s : State σ} (h : Orderly server c s) :
    Surface server c s (perform server c s).1 := by
  obtain ⟨result, s', hperform, hcourse⟩ := perform_course server c s
  have hraises := h.raises
  rw [hperform]
  cases hcourse with
  | refused hcheck =>
    refine .failed (fun hboundless => ?_) rfl
    rw [(Context.check_eq_ok_iff ..).2 hboundless.1] at hcheck
    cases hcheck
  | @unconnected t hlive htrouble =>
    refine .failed (fun hboundless => ?_) (classify_isStorage (hraises t ?_) _ _)
    · rw [hboundless.2.1] at htrouble
      cases htrouble
    · simp [State.raised?, hlive, htrouble]
  | rolledBack hlive htrouble hconduct =>
    -- what stopped the session was raised at a statement, or it had not begun
    have hends := conduct_ends hlive htrouble h.fits
    rw [hconduct] at hends
    cases hends with
    | @stopped t hbounded =>
      have hraised : s.raised? server c = some t := by
        simp [State.raised?, hlive, htrouble, hconduct]
      exact .failed hbounded (classify_isStorage (hraises t hraised) _ _)
    | boundless hboundless =>
      exact .boundless hboundless (by simp [State.raised?, hlive, htrouble, hconduct])
  | @uncommitted _ _ _ t hlive htrouble hconduct hcommit =>
    have hends := conduct_ends hlive htrouble h.fits
    rw [hconduct] at hends
    cases hends with
    | answered hbounded _ =>
      have hraised : s.raised? server c = some t := by
        simp [State.raised?, hlive, htrouble, hconduct, hcommit]
      exact .failed hbounded (classify_isStorage (hraises t hraised) _ _)
  | committed hlive htrouble hconduct hcommit =>
    have hends := conduct_ends hlive htrouble h.fits
    rw [hconduct] at hends
    cases hends with
    | answered hbounded hlegible =>
      exact .answered hbounded (by simp [State.raised?, hlive, htrouble, hconduct, hcommit]) hlegible

end EmailOwnership.Store.Database
