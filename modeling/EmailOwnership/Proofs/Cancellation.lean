import EmailOwnership.Proofs.Context.Script

/-! What a context promises of the callbacks registered on it.

Each registration leads to one run at most, in the order of registration, and nothing lingers
once the context is cancelled: later registrations run at once, and there is nothing left to
withdraw or to cancel again (`callbacks_run_at_most_once`). This holds whatever callbacks do,
and so of every script.

A cancellation need not reach all that was pending. It empties the list before it runs the first
callback, and a callback that raises ends the loop: what comes after it is not run, then or
later (`cancel_runs_all_iff`). -/
namespace EmailOwnership.Context
open Script (Calls Desk Ended Within eventsCallback eventsWith performWith runCallback)

section Promises
variable {κ : Type} [DecidableEq κ] {c : Context κ} {events : List (Event κ)} {now : Scene κ}

/-- A cancelled context, from here on. -/
structure Settled (now : Scene κ) : Prop where
  lasting : ∀ later, (now.run later).context.cancelled = true ∧ (now.run later).context.pending = []
  /-- A callback that is registered runs at once. -/
  immediate : ∀ k, now.step (.register k) =
    {now with
      registered := now.registered ++ [now.next k]
      ran := now.ran ++ [now.next k]
      loops := ⟨now.next k, []⟩ :: now.loops}
  unregister : ∀ k, now.step (.unregister k) = now
  cancel : now.step .cancel = now

theorem settled_of_cancelled (h : now.Orderly) (hc : now.context.cancelled = true) :
    Settled now := by
  refine ⟨fun later => ?_, Scene.step_register_cancelled hc, h.step_unregister hc, h.step_cancel hc⟩
  have hlater := (now.cancelled_run later).2 (.inl hc)
  exact ⟨hlater, (h.run later).settled hlater⟩

/-- What a context promises of its callbacks, after a course of events. -/
structure Promises (c : Context κ) (events : List (Event κ)) (now : Scene κ) : Prop where
  /-- The callbacks that were pending at first are registered, and those of each call, in order. -/
  registered : now.registered.map Registration.callback =
    c.pending ++ events.filterMap Event.registers?
  numbered : now.registered.map Registration.number = List.range now.registered.length
  once : now.ran.Nodup ∧ ∀ r ∈ now.ran, r ∈ now.registered
  /-- Those that are pending at the first cancellation stand in the order of registration, and
  those of them that run do so in this order. -/
  ordered : ∀ before after pending, events = before ++ .cancel :: after →
    ((Scene.start c).run before).context.cancelled = false →
    pending = ((Scene.start c).run before).context.pending →
    pending.Sublist now.registered ∧ now.ran.filter (· ∈ pending) <+: pending
  cancelled : now.context.cancelled = true ↔ c.cancelled = true ∨ .cancel ∈ events
  settled : now.context.cancelled = true → Settled now
  /-- A callback whose only registration was withdrawn before the cancellation does not run. -/
  withdrawn : ∀ before k after, events = before ++ .unregister k :: after →
    ((Scene.start c).run before).context.cancelled = false →
    k ∈ c.pending ++ before.filterMap Event.registers? →
    (c.pending ++ events.filterMap Event.registers?).count k = 1 →
    k ∉ now.ran.map Registration.callback

theorem registered_start (c : Context κ) (events : List (Event κ)) :
    ((Scene.start c).run events).registered.map Registration.callback =
      c.pending ++ events.filterMap Event.registers? := by
  obtain ⟨added, hrun, hadded⟩ := (Scene.start c).registered_run events
  rw [hrun, List.map_append, Scene.map_callback_start, hadded]

/-- While a context is live, withdrawing the only registration of a callback leaves none that
could still run. -/
theorem withdrawn_out {s : Scene κ} {k : κ} (h : s.Orderly) (hc : s.context.cancelled = false)
    (honce : (s.registered.map Registration.callback).count k ≤ 1) {r : Registration κ}
    (hr : r ∈ (s.step (.unregister k)).held) : r.callback ≠ k := by
  obtain ⟨hran, -, hloops⟩ := h.quiet hc
  have hpending : r ∈ s.context.pending.eraseP (fun x => decide (x.callback = k)) := by
    simpa [Scene.held, Scene.step, hran, hloops] using hr
  rintro rfl
  have hleft := List.mem_map_of_mem (f := Registration.callback) hpending
  rw [Scene.map_callback_eraseP, ← List.count_pos_iff, List.count_erase_self] at hleft
  have hcount := (h.pending.map Registration.callback).count_le r.callback
  omega

theorem promises (hc : c.cancelled = true → c.pending = []) (events : List (Event κ)) :
    Promises c events ((Scene.start c).run events) := by
  have hstart := Scene.orderly_start hc
  have hnow := hstart.run events
  constructor
  case registered => exact registered_start c events
  case numbered => exact hnow.numbered
  case once => exact ⟨hnow.ran_nodup, fun r hr => hnow.mem_registered (List.mem_append_left _ hr)⟩
  case cancelled => exact (Scene.start c).cancelled_run events
  case settled => exact settled_of_cancelled hnow
  case ordered =>
    rintro before after pending rfl hlive rfl
    have hbefore := hstart.run before
    rw [Scene.run_append]
    obtain ⟨_, _, -, -, hphase⟩ := Scene.clearing_run hbefore hlive after
    exact ⟨hbefore.pending.trans (Scene.registered_prefix ..).sublist, hphase.prefix_ran⟩
  case withdrawn =>
    rintro before k after rfl hlive hmem honce hran
    obtain ⟨r, hr, rfl⟩ := List.mem_map.1 hran
    have hbefore := hstart.run before
    obtain ⟨added, hrun, -⟩ :=
      ((Scene.start c).run before).registered_run (.unregister r.callback :: after)
    have hreg := hnow.mem_registered (List.mem_append_left _ hr)
    rw [← registered_start, Scene.run_append, hrun, List.map_append, List.count_append] at honce
    rw [← registered_start, ← List.count_pos_iff] at hmem
    rw [Scene.run_append, hrun, List.mem_append] at hreg
    rcases hreg with hold | hlater
    · -- the registration that was withdrawn does not come back
      have hout : r ∉ (((Scene.start c).run before).step (.unregister r.callback)).held :=
        fun hheld => withdrawn_out hbefore hlive (by omega) hheld rfl
      rw [Scene.run_append] at hr
      exact (hbefore.step _).stays_out ((Scene.registered_prefix _ [_]).subset hold) hout after
        (List.mem_append_left _ hr)
    · have hcount := List.count_pos_iff.2 (List.mem_map_of_mem (f := Registration.callback) hlater)
      omega

end Promises

/-- **Callbacks run once at most, and never linger.** Of whatever is registered, withdrawn and
cancelled, from outside or by callbacks that may also raise, the promises hold at any time; and
every script whose calls end is such a course, at the end of which no callback is under way. -/
theorem callbacks_run_at_most_once (c : Context String) (hc : c.cancelled = true → c.pending = []) :
    (∀ events, Promises c events ((Scene.start c).run events)) ∧
      ∀ scripts depth actions clock handles events d',
        Calls scripts depth actions ⟨clock, c, handles, []⟩ events d' →
          Within [] ((Scene.start c).run events) d' :=
  ⟨promises hc, fun _ _ _ _ _ _ _ h => h.within (Script.shows_start ..)⟩

/-- Two registrations of one callback, which registers another one and raises. -/
theorem callbacks_run_at_most_once_twice :
    let c : Context String := .new "r" none
    let events := [.register "a", .register "a", .cancel, .register "b", .finish, .fail, .cancel]
    Promises c events ((Scene.start c).run events) ∧
      ((Scene.start c).run events).ran.map Registration.callback = ["a", "b"] :=
  ⟨(callbacks_run_at_most_once (.new "r" none) nofun).1 _, by decide⟩

/-! ### How far a cancellation gets -/

section Reach
variable {κ : Type} [DecidableEq κ]

/-- What has become of the registrations `pending` when the cancellation is over. -/
structure Reached (pending : List (Registration κ)) (now : Scene κ) : Prop where
  /-- Either all have run and none has raised, or those up to the first that raised have run. -/
  phase : Scene.Phase pending (now.ran.filter (· ∈ pending)) (now.raised.filter (· ∈ pending)) none
  all_ran_iff : (∀ r ∈ pending, r ∈ now.ran) ↔
    ∀ r ∈ pending, r ∈ now.raised → pending.getLast? = some r
  never_later : ∀ later, ∀ r ∈ pending, r ∉ now.ran → r ∉ (now.run later).ran

theorem reached_of_cancel {s : Scene κ} (h : s.Orderly) (hc : s.context.cancelled = false)
    (during : List (Event κ)) (hdone : ((s.step .cancel).run during).loops = []) :
    Reached s.context.pending ((s.step .cancel).run during) := by
  have hnow := (h.step .cancel).run during
  obtain ⟨inner, loop?, hloops, -, hphase⟩ := Scene.clearing_run h hc during
  have hover : loop? = none := by
    rw [hdone] at hloops
    cases loop? with
    | none => rfl
    | some loop => simp at hloops
  subst hover
  refine ⟨hphase, ?_, fun later r hr hout hran => ?_⟩
  · have hnodup : s.context.pending.Nodup := h.pending.nodup h.nodup
    refine Iff.trans ?_ ((hphase.all_ran_iff hnodup).trans ?_)
    · simp +contextual
    · simp only [List.mem_filter, decide_eq_true_eq, and_imp]
      exact forall_congr' fun r => forall_comm
  · have hcancelled : ((s.step .cancel).run during).context.cancelled = true :=
      (Scene.cancelled_run ..).2 (.inl ((Scene.cancelled_step ..).2 (.inr rfl)))
    have hregistered : r ∈ ((s.step .cancel).run during).registered :=
      (s.registered_prefix (.cancel :: during)).subset (h.pending.subset hr)
    -- what has not run by now is nowhere to be found
    have hheld : r ∉ ((s.step .cancel).run during).held := by
      simpa [Scene.held, hdone, hnow.settled hcancelled] using hout
    exact hnow.stays_out hregistered hheld later (List.mem_append_left _ hran)

end Reach

/-- **Cancelling runs all that was pending only if no callback but the last raises.** When the
call has returned or raised, what was pending has run in order up to the first callback that
raised, and the rest never runs. A script that cancels takes such a course. -/
theorem cancel_runs_all_iff (c : Context String) (hc : c.cancelled = false) :
    (∀ during, (((Scene.start c).step .cancel).run during).loops = [] →
        Reached (Scene.start c).context.pending (((Scene.start c).step .cancel).run during)) ∧
      ∀ scripts depth clock handles,
        let d : Desk := ⟨clock, c, handles, []⟩
        let run := runCallback scripts depth
        Ended (performWith run .cancel d).1 →
          ∃ during, eventsWith run (eventsCallback scripts depth) .cancel d = .cancel :: during ∧
            Within [] (((Scene.start c).step .cancel).run during) (performWith run .cancel d).2 := by
  refine ⟨reached_of_cancel (Scene.orderly_start fun h => ?_) hc, ?_⟩
  · rw [hc] at h
    cases h
  · intro scripts depth clock handles d run hended
    exact ⟨_, rfl, (Script.follows_runCallback scripts depth).performWith .cancel
      (Script.shows_start clock c handles) hended⟩

/-- The first of two callbacks raises; the second one is never run. -/
theorem cancel_runs_all_iff_first_raises :
    let c : Context String := ⟨"r", none, false, ["a", "b"]⟩
    let now := ((Scene.start c).step .cancel).run [.fail]
    Reached (Scene.start c).context.pending now ∧ ⟨1, "b"⟩ ∈ (Scene.start c).context.pending ∧
      now.ran.map Registration.callback = ["a"] ∧ ∀ later, ⟨1, "b"⟩ ∉ (now.run later).ran := by
  have h := (cancel_runs_all_iff ⟨"r", none, false, ["a", "b"]⟩ rfl).1 [.fail] rfl
  exact ⟨h, by decide, by decide, fun later => h.never_later later _ (by decide) (by decide)⟩

end EmailOwnership.Context
