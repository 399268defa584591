import EmailOwnership.Proofs.Database.Ask
import EmailOwnership.Rehearsal.Database

/-! When a write is sent.

A transaction looks at its context once, before it asks for a connection. From there only what
the database raises can stop it: a write is sent exactly if its connection is opened, be the
request cancelled or out of time by then, and it is committed if nothing is raised after that
(`write_sent_iff_opened`). A cancellation that comes while the connection is awaited finds
nothing to stop. -/
namespace EmailOwnership.Store.Database
open Rehearsal (Player)
variable {σ : Type} {server : Server σ}

/-- Until the connection is open, nothing is sent but the limit and cancellations. -/
theorem opened_events (server : Server σ) (s : State σ) :
    ∃ sent, (s.opened server).2.events = s.events ++ sent ∧
      ∀ e ∈ sent, e = .cancelSent ∨ ∃ parameters, e = .execute .setTimeout parameters := by
  obtain ⟨registered, hregistered, hcancellations, -⟩ := register_cases s
  have hlimited : (limited (s.register.2.context.remaining s.register.2.clock) (.done ())).Obeys
      (· = .setTimeout) (fun _ _ => True) (fun _ => True) fun _ => True :=
    limited_obeys rfl (fun _ _ _ => trivial) trivial
  obtain ⟨sent, hsent⟩ := runSession_passage server s.register.1 hlimited (fun _ _ => trivial)
    s.register.2
  refine ⟨registered ++ sent, ?_, fun e he => ?_⟩
  · rw [← List.append_assoc, ← hregistered]
    exact hsent.events
  · rcases List.mem_append.1 he with h | h
    · exact .inl (hcancellations e h)
    · rcases hsent.work e h with hc | ⟨query, parameters, rfl⟩
      · exact .inl hc
      · obtain rfl := hsent.statements query (List.mem_filterMap.2 ⟨_, h, rfl⟩)
        exact .inr ⟨parameters, rfl⟩

/-- The event neither touches a record nor commits. -/
def Event.isHarmless : Event → Prop
  | .execute (.emails _) _ | .commit => False
  | _ => True

/-- While the connection is awaited, nothing touches a record. -/
theorem asked_harmless (server : Server σ) (s : State σ) :
    ∃ sent, (s.asked server).2.events = s.events ++ sent ∧ ∀ e ∈ sent, e.isHarmless :=
  ⟨_, asked_events server s, List.forall_mem_singleton.2 trivial⟩

/-- Until the connection is open, nothing touches a record. -/
theorem opened_harmless (server : Server σ) (s : State σ) :
    ∃ sent, ((s.asked server).2.opened server).2.events = s.events ++ sent ∧
      ∀ e ∈ sent, e.isHarmless := by
  obtain ⟨asked, hasked, hharmless⟩ := asked_harmless server s
  obtain ⟨sent, hsent, honly⟩ := opened_events server (s.asked server).2
  refine ⟨asked ++ sent, by rw [hsent, hasked, List.append_assoc], fun e he => ?_⟩
  rcases List.mem_append.1 he with h | h
  · exact hharmless e h
  · rcases honly e h with rfl | ⟨_, rfl⟩ <;> trivial

/-- A call whose connection is not opened touches no record, commits nothing and fails. -/
theorem perform_of_not_opened {c : Call} {s : State σ} (hlive : s.context.isDone s.clock = false)
    (h : ¬ ∃ r, Opens server s r) :
    ∃ sent, (perform server c s).2.events = s.events ++ sent ∧ (∀ e ∈ sent, e.isHarmless) ∧
      ∃ fault, (perform server c s).1 = .error fault := by
  cases htrouble : (s.asked server).1.trouble with
  | some t =>
    obtain ⟨asked, hasked, hharmless⟩ := asked_harmless server s
    obtain ⟨fault, hperform⟩ := perform_of_unconnected server (c := c) hlive (by simp [htrouble])
    rw [hperform]
    exact ⟨asked, hasked, hharmless, fault, rfl⟩
  | none =>
    obtain ⟨sent, hsent, hharmless⟩ := opened_harmless server s
    rcases hopened : (s.asked server).2.opened server with ⟨stop | u, r⟩
    · rw [hopened] at hsent
      rw [perform_of_connected server hlive htrouble, conduct_of_not_opened server hopened]
      refine ⟨sent ++ [.rollback], ?_, fun e he => ?_, _, rfl⟩
      · rw [rollBack_events]
        simpa using congrArg (· ++ [Event.rollback]) hsent
      · rcases List.mem_append.1 he with he | he
        · exact hharmless e he
        · rw [List.mem_singleton.1 he]
          trivial
    · exact absurd ⟨r, htrouble, hopened⟩ h

/-- When a write is sent, and what comes of it. -/
structure WriteCourse (server : Server σ) (a : Ask) (s : State σ) (answer : Except Fault Reply)
    (s' : State σ) : Prop where
  /-- Done from the beginning: nothing happens. -/
  refused : s.context.isDone s.clock = true →
    s' = s ∧ ∃ message, answer = .error (.interrupted message)
  /-- Not opened: no record is touched, and the call fails. -/
  unopened : s.context.isDone s.clock = false → (¬ ∃ r, Opens server s r) →
    ∃ sent, s'.events = s.events ++ sent ∧ (∀ e ∈ sent, e.isHarmless) ∧ ∃ fault, answer = .error fault
  /-- Opened: the write is sent, wherever the context stands in `r`. -/
  sent : s.context.isDone s.clock = false → ∀ r, Opens server s r →
    ∃ before rest, r.events = s.events ++ before ∧ (∀ e ∈ before, e.isHarmless) ∧
      s'.events = r.events ++ .execute (.emails a.statement) (some a.parameters) :: rest
  /-- It is committed, unless the database raises something. -/
  committed : s.context.isDone s.clock = false → ∀ r, Opens server s r →
    ∀ incident result state incident' state',
      server.execute (.emails a.statement) (some a.parameters) r.server = (incident, result, state) →
      incident.trouble = none → server.commit state = (incident', state') → incident'.trouble = none →
      s'.server = state' ∧ s'.events.getLast? = some .commit ∧ answer = a.read result

/-- **A write is sent if and only if its connection is opened**, and the context is not looked at
again before that. -/
theorem write_sent_iff_opened (server : Server σ) {c : Call} (hwrite : c.isWrite = true)
    (s : State σ) :
    ∃ a, c.ask? (.drawn (s.drawn + 1)) = some a ∧
      WriteCourse server a s (perform server c s).1 (perform server c s).2 := by
  obtain ⟨a, ha⟩ := ask?_of_onRecords (onRecords_of_isWrite hwrite) (.drawn (s.drawn + 1))
  have hdrawn : ∀ r, Opens server s r → c.ask? (.drawn (r.drawn + 1)) = some a := by
    rintro r ⟨-, hopened⟩
    have hr : r.drawn = s.drawn := by
      have h := opened_drawn server (s.asked server).2
      rw [hopened] at h
      exact h.trans (suffer_drawn ..)
    rw [hr, ha]
  refine ⟨a, ha, fun hdone => ?_, fun hlive => perform_of_not_opened hlive, fun hlive r hopens => ?_,
    fun hlive r hopens incident result state incident' state' hexecute hincident hcommit hincident' => ?_⟩
  · obtain ⟨message, hperform⟩ := perform_of_done server (c := c) hdone
    rw [hperform]
    exact ⟨rfl, message, rfl⟩
  · obtain ⟨before, hbefore, hharmless⟩ := opened_harmless server s
    rw [hopens.2] at hbefore
    obtain ⟨rest, hrest⟩ := sent_of_opened hlive hopens.1 hopens.2 (hdrawn r hopens)
    exact ⟨before, rest, hbefore, hharmless, hrest⟩
  · obtain ⟨hanswer, hserver, -, hlast⟩ := perform_of_opened hlive hopens.1 hopens.2 (hdrawn r hopens)
      hexecute hincident hcommit hincident'
    exact ⟨hserver, hlast, hanswer⟩

/-- A request without a deadline that is cancelled while it waits for its connection. -/
def cancelledWaiting : State Player :=
  ⟨⟨⟨⟨none, true, none⟩, .none, [], .none⟩, []⟩, 0, .new "k" none, 0, []⟩

/-- Its write is sent all the same, and committed. -/
theorem write_sent_iff_opened_cancelled :
    ∃ r, Opens Player.server cancelledWaiting r ∧ r.context.isDone r.clock = true ∧
      (∃ rest, (perform Player.server (.createEmail "a@x.com" (some ⟨1⟩) "1") cancelledWaiting).2.events =
        r.events ++ .execute (.emails createEmail)
          (some [.uuid (.drawn 1), .uuid ⟨1⟩, .text "a@x.com", .text "1"]) :: rest) ∧
      (perform Player.server (.createEmail "a@x.com" (some ⟨1⟩) "1") cancelledWaiting).2.events.getLast? =
        some .commit := by
  obtain ⟨a, ha, h⟩ := write_sent_iff_opened Player.server
    (c := .createEmail "a@x.com" (some ⟨1⟩) "1") rfl cancelledWaiting
  cases ha
  have hopens : Opens Player.server cancelledWaiting
      ((cancelledWaiting.asked Player.server).2.opened Player.server).2 := ⟨rfl, rfl⟩
  obtain ⟨-, rest, -, -, hrest⟩ := h.sent rfl _ hopens
  exact ⟨_, hopens, rfl, ⟨rest, hrest⟩, (h.committed rfl _ hopens _ _ _ _ _ rfl rfl rfl rfl).2.1⟩

end EmailOwnership.Store.Database
