import EmailOwnership.Proofs.Memory.Step
import EmailOwnership.Rehearsal.Exchange
import EmailOwnership.Rehearsal.Pace

/-! Operations that have the store to themselves.

`Alone` relates an operation over the memory store to its end, to the store that it leaves and
to the codes that it hands to the sender. Each of its calls is one step of the store, or is
refused because the request is done, and the relation leaves open at which calls that happens.
Every run at any pace is such a course (`alone_run`): what holds of all courses holds at
whatever moment a request is cancelled or runs out of time. -/
namespace EmailOwnership.Program
open Rehearsal
open Store (Call Fault Reply)
open Store.Memory (State step)
variable {α β : Type}

/-- From the first store the program may go to its outcome and to the second store, with these
codes delivered on its way. -/
inductive Alone (sender : Sender) :
    Program α → State → Except Failure α → State → List (String × String) → Prop
  | done {outcome : Except Failure α} {s : State} : Alone sender (.done outcome) s outcome s []
  | answered {c : Call} {next : (Effect.store c).Reply → Program α} {s s' : State}
    {o : Except Failure α} {sent : List (String × String)} :
    Alone sender (next (step c s).1) (step c s).2 o s' sent →
    Alone sender (.ask (.store c) next) s o s' sent
  | interrupted {c : Call} {next : (Effect.store c).Reply → Program α} {s s' : State}
    {o : Except Failure α} {sent : List (String × String)} (message : String) :
    Alone sender (next (.error (.interrupted message))) s o s' sent →
    Alone sender (.ask (.store c) next) s o s' sent
  | logged {entry : Log.Entry} {next : (Effect.log entry).Reply → Program α} {s s' : State}
    {o : Except Failure α} {sent : List (String × String)} :
    Alone sender (next ()) s o s' sent →
    Alone sender (.ask (.log entry) next) s o s' (entry.delivery?.toList ++ sent)
  | drawn {length : Nat} {next : (Effect.drawCode length).Reply → Program α} {s s' : State}
    {o : Except Failure α} {sent : List (String × String)} (code : String) :
    code.length = length → Alone sender (next code) s o s' sent →
    Alone sender (.ask (.drawCode length) next) s o s' sent
  | delivered {address code : String} {next : (Effect.deliver address code).Reply → Program α}
    {s s' : State} {o : Except Failure α} {sent : List (String × String)} :
    sender = .console → Alone sender (next (.ok ())) s o s' sent →
    Alone sender (.ask (.deliver address code) next) s o s' ((address, code) :: sent)
  | undelivered {address code : String} {next : (Effect.deliver address code).Reply → Program α}
    {s s' : State} {o : Except Failure α} {sent : List (String × String)} (message : String) :
    sender = .failing message → Alone sender (next (.error message)) s o s' sent →
    Alone sender (.ask (.deliver address code) next) s o s' sent

variable {sender : Sender} {s s' : State} {sent : List (String × String)}

/-! ### Reading a course off the program -/

theorem alone_done {outcome o : Except Failure α} :
    Alone sender (.done outcome) s o s' sent ↔ o = outcome ∧ s' = s ∧ sent = [] := by
  constructor
  · intro h
    cases h with
    | done => exact ⟨rfl, rfl, rfl⟩
  · rintro ⟨rfl, rfl, rfl⟩
    exact .done

/-- A call is answered by the store, or is refused because the request is done. -/
theorem alone_call {c : Call} {next : (Effect.store c).Reply → Program α} {o : Except Failure α}
    (h : Alone sender (.ask (.store c) next) s o s' sent) :
    (∃ message, Alone sender (next (.error (.interrupted message))) s o s' sent) ∨
      Alone sender (next (step c s).1) (step c s).2 o s' sent := by
  cases h with
  | interrupted message h => exact .inl ⟨message, h⟩
  | answered h => exact .inr h

/-- A log line that hands out no code leaves what follows as it is. -/
theorem alone_log {entry : Log.Entry} {f : Unit → Program α} {o : Except Failure α}
    (hentry : entry.delivery? = none) (h : Alone sender (log entry >>= f) s o s' sent) :
    Alone sender (f ()) s o s' sent := by
  replace h : Alone sender (.ask (.log entry) fun _ => f ()) s o s' sent := h
  cases h with
  | logged h =>
    rw [hentry]
    exact h

theorem alone_draw {length : Nat} {f : String → Program α} {o : Except Failure α}
    (h : Alone sender (drawCode length >>= f) s o s' sent) :
    ∃ code : String, code.length = length ∧ Alone sender (f code) s o s' sent := by
  replace h : Alone sender (.ask (.drawCode length) fun code => f code) s o s' sent := h
  cases h with
  | drawn code hcode h => exact ⟨code, hcode, h⟩

/-- The sender delivers the code, or says why it did not. -/
theorem alone_deliver {address code : String} {f : Unit → Program α} {o : Except Failure α}
    (h : Alone sender (deliver address code >>= f) s o s' sent) :
    (∃ message, sender = .failing message ∧ o = .error (.delivery message) ∧ s' = s ∧ sent = []) ∨
      ∃ rest, sender = .console ∧ sent = (address, code) :: rest ∧
        Alone sender (f ()) s o s' rest := by
  obtain ⟨next, hask, hsent, hunsent⟩ : ∃ next, deliver address code >>= f =
      .ask (.deliver address code) next ∧ next (.ok ()) = f () ∧
      ∀ message, next (.error message) = fail (.delivery message) := ⟨_, rfl, rfl, fun _ => rfl⟩
  rw [hask] at h
  cases h with
  | delivered hsender h =>
    rw [hsent] at h
    exact .inr ⟨_, hsender, rfl, h⟩
  | undelivered message hsender h =>
    rw [hunsent] at h
    obtain ⟨rfl, rfl, rfl⟩ := alone_done.1 h
    exact .inl ⟨message, hsender, rfl, rfl, rfl⟩

/-- What goes on with an outcome goes on after a course with that outcome. -/
theorem alone_attempt {p : Program α} {f : Except Failure α → Program β} {o : Except Failure β}
    (h : Alone sender (p.attempt >>= f) s o s' sent) :
    ∃ outcome mid before after, sent = before ++ after ∧ Alone sender p s outcome mid before ∧
      Alone sender (f outcome) mid o s' after := by
  induction p generalizing s sent with
  | done outcome => exact ⟨outcome, s, [], sent, rfl, .done, h⟩
  | ask effect next ih =>
    replace h : Alone sender (.ask effect fun reply => (next reply).attempt >>= f) s o s' sent := h
    cases h with
    | answered h =>
      obtain ⟨outcome, mid, before, after, rfl, hp, hf⟩ := ih _ h
      exact ⟨outcome, mid, before, after, rfl, .answered hp, hf⟩
    | interrupted message h =>
      obtain ⟨outcome, mid, before, after, rfl, hp, hf⟩ := ih _ h
      exact ⟨outcome, mid, before, after, rfl, .interrupted message hp, hf⟩
    | logged h =>
      obtain ⟨outcome, mid, before, after, rfl, hp, hf⟩ := ih _ h
      exact ⟨outcome, mid, _, after, (List.append_assoc ..).symm, .logged hp, hf⟩
    | drawn code hcode h =>
      obtain ⟨outcome, mid, before, after, rfl, hp, hf⟩ := ih _ h
      exact ⟨outcome, mid, before, after, rfl, .drawn code hcode hp, hf⟩
    | delivered hsender h =>
      obtain ⟨outcome, mid, before, after, rfl, hp, hf⟩ := ih _ h
      exact ⟨outcome, mid, _, after, rfl, .delivered hsender hp, hf⟩
    | undelivered message hsender h =>
      obtain ⟨outcome, mid, before, after, rfl, hp, hf⟩ := ih _ h
      exact ⟨outcome, mid, before, after, rfl, .undelivered message hsender hp, hf⟩

/-- A sequence tries its first part, and goes on only if that succeeded. -/
theorem attempt_bind (p : Program α) (f : α → Program β) :
    p >>= f = p.attempt >>= fun
      | .ok a => f a
      | .error e => fail e := by
  induction p with
  | done outcome => cases outcome <;> rfl
  | ask effect next ih => exact congrArg (ask effect) (funext ih)

/-- The course of a sequence is that of its first part, which may be where it ends. -/
theorem alone_bind {p : Program α} {f : α → Program β} {o : Except Failure β}
    (h : Alone sender (p >>= f) s o s' sent) :
    (∃ e, Alone sender p s (.error e) s' sent ∧ o = .error e) ∨
      ∃ a mid before after, sent = before ++ after ∧ Alone sender p s (.ok a) mid before ∧
        Alone sender (f a) mid o s' after := by
  rw [attempt_bind] at h
  obtain ⟨outcome, mid, before, after, rfl, hp, hf⟩ := alone_attempt h
  cases outcome with
  | ok a => exact .inr ⟨a, mid, before, after, rfl, hp, hf⟩
  | error e =>
    obtain ⟨rfl, rfl, rfl⟩ := alone_done.1 hf
    exact .inl ⟨e, by rwa [List.append_nil], rfl⟩

theorem alone_map {f : α → β} {p : Program α} {o : Except Failure β}
    (h : Alone sender (f <$> p) s o s' sent) :
    ∃ o', Alone sender p s o' s' sent ∧ o = o'.map f := by
  rcases alone_bind (f := fun a => pure (f a)) h with
    ⟨e, hp, rfl⟩ | ⟨a, mid, before, after, rfl, hp, hf⟩
  · exact ⟨.error e, hp, rfl⟩
  · obtain ⟨rfl, rfl, rfl⟩ := alone_done.1 hf
    exact ⟨.ok a, by rwa [List.append_nil], rfl⟩

/-- What every step of the store keeps, a course keeps. -/
theorem alone_invariant {P : State → Prop} (hstep : ∀ c s, P s → P (step c s).2) {p : Program α}
    {o : Except Failure α} (h : Alone sender p s o s' sent) (hs : P s) : P s' := by
  induction h with
  | done => exact hs
  | answered _ ih => exact ih (hstep _ _ hs)
  | interrupted _ _ ih => exact ih hs
  | logged _ ih => exact ih hs
  | drawn _ _ _ ih => exact ih hs
  | delivered _ _ ih => exact ih hs
  | undelivered _ _ _ ih => exact ih hs

/-! ### Runs -/

/-- A pause touches neither the store nor the log. -/
theorem wait_world (session : Session) (p : Pause) :
    (session.wait p).world.memory = session.world.memory ∧
      (session.wait p).world.deliveries = session.world.deliveries := by
  obtain ⟨seconds, cancels⟩ := p
  cases seconds <;> cases cancels <;> exact ⟨rfl, rfl⟩

/-- After whatever pause, a call is refused or is one step of the store. -/
theorem perform_paced (pace : Pace) (c : Call) (session : Session) :
    let answered := session.perform pace.interposition c
    answered.2.world.deliveries = session.world.deliveries ∧
      ((∃ message, answered.1 = .error (.interrupted message) ∧
          answered.2.world.memory = session.world.memory) ∨
        answered.1 = (step c session.world.memory).1 ∧
          answered.2.world.memory = (step c session.world.memory).2) := by
  let paused := Session.wait {session with calls := session.calls ++ [c]}
    (pace c.method (session.countOf c.method))
  obtain ⟨hmemory, hdeliveries⟩ : paused.world.memory = session.world.memory ∧
      paused.world.deliveries = session.world.deliveries := wait_world ..
  refine ⟨hdeliveries, ?_⟩
  rw [← hmemory]
  rcases Store.Memory.perform_cases paused.context paused.world.clock c paused.world.memory with
    ⟨-, h⟩ | ⟨-, message, h⟩
  · exact .inr ⟨congrArg Prod.fst h, congrArg Prod.snd h⟩
  · exact .inl ⟨message, congrArg Prod.fst h, congrArg Prod.snd h⟩

/-- **A run at any pace is a course of its program**, and its log tells what was delivered. -/
theorem alone_run (pace : Pace) (sender : Sender) (p : Program α) (session : Session) :
    let ended := p.run (sessionHandler pace.interposition sender) session
    ∃ sent, Alone sender p session.world.memory ended.1 ended.2.world.memory sent ∧
      ended.2.world.deliveries = session.world.deliveries ++ sent := by
  induction p generalizing session with
  | done outcome => exact ⟨[], .done, (List.append_nil _).symm⟩
  | ask effect next ih =>
    cases effect with
    | store c =>
      obtain ⟨hdeliveries, hcall⟩ := perform_paced pace c session
      simp only [run_ask, sessionHandler]
      generalize session.perform pace.interposition c = answered at hdeliveries hcall
      obtain ⟨answer, rest⟩ := answered
      obtain ⟨sent, h, hsent⟩ := ih answer rest
      refine ⟨sent, ?_, hsent.trans (congrArg (· ++ sent) hdeliveries)⟩
      rcases hcall with ⟨message, rfl, hmemory⟩ | ⟨rfl, hmemory⟩ <;>
        rw [hmemory] at h
      · exact .interrupted message h
      · exact .answered h
    | log entry =>
      obtain ⟨sent, h, hsent⟩ := ih () {session with world := session.world.note entry}
      refine ⟨_, .logged h, hsent.trans ?_⟩
      rw [deliveries_note, List.append_assoc]
    | deliver address code =>
      cases sender with
      | console =>
        obtain ⟨sent, h, hsent⟩ :=
          ih (.ok ()) {session with world := session.world.note (.codeDelivered address code)}
        refine ⟨_, .delivered rfl h, hsent.trans ?_⟩
        rw [deliveries_note, List.append_assoc]
        rfl
      | failing message =>
        obtain ⟨sent, h, hsent⟩ := ih (.error message) session
        exact ⟨sent, .undelivered message rfl h, hsent⟩
    | drawCode length =>
      obtain ⟨sent, h, hsent⟩ :=
        ih (session.world.draw length).1 {session with world := (session.world.draw length).2}
      exact ⟨sent, .drawn _ (length_draw ..) h, hsent⟩

/-- Where nothing comes between, a session is its operation over the plain world. -/
theorem run_steady (sender : Sender) (p : Program α) (session : Session) :
    let ended := p.run (sessionHandler .none sender) session
    let plain := p.run (plainHandler sender session.context) session.world
    ended.1 = plain.1 ∧ ended.2.world = plain.2 := by
  induction p generalizing session with
  | done outcome => exact ⟨rfl, rfl⟩
  | ask effect next ih =>
    cases effect with
    | deliver address code => cases sender <;> exact ih _ _
    | _ => exact ih _ _

end EmailOwnership.Program

/-! ### Requests -/

namespace EmailOwnership.Rehearsal
open Program (Alone alone_run run_steady)

/-- A request at any pace is a course of the service's answer to it. -/
theorem exchange_alone (settings : Settings) (pace : Pace) (request : Http.Request) (w : World) :
    let answered := exchange settings pace.interposition request w
    ∃ sent, Alone .console (Api.respond settings request) w.memory (.ok answered.1)
        answered.2.memory sent ∧
      answered.2.deliveries = w.deliveries ++ sent := by
  obtain ⟨response, session, hrun, hanswered⟩ := exchange_run settings pace.interposition request w
  have hcourse := alone_run pace .console (Api.respond settings request)
    (.start w (Api.contextOf settings w.clock request))
  rw [hrun] at hcourse
  rw [hanswered]
  exact hcourse

/-- A request that nothing comes between is answered as over the plain world. -/
theorem exchange_steady {settings : Settings} {request : Http.Request} {w w' : World}
    {response : Api.Response}
    (h : (Api.respond settings request).run
        (plainHandler .console (Api.contextOf settings w.clock request)) w = (.ok response, w')) :
    exchange settings .none request w = (response, w') := by
  obtain ⟨response', session, hrun, hanswered⟩ := exchange_run settings .none request w
  have hplain := run_steady .console (Api.respond settings request)
    (.start w (Api.contextOf settings w.clock request))
  rw [hrun, Session.start, h] at hplain
  obtain ⟨hresponse, hworld⟩ : (.ok response' : Except Failure _) = .ok response ∧
    session.world = w' := hplain
  rw [hanswered, Except.ok.inj hresponse, hworld]

end EmailOwnership.Rehearsal
