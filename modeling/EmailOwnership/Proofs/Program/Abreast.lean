import EmailOwnership.Proofs.Program.Alike
import EmailOwnership.Proofs.Program.Alone

/-! Two runs over different stores.

Two programs go abreast from two stores if they call the same methods, log what reads the same and
end alike, whatever becomes of their calls: each call is answered by either store, or is refused
over both because the request is done (`Abreast`). Whether a request is done depends on its context
and on the time, not on the store. So two runs at one pace over worlds that may differ in their
stores stay side by side (`abreast_run`), also where they are cancelled on their way. -/
namespace EmailOwnership

namespace Rehearsal
open Store (Call Fault Reply)
open Store.Memory (State step)
variable {β : Type} {reading : Log.Entry → β}

/-! ### Worlds -/

/-- Worlds at one time, with the same digits to draw, whose logs read the same. Their stores may
differ. -/
structure World.Beside (reading : Log.Entry → β) (w w' : World) : Prop where
  clock : w.clock = w'.clock
  digits : w.digits = w'.digits
  log : w.log.map reading = w'.log.map reading

/-- Sessions under one context in worlds side by side, with as many calls of each method. -/
structure Session.Beside (reading : Log.Entry → β) (s s' : Session) : Prop where
  world : s.world.Beside reading s'.world
  context : s.context = s'.context
  calls : s.calls.map Call.method = s'.calls.map Call.method

/-- What becomes of a call each over two stores: it is refused over both, or is a step of both. -/
inductive Answered (c c' : Call) (m m' : State) :
    Except Fault Reply × State → Except Fault Reply × State → Prop
  | refused (message : String) :
    Answered c c' m m' (.error (.interrupted message), m) (.error (.interrupted message), m')
  | stepped : Answered c c' m m' (step c m) (step c' m')

section
variable {w w' : World} {s s' : Session}

theorem World.beside_of_memory (w : World) (m m' : State) :
    World.Beside reading {w with memory := m} {w with memory := m'} := ⟨rfl, rfl, rfl⟩

/-- Where the logs are the same, only the stores can differ. -/
theorem World.Beside.eq (h : w.Beside id w') : w' = {w with memory := w'.memory} := by
  obtain ⟨memory, clock, digits, log⟩ := w
  obtain ⟨memory', clock', digits', log'⟩ := w'
  obtain ⟨rfl, rfl, hlog⟩ := h
  rw [List.map_id, List.map_id] at hlog
  rw [show log = log' from hlog]

theorem World.Beside.note (h : w.Beside reading w') {entry entry' : Log.Entry}
    (hentry : reading entry = reading entry') : (w.note entry).Beside reading (w'.note entry') :=
  ⟨h.clock, h.digits, by simp only [World.note, List.map_append, List.map_cons, h.log, hentry]⟩

theorem World.Beside.wait (h : w.Beside reading w') (seconds : Option Float) :
    (w.wait seconds).Beside reading (w'.wait seconds) := by
  cases seconds with
  | none => exact h
  | some seconds => exact ⟨congrArg (· + seconds) h.clock, h.digits, h.log⟩

theorem Session.Beside.wait (h : s.Beside reading s') (p : Pause) :
    (s.wait p).Beside reading (s'.wait p) := by
  obtain ⟨seconds, cancels⟩ := p
  cases cancels with
  | false => exact ⟨h.world.wait seconds, h.context, h.calls⟩
  | true =>
    exact ⟨h.world.wait seconds, congrArg (fun c : Context String => c.cancel.2) h.context, h.calls⟩

/-- At one time and under one context both stores answer, or neither does. -/
theorem World.Beside.perform (h : w.Beside reading w') {context context' : Context String}
    (hcontext : context = context') (c c' : Call) :
    let answered := w.perform context c
    let answered' := w'.perform context' c'
    answered.2.Beside reading answered'.2 ∧
      Answered c c' w.memory w'.memory (answered.1, answered.2.memory)
        (answered'.1, answered'.2.memory) := by
  subst hcontext
  refine ⟨⟨h.clock, h.digits, h.log⟩, ?_⟩
  simp only [World.perform, Store.Memory.perform, ← h.clock]
  cases context.check w.clock with
  | error interruption => exact .refused interruption.message
  | ok _ => exact .stepped

/-- After whatever pause both stores answer, or neither does. -/
theorem Session.Beside.perform (h : s.Beside reading s') (pace : Pace) {c c' : Call}
    (hc : c.method = c'.method) :
    let answered := s.perform pace.interposition c
    let answered' := s'.perform pace.interposition c'
    answered.2.Beside reading answered'.2 ∧
      Answered c c' s.world.memory s'.world.memory (answered.1, answered.2.world.memory)
        (answered'.1, answered'.2.world.memory) := by
  have hasked : Session.Beside reading {s with calls := s.calls ++ [c]}
      {s' with calls := s'.calls ++ [c']} :=
    ⟨h.world, h.context, by simp only [List.map_append, List.map_cons, h.calls, hc]⟩
  have hpaused := hasked.wait (pace c.method (s.countOf c.method))
  obtain ⟨hworld, hanswered⟩ := hpaused.world.perform hpaused.context c c'
  rw [(Program.wait_world ..).1, (Program.wait_world ..).1] at hanswered
  simp only [Session.perform, Pace.interposition, ← hc, ← Session.countOf_congr h.calls]
  exact ⟨⟨hworld, hpaused.context, hpaused.calls⟩, hanswered⟩

end
end Rehearsal

/-! ### Programs -/

namespace Program
open Rehearsal
open Store (Call Fault Reply)
open Store.Memory (State step)
variable {α β γ : Type} {reading : Log.Entry → γ} {R : α → α → Prop}
  {Q : Except Failure α → Except Failure α → Prop} {S : Except Failure β → Except Failure β → Prop}

/-- Programs that go the same way from these stores, as far as the methods of their calls and the
reading of their log lines show, to outcomes in this relation. They draw and deliver nothing. -/
inductive Abreast (reading : Log.Entry → γ) (Q : Except Failure α → Except Failure α → Prop) :
    Program α → State → Program α → State → Prop
  | done {o o' : Except Failure α} {s s' : State} : Q o o' →
    Abreast reading Q (.done o) s (.done o') s'
  | asked {c c' : Call} {next : (Effect.store c).Reply → Program α}
    {next' : (Effect.store c').Reply → Program α} {s s' : State} : c.method = c'.method →
    (∀ message, Abreast reading Q (next (.error (.interrupted message))) s
      (next' (.error (.interrupted message))) s') →
    Abreast reading Q (next (step c s).1) (step c s).2 (next' (step c' s').1) (step c' s').2 →
    Abreast reading Q (.ask (.store c) next) s (.ask (.store c') next') s'
  | logged {entry entry' : Log.Entry} {next : (Effect.log entry).Reply → Program α}
    {next' : (Effect.log entry').Reply → Program α} {s s' : State} :
    reading entry = reading entry' → Abreast reading Q (next ()) s (next' ()) s' →
    Abreast reading Q (.ask (.log entry) next) s (.ask (.log entry') next') s'

/-! ### Sequences -/

section
variable {s s' : State}

theorem abreast_log {entry entry' : Log.Entry} (hentry : reading entry = reading entry')
    {f f' : Unit → Program α} (h : Abreast reading Q (f ()) s (f' ()) s') :
    Abreast reading Q (log entry >>= f) s (log entry' >>= f') s' := .logged hentry h

/-- What goes on with the outcomes goes abreast from whatever stores. -/
theorem abreast_attempt {p p' : Program α} {f f' : Except Failure α → Program β}
    (hp : Abreast reading Q p s p' s')
    (hf : ∀ o o' t t', Q o o' → Abreast reading S (f o) t (f' o') t') :
    Abreast reading S (p.attempt >>= f) s (p'.attempt >>= f') s' := by
  induction hp with
  | done h => exact hf _ _ _ _ h
  | asked hc _ _ iherror ihok => exact .asked hc iherror ihok
  | logged hentry _ ih => exact .logged hentry ih

/-- What goes on with the answers goes abreast from whatever stores; where both failed, they failed
alike. -/
theorem abreast_bind {p p' : Program α} {f f' : α → Program β}
    (hp : Abreast reading (Agree R) p s p' s') (hfailed : ∀ e, S (.error e) (.error e))
    (hf : ∀ a a' t t', R a a' → Abreast reading S (f a) t (f' a') t') :
    Abreast reading S (p >>= f) s (p' >>= f') s' := by
  rw [attempt_bind p, attempt_bind p']
  refine abreast_attempt hp fun o o' t t' h => ?_
  cases h with
  | ok ha => exact hf _ _ _ _ ha
  | error e => exact .done (hfailed e)

end

/-! ### Runs -/

/-- **Programs abreast run side by side** at one pace. -/
theorem abreast_run (pace : Pace) (sender : Sender) {p p' : Program α} {m m' : State}
    (hp : Abreast reading Q p m p' m') {s s' : Session} (hm : s.world.memory = m)
    (hm' : s'.world.memory = m') (hs : s.Beside reading s') :
    let ended := p.run (sessionHandler pace.interposition sender) s
    let ended' := p'.run (sessionHandler pace.interposition sender) s'
    Q ended.1 ended'.1 ∧ ended.2.Beside reading ended'.2 := by
  induction hp generalizing s s' with
  | done h => exact ⟨h, hs⟩
  | @asked c c' next next' m m' hc _ _ iherror ihok =>
    subst hm hm'
    obtain ⟨hsession, hanswered⟩ := hs.perform pace hc
    simp only [run_ask, sessionHandler]
    generalize s.perform pace.interposition c = answered at hsession hanswered ⊢
    generalize s'.perform pace.interposition c' = answered' at hsession hanswered ⊢
    obtain ⟨answer, rest⟩ := answered
    obtain ⟨answer', rest'⟩ := answered'
    generalize ho : (answer, rest.world.memory) = o at hanswered
    generalize ho' : (answer', rest'.world.memory) = o' at hanswered
    cases hanswered with
    | refused message =>
      obtain ⟨rfl, hmemory⟩ := Prod.ext_iff.1 ho
      obtain ⟨rfl, hmemory'⟩ := Prod.ext_iff.1 ho'
      exact iherror message hmemory hmemory' hsession
    | stepped =>
      obtain ⟨rfl, hmemory⟩ := Prod.ext_iff.1 ho
      obtain ⟨rfl, hmemory'⟩ := Prod.ext_iff.1 ho'
      exact ihok hmemory hmemory' hsession
  | logged hentry _ ih => exact ih hm hm' ⟨hs.world.note hentry, hs.context, hs.calls⟩

end Program

/-! ### Requests -/

namespace Rehearsal
open Program (Abreast abreast_run)
open Store.Memory (State)
variable {γ : Type} {reading : Log.Entry → γ}

/-- Requests whose answers go abreast are answered the same, in worlds that stay side by side. -/
theorem exchange_abreast {settings : Settings} {request : Http.Request} {w w' : World}
    (hw : w.Beside reading w')
    (h : Abreast reading Eq (Api.respond settings request) w.memory (Api.respond settings request)
      w'.memory) (pace : Pace) :
    let answered := exchange settings pace.interposition request w
    let answered' := exchange settings pace.interposition request w'
    answered'.1 = answered.1 ∧ answered.2.Beside reading answered'.2 := by
  obtain ⟨response, session, hrun, hanswered⟩ := exchange_run settings pace.interposition request w
  obtain ⟨response', session', hrun', hanswered'⟩ :=
    exchange_run settings pace.interposition request w'
  have hstart : Session.Beside reading (.start w (Api.contextOf settings w.clock request))
      (.start w' (Api.contextOf settings w'.clock request)) :=
    ⟨hw, congrArg (Api.contextOf settings · request) hw.clock, rfl⟩
  obtain ⟨houtcome, hsession⟩ := abreast_run pace .console h rfl rfl hstart
  rw [hrun, hrun'] at houtcome hsession
  rw [hanswered, hanswered', ← Except.ok.inj houtcome]
  exact ⟨rfl, hsession.world⟩

/-- What is done is answered the same over both stores, leaves each as it was, and makes the same of
all the rest of the world. -/
def Blind {α : Type} (activity : World → α × World) (w : World) (m m' : State) : Prop :=
  ∃ (answer : α) (left : World), activity {w with memory := m} = (answer, {left with memory := m}) ∧
    activity {w with memory := m'} = (answer, {left with memory := m'})

theorem blind_of_beside {α : Type} {activity : World → α × World} {w : World} {m m' : State}
    (hanswer : (activity {w with memory := m'}).1 = (activity {w with memory := m}).1)
    (hbeside : (activity {w with memory := m}).2.Beside id (activity {w with memory := m'}).2)
    (hkept : (activity {w with memory := m}).2.memory = m)
    (hkept' : (activity {w with memory := m'}).2.memory = m') : Blind activity w m m' := by
  rcases hm : activity {w with memory := m} with ⟨answer, left⟩
  rcases hm' : activity {w with memory := m'} with ⟨answer', left'⟩
  rw [hm] at hanswer hbeside hkept
  rw [hm'] at hanswer hbeside hkept'
  obtain rfl : answer' = answer := hanswer
  obtain rfl : left.memory = m := hkept
  obtain rfl : left'.memory = m' := hkept'
  exact ⟨answer', left, hm, hm'.trans (congrArg (Prod.mk answer') hbeside.eq)⟩

/-- Requests whose answers go abreast in every word, and that keep their stores, are blind to them. -/
theorem exchange_blind {settings : Settings} {request : Http.Request} {w : World} {m m' : State}
    (h : Abreast id Eq (Api.respond settings request) m (Api.respond settings request) m')
    (pace : Pace)
    (hkept : (exchange settings pace.interposition request {w with memory := m}).2.memory = m)
    (hkept' : (exchange settings pace.interposition request {w with memory := m'}).2.memory = m') :
    Blind (exchange settings pace.interposition request) w m m' := by
  obtain ⟨hanswer, hbeside⟩ := exchange_abreast (World.beside_of_memory w m m') h pace
  exact blind_of_beside hanswer hbeside hkept hkept'

end Rehearsal
end EmailOwnership
