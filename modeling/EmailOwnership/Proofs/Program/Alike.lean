import EmailOwnership.Proofs.Memory.Redaction
import EmailOwnership.Rehearsal.Pace

/-! Two runs that differ in codes alone.

Two programs are alike if they show the same of all that they do, and may differ only in the
codes that they draw, store and deliver (`Alike`): they go on alike after any two codes drawn, and
after any answers of the store that differ in codes alone. So two runs at one pace over worlds
that are alike end alike (`alike_run`). -/
namespace EmailOwnership

namespace Rehearsal
open Store (Call Reply)

/-! ### Worlds -/

/-- Worlds at one time, equal except for the codes in their stores and logs. What digits are to
be drawn does not count. -/
structure World.Alike (w w' : World) : Prop where
  memory : w.memory.redact = w'.memory.redact
  clock : w.clock = w'.clock
  log : w.log.map Log.Entry.redact = w'.log.map Log.Entry.redact

/-- Sessions under one context, over worlds that are alike, with as many calls of each method. -/
structure Session.Alike (s s' : Session) : Prop where
  world : s.world.Alike s'.world
  context : s.context = s'.context
  calls : s.calls.map Call.method = s'.calls.map Call.method

section
variable {w w' : World} {s s' : Session}

theorem World.Alike.note (h : w.Alike w') {entry entry' : Log.Entry}
    (hentry : entry.redact = entry'.redact) : (w.note entry).Alike (w'.note entry') :=
  ⟨h.memory, h.clock, by simp only [World.note, List.map_append, List.map_cons, h.log, hentry]⟩

theorem World.Alike.draw (h : w.Alike w') (n n' : Nat) : (w.draw n).2.Alike (w'.draw n').2 :=
  ⟨h.memory, h.clock, h.log⟩

theorem World.Alike.wait (h : w.Alike w') (seconds : Option Float) :
    (w.wait seconds).Alike (w'.wait seconds) := by
  cases seconds with
  | none => exact h
  | some seconds => exact ⟨h.memory, congrArg (· + seconds) h.clock, h.log⟩

/-- The store answers alike, unless it is asked for a code. -/
theorem World.Alike.perform (h : w.Alike w') {context context' : Context String}
    (hcontext : context = context') {c c' : Call} (hc : c.redact = c'.redact)
    (hcode : c.method ≠ .accountByCode) :
    let answered := w.perform context c
    let answered' := w'.perform context' c'
    answered.1.map Reply.redact = answered'.1.map Reply.redact ∧ answered.2.Alike answered'.2 := by
  obtain ⟨memory, clock, digits, log⟩ := w
  obtain ⟨memory', clock', digits', log'⟩ := w'
  obtain ⟨hmemory, rfl, hlog⟩ := h
  subst hcontext
  have hcode' : c'.method ≠ .accountByCode := by rwa [← c'.method_redact, ← hc, c.method_redact]
  have hanswer := Store.Memory.perform_redact context clock hcode memory
  rw [hc, hmemory, Store.Memory.perform_redact context clock hcode' memory'] at hanswer
  obtain ⟨hreply, hleft⟩ := Prod.ext_iff.1 hanswer
  exact ⟨hreply.symm, hleft.symm, rfl, hlog⟩

theorem Session.alike_start (h : w.Alike w') (context : Context String) :
    (Session.start w context).Alike (.start w' context) := ⟨h, rfl, rfl⟩

theorem Session.Alike.wait (h : s.Alike s') (p : Pause) : (s.wait p).Alike (s'.wait p) := by
  obtain ⟨seconds, cancels⟩ := p
  cases cancels with
  | false => exact ⟨h.world.wait seconds, h.context, h.calls⟩
  | true =>
    exact ⟨h.world.wait seconds, congrArg (fun c : Context String => c.cancel.2) h.context, h.calls⟩

/-- How often a method was called shows in the methods of the calls. -/
theorem Session.countOf_congr (h : s.calls.map Call.method = s'.calls.map Call.method)
    (m : Store.Method) : s.countOf m = s'.countOf m := by
  have hcount (s : Session) : s.countOf m = (s.calls.map Call.method).count m := by
    rw [Session.countOf, List.count, List.countP_map]
    rfl
  rw [hcount, hcount, h]

/-- After whatever pause, the store answers alike. -/
theorem Session.Alike.perform (h : s.Alike s') (pace : Pace) {c c' : Call}
    (hc : c.redact = c'.redact) (hcode : c.method ≠ .accountByCode) :
    let answered := s.perform pace.interposition c
    let answered' := s'.perform pace.interposition c'
    answered.1.map Reply.redact = answered'.1.map Reply.redact ∧ answered.2.Alike answered'.2 := by
  have hmethod : c.method = c'.method := by rw [← c.method_redact, hc, c'.method_redact]
  have hasked : Session.Alike {s with calls := s.calls ++ [c]} {s' with calls := s'.calls ++ [c']} :=
    ⟨h.world, h.context, by simp only [List.map_append, List.map_cons, h.calls, hmethod]⟩
  have hpaused := hasked.wait (pace c.method (s.countOf c.method))
  obtain ⟨hreply, hworld⟩ := hpaused.world.perform hpaused.context hc hcode
  simp only [Session.perform, Pace.interposition, ← hmethod, ← Session.countOf_congr h.calls]
  exact ⟨hreply, hworld, hpaused.context, hpaused.calls⟩

end
end Rehearsal

/-! ### Programs -/

namespace Program
open Rehearsal
open Store (Call Fault Reply)
variable {α β : Type} {R : α → α → Prop} {S : β → β → Prop}

/-- The same failure, or answers in this relation. -/
inductive Agree (R : α → α → Prop) : Except Failure α → Except Failure α → Prop
  | ok {a a' : α} : R a a' → Agree R (.ok a) (.ok a')
  | error (e : Failure) : Agree R (.error e) (.error e)

theorem agree_eq {o o' : Except Failure α} : Agree Eq o o' ↔ o = o' := by
  constructor
  · intro h
    cases h with
    | ok ha => rw [ha]
    | error e => rfl
  · rintro rfl
    cases o with
    | ok a => exact .ok rfl
    | error e => exact .error e

/-- Programs that differ only in the codes that they draw, store and deliver, whatever the codes
are that they draw and that the store answers. They end with the same failure, or with answers
in this relation. -/
inductive Alike (R : α → α → Prop) : Program α → Program α → Prop
  | done {o o' : Except Failure α} : Agree R o o' → Alike R (.done o) (.done o')
  | asked {c c' : Call} {next : (Effect.store c).Reply → Program α}
    {next' : (Effect.store c').Reply → Program α} :
    c.redact = c'.redact → c.method ≠ .accountByCode →
    (∀ fault : Fault, Alike R (next (.error fault)) (next' (.error fault))) →
    (∀ reply reply' : Reply, reply.Alike reply' →
      Alike R (next (.ok reply)) (next' (.ok reply'))) →
    Alike R (.ask (.store c) next) (.ask (.store c') next')
  | logged {entry : Log.Entry} {next next' : (Effect.log entry).Reply → Program α} :
    Alike R (next ()) (next' ()) → Alike R (.ask (.log entry) next) (.ask (.log entry) next')
  | drawn {n n' : Nat} {next : (Effect.drawCode n).Reply → Program α}
    {next' : (Effect.drawCode n').Reply → Program α} :
    (∀ code code' : String, code.length = n → code'.length = n' →
      Alike R (next code) (next' code')) →
    Alike R (.ask (.drawCode n) next) (.ask (.drawCode n') next')
  | delivered {address code code' : String} {next : (Effect.deliver address code).Reply → Program α}
    {next' : (Effect.deliver address code').Reply → Program α} :
    (∀ outcome : Except String Unit, Alike R (next outcome) (next' outcome)) →
    Alike R (.ask (.deliver address code) next) (.ask (.deliver address code') next')

/-! ### Sequences -/

theorem alike_pure {a a' : α} (h : R a a') : Alike R (pure a) (pure a') := .done (.ok h)

theorem alike_fail (e : Failure) : Alike R (fail e) (fail e) := .done (.error e)

theorem alike_bind {p p' : Program α} {f f' : α → Program β} (hp : Alike R p p')
    (hf : ∀ a a', R a a' → Alike S (f a) (f' a')) : Alike S (p >>= f) (p' >>= f') := by
  induction hp with
  | done h =>
    cases h with
    | ok ha => exact hf _ _ ha
    | error e => exact alike_fail e
  | asked hc hcode _ _ iherror ihok => exact .asked hc hcode iherror ihok
  | logged _ ih => exact .logged ih
  | drawn _ ih => exact .drawn ih
  | delivered _ ih => exact .delivered ih

/-- Alike programs can be tried alike. -/
theorem alike_attempt {p p' : Program α} (hp : Alike R p p') :
    Alike (Agree R) p.attempt p'.attempt := by
  induction hp with
  | done h => exact alike_pure h
  | asked hc hcode _ _ iherror ihok => exact .asked hc hcode iherror ihok
  | logged _ ih => exact .logged ih
  | drawn _ ih => exact .drawn ih
  | delivered _ ih => exact .delivered ih

theorem alike_log {entry : Log.Entry} {f f' : Unit → Program α} (h : Alike R (f ()) (f' ())) :
    Alike R (log entry >>= f) (log entry >>= f') := .logged h

theorem alike_draw {n n' : Nat} {f f' : String → Program α}
    (h : ∀ code code', code.length = n → code'.length = n' → Alike R (f code) (f' code')) :
    Alike R (drawCode n >>= f) (drawCode n' >>= f') := .drawn h

/-- Any two codes may be delivered to one address. -/
theorem alike_deliver {address code code' : String} {f f' : Unit → Program α}
    (h : Alike R (f ()) (f' ())) :
    Alike R (deliver address code >>= f) (deliver address code' >>= f') := by
  refine .delivered fun outcome => ?_
  cases outcome with
  | ok _ => exact h
  | error message => exact alike_fail _

/-- A field other than the code is the same in both replies. -/
theorem alike_fieldOf {reply reply' : Reply} (h : reply.Alike reply') {field : Reply.Field}
    (hfield : field ≠ .code) : Alike Eq (fieldOf reply field) (fieldOf reply' field) := by
  unfold fieldOf
  rw [h.field? hfield, h.kind]
  cases reply'.field? field with
  | none => exact alike_fail _
  | some value => exact alike_pure rfl

/-- A code is in both replies or in none. -/
theorem alike_code {reply reply' : Reply} (h : reply.Alike reply') :
    Alike (fun _ _ => True) (fieldOf reply .code) (fieldOf reply' .code) := by
  have hvalue : (reply.field? .code).map Store.Value.redact =
      (reply'.field? .code).map Store.Value.redact := by
    rw [← Reply.field?_code_redact, h, Reply.field?_code_redact]
  unfold fieldOf
  rw [h.kind]
  cases hcode : reply.field? .code <;> cases hcode' : reply'.field? .code <;>
    rw [hcode, hcode'] at hvalue
  · exact alike_fail _
  · cases hvalue
  · cases hvalue
  · exact alike_pure trivial

/-! ### Runs -/

/-- **Programs that are alike run alike** at one pace over sessions that are. -/
theorem alike_run (pace : Pace) (sender : Sender) {p p' : Program α} (hp : Alike R p p')
    {s s' : Session} (hs : s.Alike s') :
    let ended := p.run (sessionHandler pace.interposition sender) s
    let ended' := p'.run (sessionHandler pace.interposition sender) s'
    Agree R ended.1 ended'.1 ∧ ended.2.Alike ended'.2 := by
  induction hp generalizing s s' with
  | done h => exact ⟨h, hs⟩
  | @asked c c' next next' hc hcode _ _ iherror ihok =>
    obtain ⟨hreply, hsession⟩ := hs.perform pace hc hcode
    simp only [run_ask, sessionHandler]
    generalize s.perform pace.interposition c = answered at hreply hsession ⊢
    generalize s'.perform pace.interposition c' = answered' at hreply hsession ⊢
    obtain ⟨answer, rest⟩ := answered
    obtain ⟨answer', rest'⟩ := answered'
    cases answer with
    | error fault =>
      cases answer' with
      | error fault' =>
        cases hreply
        exact iherror fault hsession
      | ok reply' => cases hreply
    | ok reply =>
      cases answer' with
      | error fault' => cases hreply
      | ok reply' => exact ihok reply reply' (Except.ok.inj hreply) hsession
  | logged _ ih => exact ih ⟨hs.world.note rfl, hs.context, hs.calls⟩
  | @drawn n n' _ _ _ ih =>
    exact ih _ _ (length_draw ..) (length_draw ..) ⟨hs.world.draw n n', hs.context, hs.calls⟩
  | delivered _ ih =>
    cases sender with
    | console => exact ih _ ⟨hs.world.note rfl, hs.context, hs.calls⟩
    | failing message => exact ih _ hs

end Program
end EmailOwnership
