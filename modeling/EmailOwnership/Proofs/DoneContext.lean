import EmailOwnership.Proofs.Context.Expiry
import EmailOwnership.Proofs.Database.Course
import EmailOwnership.Proofs.ErrorSurface
import EmailOwnership.Proofs.Program.Denied

/-! Requests whose context is done.

Once a context is done it stays so, and neither store does anything for it: every call is refused
before it reads a record, draws an identifier or asks for a connection. Every operation therefore
ends as an internal error whose cause is the refusal, with both stores as they were and no code
delivered (`done_context_is_inert`). -/
namespace EmailOwnership
open Program (Denied Denies denied_stored)
open Store (Call Fault)
open Store.Database (Server perform)

namespace Context
variable {κ : Type}

/-- When a context is done, how that shows, and for how long. -/
structure DoneForGood [DecidableEq κ] (s : Scene κ) : Prop where
  reasons : ∀ now, now.isNaN = false → (s.shown.isDone now = true ↔ s.shown.cancelled = true ∨
    ∃ deadline, s.shown.deadline = some deadline ∧ (deadline ≤ now ∨ deadline.isNaN = true))
  check : ∀ now, (∃ why, s.shown.check now = .error why) ↔ s.shown.isDone now = true
  lasting : ∀ now later, now ≤ later → s.shown.isDone now = true →
    ∀ events, (s.run events).shown.isDone later = true

theorem doneForGood [DecidableEq κ] (s : Scene κ) : DoneForGood s :=
  ⟨fun _ => isDone_iff, fun _ => check_eq_error_iff, fun _ _ hclock h events =>
    s.isDone_run events hclock h⟩

end Context

/-! ### Refused calls -/

theorem Store.Memory.perform_of_check {κ : Type} {context : Context κ} {now : Float}
    {why : Interruption} (h : context.check now = .error why) (c : Call) (s : State) :
    Memory.perform context now c s = (.error (.interrupted why.message), s) := by
  simp only [Memory.perform, h]

theorem Store.Database.perform_of_check {σ : Type} (server : Server σ) {s : State σ}
    {why : Interruption} (h : s.context.check s.clock = .error why) (c : Call) :
    perform server c s = (.error (.interrupted why.message), s) := by
  simp only [perform, transact, h]

namespace Rehearsal
variable {requestId : String} {codeLength : Nat} {action : Action} {p : Program Result}

/-! ### Operations -/

/-- **Every operation asks the store** before it does anything else, except that it may draw the
digits of a code. -/
theorem denied_of_program? (fault : Fault) (hp : action.program? requestId codeLength = some p)
    (hoperation : ∀ c, action ≠ .store c) (hcode : action.code? ≠ some "")
    (hlength : 1 ≤ codeLength) : ∃ details, Denied fault (Registry.raised details fault) p := by
  have hnamed {code : String} (h : some code ≠ some "") : code ≠ "" :=
    fun hempty => h (congrArg some hempty)
  cases action with
  | add account address code =>
    cases hp
    exact ⟨_, (Program.denied_add (hnamed hcode)).map _⟩
  | provision address code =>
    cases hp
    exact ⟨_, (Program.denied_provision (hnamed hcode)).map _⟩
  | getCode address | verify account address | remove account email
  | removeEmail account email =>
    cases hp
    exact ⟨_, (denied_stored ..).map _⟩
  | lookupCode address code | lookupAccount address | accountForEmail email =>
    cases hp
    exact ⟨_, Program.denied_lookup.map _⟩
  | addEmail sender account email =>
    cases hp
    exact ⟨_, (Program.denied_draw hlength fun code hne => (Program.denied_add hne).bind _).map _⟩
  | verifyEmail email code =>
    cases hp
    exact ⟨_, (Program.denied_lookup.bind _).map _⟩
  | provisionEmail email =>
    cases hp
    exact ⟨_, (Program.denied_draw hlength fun code hne => Program.denied_provision hne).map _⟩
  | authenticate handle password =>
    cases hp
    exact ⟨_, (Program.denied_authenticate ..).map _⟩
  | store c => exact absurd rfl (hoperation c)
  | _ => cases hp

/-! ### Surroundings -/

/-- Under a context that is done, the memory store is out of reach. -/
theorem denies_memory (sender : Sender) {context : Context String} {w : World} {why : Interruption}
    (hcheck : context.check w.clock = .error why) :
    Denies (plainHandler sender context) (.interrupted why.message)
      fun w' => (w'.memory = w.memory ∧ w'.deliveries = w.deliveries) ∧ w'.clock = w.clock where
  call c w' := by
    rintro ⟨⟨hmemory, hsent⟩, hclock⟩
    have hperform := Store.Memory.perform_of_check (hclock ▸ hcheck) c w'.memory
    simp only [plainHandler, World.perform, hperform]
    exact ⟨rfl, ⟨hmemory, hsent⟩, hclock⟩
  log entry w' hentry := by
    rintro ⟨⟨hmemory, hsent⟩, hclock⟩
    have hnote : (w'.note entry).deliveries = w'.deliveries := by simp [deliveries_note, hentry]
    exact ⟨⟨hmemory, hnote.trans hsent⟩, hclock⟩
  draw length w' h := ⟨length_draw w' length, h⟩

/-- Surroundings that ask a database; `sent` are the codes that they have delivered. -/
structure Serves {σ τ : Type} (server : Server σ) (handle : Program.Handler τ)
    (view : τ → Store.Database.State σ) (sent : τ → List (String × String)) : Prop where
  call : ∀ c t, (handle (.store c) t).1 = (perform server c (view t)).1 ∧
    view (handle (.store c) t).2 = (perform server c (view t)).2 ∧
    sent (handle (.store c) t).2 = sent t
  log : ∀ entry t, entry.delivery? = none →
    view (handle (.log entry) t).2 = view t ∧ sent (handle (.log entry) t).2 = sent t
  draw : ∀ length t, String.length (handle (.drawCode length) t).1 = length ∧
    view (handle (.drawCode length) t).2 = view t ∧ sent (handle (.drawCode length) t).2 = sent t

/-- Under a context that is done, the database is out of reach. -/
theorem Serves.denies {σ τ : Type} {server : Server σ} {handle : Program.Handler τ}
    {view : τ → Store.Database.State σ} {sent : τ → List (String × String)}
    (h : Serves server handle view sent) {t : τ} {why : Interruption}
    (hcheck : (view t).context.check (view t).clock = .error why) :
    Denies handle (.interrupted why.message) fun t' => view t' = view t ∧ sent t' = sent t where
  call c t' := by
    rintro ⟨hview, hsent⟩
    obtain ⟨hanswer, hview', hsent'⟩ := h.call c t'
    rw [hview, Store.Database.perform_of_check server hcheck] at hanswer hview'
    exact ⟨hanswer, hview', hsent'.trans hsent⟩
  log entry t' hentry := by
    rintro ⟨hview, hsent⟩
    obtain ⟨hview', hsent'⟩ := h.log entry t' hentry
    exact ⟨hview'.trans hview, hsent'.trans hsent⟩
  draw length t' := by
    rintro ⟨hview, hsent⟩
    obtain ⟨hlength, hview', hsent'⟩ := h.draw length t'
    exact ⟨hlength, hview'.trans hview, hsent'.trans hsent⟩

/-- The codes that a desk has delivered. -/
def Desk.sent (d : Desk) : List (String × String) := d.log.filterMap Log.Entry.delivery?

theorem serves_desk : Serves Player.server deskHandler Desk.database Desk.sent where
  call c d := ⟨rfl, rfl, rfl⟩
  log entry d hentry := ⟨rfl, by simp [deskHandler, Desk.sent, hentry]⟩
  draw length d := ⟨by simp [deskHandler, Digits.draw], rfl, rfl⟩

/-! ### Requests -/

/-- The end of an operation that was refused for this reason. -/
def Refused (why : Interruption) (o : Except Failure Result) : Prop :=
  ∃ e, o = .error (.registry e) ∧ e.kind = .internal ∧ e.message = why.message ∧
    e.cause = some (.interrupted why.message)

theorem refused_of_raised {why : Interruption} {details : Details} {o : Except Failure Result}
    (h : o = .error (Registry.raised details (.interrupted why.message))) : Refused why o :=
  ⟨_, h, rfl, rfl, rfl⟩

/-- **A context that is done is done for good, and nothing happens under it.** Under a clock that
does not go back it stays done whatever is called on it, and its check fails just then. A call of
either store is refused, and the store is left as it was, with no identifier drawn, no connection
asked for and no statement sent. An operation over either store that has a code for its write, or
draws one that is not empty, ends as an internal error with the refusal as its cause, has changed
nothing in the store and delivered nothing. -/
theorem done_context_is_inert :
    (∀ (κ : Type) [DecidableEq κ] (s : Context.Scene κ), Context.DoneForGood s) ∧
    (∀ (κ : Type) (context : Context κ) (now : Float) (why : Interruption),
      context.check now = .error why → ∀ c s,
        Store.Memory.perform context now c s = (.error (.interrupted why.message), s)) ∧
    (∀ (σ : Type) (server : Server σ) (s : Store.Database.State σ) (why : Interruption),
      s.context.check s.clock = .error why → ∀ c,
        perform server c s = (.error (.interrupted why.message), s)) ∧
    ∀ (requestId : String) (codeLength : Nat) (action : Action) (p : Program Result),
      action.program? requestId codeLength = some p → (∀ c, action ≠ .store c) →
      action.code? ≠ some "" → 1 ≤ codeLength →
      (∀ (sender : Sender) (context : Context String) (w : World) (why : Interruption),
        context.check w.clock = .error why →
        let ended := p.run (plainHandler sender context) w
        Refused why ended.1 ∧ ended.2.memory = w.memory ∧ ended.2.deliveries = w.deliveries) ∧
      ∀ (σ τ : Type) (server : Server σ) (handle : Program.Handler τ)
        (view : τ → Store.Database.State σ) (sent : τ → List (String × String)),
        Serves server handle view sent → ∀ t why,
          (view t).context.check (view t).clock = .error why →
          let ended := p.run handle t
          Refused why ended.1 ∧ view ended.2 = view t ∧ sent ended.2 = sent t := by
  refine ⟨fun κ _ s => Context.doneForGood s, fun κ context now why h c s => ?_,
    fun σ server s why h c => ?_, fun requestId codeLength action p hp hoperation hcode hlength =>
      ⟨fun sender context w why h => ?_, fun σ τ server handle view sent hserves t why h => ?_⟩⟩
  · exact Store.Memory.perform_of_check h c s
  · exact Store.Database.perform_of_check server h c
  · obtain ⟨details, hdenied⟩ :=
      denied_of_program? (.interrupted why.message) hp hoperation hcode hlength
    obtain ⟨hend, hleft, -⟩ := hdenied.run (denies_memory sender h) ⟨⟨rfl, rfl⟩, rfl⟩
    exact ⟨refused_of_raised hend, hleft⟩
  · obtain ⟨details, hdenied⟩ :=
      denied_of_program? (.interrupted why.message) hp hoperation hcode hlength
    obtain ⟨hend, hleft⟩ := hdenied.run (hserves.denies h) ⟨rfl, rfl⟩
    exact ⟨refused_of_raised hend, hleft⟩

/-- A request that came too late. -/
def late : Desk :=
  ⟨⟨⟨⟨.none, .none, [], .none⟩, []⟩, 2, .new "k" (some 1), 0, []⟩, .standard, []⟩

/-- A deadline that is no number refuses a claim, now and later; one that has passed refuses a
login. -/
theorem done_context_is_inert_expired :
    let context : Context String := .new "r" (some (0 / 0))
    let w : World := ⟨.empty, 0, .standard, []⟩
    let claim : Program Result := .reply <$> Verification.addEmail "r" 6 ⟨1⟩ "a@x.com"
    let login : Program Result := (fun account => .value (account.getD .null)) <$>
      Authentication.authenticate "k" "alice" "secret"
    ((Context.Scene.start context).run [.register "a"]).shown.isDone 7 = true ∧
      (Refused (.expired "r") (claim.run (plainHandler .console context) w).1 ∧
        (claim.run (plainHandler .console context) w).2.memory = .empty ∧
        (claim.run (plainHandler .console context) w).2.deliveries = []) ∧
      Refused (.expired "k") (login.run deskHandler late).1 ∧
        (login.run deskHandler late).2.database = late.database := by
  intro context w claim login
  obtain ⟨hlasting, -, -, hoperations⟩ := done_context_is_inert
  have hdone : context.isDone 0 = true := by decide +kernel
  have hclaim := (hoperations "r" 6 (.addEmail .console ⟨1⟩ "a@x.com") claim rfl (by simp)
    (by simp [Action.code?]) (by decide)).1 .console context w (.expired "r")
    (Context.check_of_expired rfl hdone)
  have hlogin := (hoperations "k" 6 (.authenticate "alice" "secret") login rfl (by simp)
    (by simp [Action.code?]) (by decide)).2 _ _ _ _ _ _ serves_desk late (.expired "k")
    (Context.check_of_expired rfl (by decide +kernel))
  exact ⟨(hlasting String (.start context)).lasting 0 7 (by decide +kernel)
    ((Context.Scene.shown_start context).symm ▸ hdone) [.register "a"], hclaim, hlogin.1,
    hlogin.2.1⟩

end Rehearsal
end EmailOwnership
