import EmailOwnership.Proofs.Database.Faults
import EmailOwnership.Proofs.Registry.Course

/-! The errors that an operation of the registry may end in.

Whatever the store answers, an operation ends in the fault of the call that failed, or, if none
did and every look was legible, well or in an error of the registry (`Closed`). Over a database
in order the calls fail with storage faults, which become internal errors; the only fault that
gets out as it is comes of a time left that has no number of milliseconds
(`error_surface_closed`). -/
namespace EmailOwnership
open Program (Exchange)
open Store (Call Fault Reply)
open Store.Database (Server Orderly Surface Legible perform perform_surface)

namespace Registry
variable {α β : Type} {details : Details} {account : Uuid} {address code : String}
  {xs : List Exchange} {o : Except Failure α}

/-- How an operation ends, going by its exchanges. -/
structure Closed (xs : List Exchange) (o : Except Failure α) : Prop where
  /-- A call that fails ends the operation. -/
  faulty : ∀ c fault, (c, .error fault) ∈ xs → ∃ details, o = .error (raised details fault)
  sound : (∀ x ∈ xs, ∃ reply, x.2 = .ok reply ∧ Legible x.1 reply) →
    (∃ a, o = .ok a) ∨ ∃ e, o = .error (.registry e)

theorem Closed.map {f : α → β} (h : Closed xs o) : Closed xs (o.map f) := by
  refine ⟨fun c fault hx => ?_, fun hsound => ?_⟩
  · obtain ⟨details, rfl⟩ := h.faulty c fault hx
    exact ⟨details, rfl⟩
  · rcases h.sound hsound with ⟨a, rfl⟩ | ⟨e, rfl⟩
    · exact .inl ⟨f a, rfl⟩
    · exact .inr ⟨e, rfl⟩

theorem closed_fault {c : Call} {fault : Fault} :
    Closed [(c, .error fault)] (.error (raised details fault) : Except Failure α) := by
  refine ⟨fun c' fault' hx => ⟨details, ?_⟩, fun hsound => ?_⟩
  · cases List.mem_singleton.1 hx
    rfl
  · obtain ⟨reply, hreply, -⟩ := hsound _ (List.mem_singleton.2 rfl)
    cases hreply

theorem closed_answer {c : Call} {reply : Reply}
    (h : Legible c reply → (∃ a, o = .ok a) ∨ ∃ e, o = .error (.registry e)) :
    Closed [(c, .ok reply)] o := by
  refine ⟨fun c' fault hx => ?_, fun hsound => ?_⟩
  · cases List.mem_singleton.1 hx
  · obtain ⟨reply', hreply, hlegible⟩ := hsound _ (List.mem_singleton.2 rfl)
    cases hreply
    exact h hlegible

theorem Closed.cons {c : Call} {reply : Reply} (h : Closed xs o) : Closed ((c, .ok reply) :: xs) o := by
  refine ⟨fun c' fault hx => ?_, fun hsound => ?_⟩
  · rcases List.mem_cons.1 hx with heq | hmem
    · cases heq
    · exact h.faulty c' fault hmem
  · exact h.sound fun x hx => hsound x (List.mem_cons_of_mem _ hx)

theorem single_closed {c : Call} {outcome : Reply → Except Failure α}
    (h : Single details c outcome xs o)
    (houtcome : ∀ reply, Legible c reply →
      (∃ a, outcome reply = .ok a) ∨ ∃ e, outcome reply = .error (.registry e)) : Closed xs o := by
  cases h with
  | faulty => exact closed_fault
  | answered => exact closed_answer (houtcome _)

/-- A legible look that brings something has all fields of a record. -/
theorem field?_of_legible {look : Reply} (h : Legible (.getEmail address) look)
    (hlook : look ≠ .nothing) (field : Reply.Field) : look.field? field ≠ none := by
  rcases h address rfl with rfl | ⟨row, rfl⟩
  · exact absurd rfl hlook
  · cases field <;> exact nofun

/-- **A claim is closed**, on each of its ways. -/
theorem claiming_closed {o : Except Failure Reply} (h : Claiming details account address code xs o) :
    Closed xs o := by
  cases h with
  | unread => exact closed_fault
  | illegible hlook hfield =>
    exact closed_answer fun hlegible => absurd hfield (field?_of_legible hlegible hlook _)
  | foreign | verified => exact closed_answer fun _ => .inr ⟨_, rfl⟩
  | unwritten => exact closed_fault.cons
  | granted => exact (closed_answer fun _ => .inl ⟨_, rfl⟩).cons
  | lost => exact (closed_answer fun _ => .inr ⟨_, rfl⟩).cons
  | unreread => exact closed_fault.cons.cons
  | reread _ hread =>
    refine (closed_answer fun hlegible => ?_).cons.cons
    cases hread with
    | gone | verified | unverified => exact .inr ⟨_, rfl⟩
    | illegible hlook hfield => exact absurd hfield (field?_of_legible hlegible hlook _)

end Registry

/-! ### Every operation -/

namespace Rehearsal
open Registry (Closed single_closed)
variable {requestId operation : String} {codeLength : Nat} {action : Action} {p : Program Result}
  {xs : List Exchange} {o : Except Failure Result}

/-- The code that an operation of the registry is to write, if it is to write one. -/
def Action.code? : Action → Option String
  | .add _ _ code | .provision _ code => some code
  | _ => none

/-- **Every operation of the registry that has a code for its write is closed.** -/
theorem Action.Goes.closed (h : action.Goes requestId xs o) (hcode : action.code? ≠ some "") :
    Closed xs o := by
  cases h with
  | codelessAdd | codelessProvision => exact absurd rfl hcode
  | add hway => exact (Registry.claiming_closed hway).map
  | provision hway =>
    refine (single_closed hway fun reply _ => ?_).map
    unfold Registry.provisioned
    split
    · exact .inr ⟨_, rfl⟩
    · exact .inl ⟨_, rfl⟩
  | getCode hway =>
    refine (single_closed hway fun reply hlegible => ?_).map
    unfold Registry.codeOf
    split
    · exact .inr ⟨_, rfl⟩
    · rename_i hreply
      obtain ⟨code, hfield⟩ := Option.ne_none_iff_exists'.1
        (Registry.field?_of_legible hlegible hreply .code)
      rw [hfield]
      exact .inl ⟨code, rfl⟩
  | lookupCode hway => exact (single_closed hway fun _ _ => .inl ⟨_, rfl⟩).map
  | verify hway =>
    refine (single_closed hway fun affected _ => ?_).map
    unfold Registry.marked
    split
    · exact .inr ⟨_, rfl⟩
    · exact .inl ⟨_, rfl⟩
  | lookupAccount hway => exact (single_closed hway fun _ _ => .inl ⟨_, rfl⟩).map
  | remove hway => exact (single_closed hway fun _ _ => .inl ⟨_, rfl⟩).map

/-! ### Over a database -/

variable {σ τ : Type} {server : Server σ} {calls : List (Call × Store.Database.State σ)}

def exchanges (server : Server σ) (calls : List (Call × Store.Database.State σ)) : List Exchange :=
  calls.map fun x => (x.1, (perform server x.1 x.2).1)

/-- How an operation ends, going by its calls with the states of the database that they meet. -/
structure ErrorSurface (server : Server σ) (calls : List (Call × Store.Database.State σ))
    (o : Except Failure Result) : Prop where
  closed : (∃ result, o = .ok result) ∨ (∃ e, o = .error (.registry e)) ∨
    o = .error (.store .boundlessTimeout)
  boundless : o = .error (.store .boundlessTimeout) ↔ ∃ x ∈ calls, x.2.Boundless server
  /-- What the database raises becomes the cause of an internal error. -/
  raised : ∀ x ∈ calls, x.2.raised? server x.1 ≠ none → ∃ fault e,
    (perform server x.1 x.2).1 = .error fault ∧ fault.isStorage = true ∧
      o = .error (.registry e) ∧ e.kind = .internal ∧ e.cause = some fault

section Calls
variable (hclosed : Closed (exchanges server calls) o)
  (horderly : ∀ x ∈ calls, Orderly server x.1 x.2)
include hclosed horderly

/-- A call that fails decides how the operation ends. -/
theorem ends_of_failed {c : Call} {s : Store.Database.State σ} (hcall : (c, s) ∈ calls)
    {fault : Fault} (hfault : (perform server c s).1 = .error fault) :
    (fault.isStorage = true ∧ ∃ e, o = .error (.registry e) ∧ e.kind = .internal ∧
      e.cause = some fault) ∨
    (s.Boundless server ∧ s.raised? server c = none ∧ o = .error (.store .boundlessTimeout)) := by
  have hmem : (c, .error fault) ∈ exchanges server calls :=
    List.mem_map.2 ⟨(c, s), hcall, by rw [hfault]⟩
  obtain ⟨details, rfl⟩ := hclosed.faulty c fault hmem
  have hsurface := perform_surface (horderly _ hcall)
  rw [hfault] at hsurface
  cases hsurface with
  | failed _ hstorage => exact .inl ⟨hstorage, _, congrArg _ (if_pos hstorage), rfl, rfl⟩
  | boundless hboundless hquiet => exact .inr ⟨hboundless, hquiet, rfl⟩

/-- If none does, the registry decides. -/
theorem ends_of_answered
    (hnone : ¬ ∃ x ∈ calls, ∃ fault, (perform server x.1 x.2).1 = .error fault) :
    (∃ result, o = .ok result) ∨ ∃ e, o = .error (.registry e) := by
  refine hclosed.sound fun x hx => ?_
  obtain ⟨y, hcall, rfl⟩ := List.mem_map.1 hx
  have hsurface := perform_surface (horderly y hcall)
  generalize hanswer : (perform server y.1 y.2).1 = answer at hsurface
  cases hsurface with
  | @answered reply _ _ hlegible => exact ⟨reply, rfl, hlegible⟩
  | failed | boundless => exact absurd ⟨y, hcall, _, hanswer⟩ hnone

/-- **The errors of a closed operation over a database in order.** -/
theorem errorSurface_of_closed : ErrorSurface server calls o := by
  refine ⟨?_, ⟨fun ho => ?_, ?_⟩, ?_⟩
  · by_cases hfails : ∃ x ∈ calls, ∃ fault, (perform server x.1 x.2).1 = .error fault
    · obtain ⟨⟨c, s⟩, hcall, fault, hfault⟩ := hfails
      rcases ends_of_failed hclosed horderly hcall hfault with ⟨-, e, he, -⟩ | ⟨-, -, ho⟩
      · exact .inr (.inl ⟨e, he⟩)
      · exact .inr (.inr ho)
    · exact (ends_of_answered hclosed horderly hfails).imp_right .inl
  · by_cases hfails : ∃ x ∈ calls, ∃ fault, (perform server x.1 x.2).1 = .error fault
    · obtain ⟨⟨c, s⟩, hcall, fault, hfault⟩ := hfails
      rcases ends_of_failed hclosed horderly hcall hfault with ⟨-, e, he, -⟩ | ⟨hboundless, -⟩
      · rw [ho] at he
        cases he
      · exact ⟨_, hcall, hboundless⟩
    · rcases ends_of_answered hclosed horderly hfails with ⟨result, h⟩ | ⟨e, h⟩ <;>
        (rw [ho] at h; cases h)
  · rintro ⟨⟨c, s⟩, hcall, hboundless⟩
    have hsurface := perform_surface (horderly _ hcall)
    generalize hanswer : (perform server c s).1 = answer at hsurface
    cases hsurface with
    | answered hbounded | failed hbounded => exact absurd hboundless hbounded
    | boundless =>
      rcases ends_of_failed hclosed horderly hcall hanswer with ⟨hstorage, -⟩ | ⟨-, -, ho⟩
      · cases hstorage
      · exact ho
  · rintro ⟨c, s⟩ hcall hraised
    have hsurface := perform_surface (horderly _ hcall)
    generalize hanswer : (perform server c s).1 = answer at hsurface
    cases hsurface with
    | answered _ hquiet | boundless _ hquiet => exact absurd hquiet hraised
    | @failed fault =>
      rcases ends_of_failed hclosed horderly hcall hanswer with ⟨hstorage, e, he⟩ | ⟨-, hquiet, -⟩
      · exact ⟨fault, e, rfl, hstorage, he⟩
      · exact absurd hquiet hraised

end Calls

variable {view : τ → Store.Database.State σ} {handle : Program.Handler τ} {t : τ}

/-- The calls of an operation with the states of the database that they meet. -/
def databaseCalls (view : τ → Store.Database.State σ) (handle : Program.Handler τ)
    (p : Program Result) (t : τ) : List (Call × Store.Database.State σ) :=
  (p.calls handle t).map fun x => (x.1, view x.2)

/-- **Over a database in order, the errors of the registry's operations are closed**, whatever the
context and whatever happens between the calls: an operation ends well or in an error of the
registry, which is internal and names its cause if the database raised anything; except that it
fails for a time left without bound exactly if one of its calls meets that. -/
theorem error_surface_closed
    (hserves : ∀ c t, (handle (.store c) t).1 = (perform server c (view t)).1)
    (ha : action.operation? = some operation) (hp : action.program? requestId codeLength = some p)
    (hcode : action.code? ≠ some "")
    (horderly : ∀ x ∈ databaseCalls view handle p t, Orderly server x.1 x.2) :
    ErrorSurface server (databaseCalls view handle p t) (p.run handle t).1 := by
  have hexchanges : exchanges server (databaseCalls view handle p t) = p.dialogue handle t := by
    simp only [exchanges, databaseCalls, Program.dialogue, List.map_map, Function.comp_def, hserves]
  refine errorSurface_of_closed ?_ horderly
  rw [hexchanges]
  exact (Action.ends_goes ha hp (Program.ends_run handle p t)).closed hcode

/-- A request whose time has no bound. -/
def endless : Desk :=
  ⟨⟨⟨⟨.none, .none, [], .none⟩, []⟩, 0, .new "k" (some (1 / 0)), 0, []⟩, .standard, []⟩

/-- A request without a deadline whose first statement breaks down. -/
def broken : Desk :=
  ⟨⟨⟨⟨.none, .none, [⟨⟨none, false, some (.database "OperationalError" "gone")⟩, ⟨[], 0⟩⟩], .none⟩, []⟩,
    0, .new "k" none, 0, []⟩, .standard, []⟩

theorem endless_calls :
    databaseCalls Desk.database deskHandler (.reply <$> Registry.lookupCode "k" "a@x.com" "1") endless =
      [(.accountByCode "a@x.com" "1", endless.database)] := by
  -- that there is no second call depends on the clock, which only evaluation knows
  obtain ⟨rest, hrest⟩ : ∃ rest, databaseCalls Desk.database deskHandler
      (.reply <$> Registry.lookupCode "k" "a@x.com" "1") endless =
        (.accountByCode "a@x.com" "1", endless.database) :: rest := ⟨_, rfl⟩
  have hlength : (databaseCalls Desk.database deskHandler
      (.reply <$> Registry.lookupCode "k" "a@x.com" "1") endless).length = 1 := by decide +kernel
  rw [hrest] at hlength ⊢
  rw [List.eq_nil_of_length_eq_zero (Nat.succ.inj hlength)]

theorem endless_boundless : endless.database.Boundless Player.server :=
  ⟨by decide +kernel, rfl, _, rfl, by decide +kernel⟩

theorem endless_orderly :
    Orderly Player.server (.accountByCode "a@x.com" "1") endless.database := by
  have hquiet : endless.database.raised? Player.server (.accountByCode "a@x.com" "1") = none := by
    decide +kernel
  have hnone : endless.database.answered Player.server
      (Call.accountByCode "a@x.com" "1").session = [] :=
    List.isEmpty_iff.1 (by decide +kernel)
  refine ⟨fun t ht => ?_, fun x hx => ?_⟩
  · rw [hquiet] at ht
    cases ht
  · rw [hnone] at hx
    cases hx

theorem broken_orderly : Orderly Player.server (.getEmail "a@x.com") broken.database :=
  ⟨fun t ht => by cases ht; rfl, fun x hx => nomatch hx⟩

/-- A look-up fails for the time that it has left, and a claim for what the database raises. -/
theorem error_surface_closed_endless :
    (Program.run deskHandler (Result.reply <$> Registry.lookupCode "k" "a@x.com" "1") endless).1 =
        .error (.store .boundlessTimeout) ∧
      ∃ e, (Program.run deskHandler (Result.reply <$> Registry.add "k" ⟨1⟩ "a@x.com" "1") broken).1 =
          .error (.registry e) ∧
        e.kind = .internal ∧ e.cause = some (.unavailable "OperationalError: gone") := by
  have hserves : ∀ c (d : Desk),
      (deskHandler (.store c) d).1 = (perform Player.server c d.database).1 := fun _ _ => rfl
  constructor
  · have hp : (Action.lookupCode "a@x.com" "1").program? "k" 6 = some _ := rfl
    have h := error_surface_closed hserves (t := endless) rfl hp (by simp [Action.code?]) (by
      rw [endless_calls]
      exact List.forall_mem_singleton.2 endless_orderly)
    rw [endless_calls] at h
    exact h.boundless.2 ⟨_, List.mem_singleton.2 rfl, endless_boundless⟩
  · have hp : (Action.add ⟨1⟩ "a@x.com" "1").program? "k" 6 = some _ := rfl
    have h := error_surface_closed hserves (t := broken) rfl hp (by simp [Action.code?])
      (List.forall_mem_singleton.2 broken_orderly)
    obtain ⟨fault, e, hfault, -, he, hkind, hcause⟩ := h.raised _ (List.mem_singleton.2 rfl) nofun
    cases hfault
    exact ⟨e, he, hkind, hcause⟩

end Rehearsal
end EmailOwnership
