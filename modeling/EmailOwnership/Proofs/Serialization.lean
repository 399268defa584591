import EmailOwnership.Proofs.Crowd.Settled
import EmailOwnership.Proofs.Registry.Atomic
import Mathlib.Data.List.Dedup

/-! Interleaved registry operations, one after the other.

However the store calls of registry operations interleave, the store ends as if only those
operations had run that returned normally, each whole, in the order of their last store
calls, and each returned what it returns then; the others changed nothing
(`registry_serializable`).

The replay is built along the run (`Replayed`): a store call that lets an operation succeed
is where the operation joins the replay, and because operations are atomic its whole run
from the store at that point does the same. -/
namespace EmailOwnership.Rehearsal
open Program (Atomic)

namespace Crowd
variable {α : Type}

/-! ### The order of the last store calls -/

/-- The request whose store call a turn is. -/
def caller? (c : Crowd α) : Turn → Option Nat
  | .proceed place => (c.call? (.proceed place)).map fun _ => place
  | _ => none

/-- Whether the request at a place has returned normally. -/
def returned (c : Crowd α) (place : Nat) : Bool :=
  match c.outcome? place with
  | some (.ok _) => true
  | _ => false

/-- The requests that returned normally, in the order of their last store calls: of several calls
of one request `dedup` keeps the last. -/
def commits (c : Crowd α) (turns : List Turn) : List Nat :=
  (c.collect caller? turns).dedup.filter (c.run turns).returned

/-! ### One after the other -/

/-- The request at a place, run whole, with how it ends. -/
def runAlone (c : Crowd α) (contexts : Nat → Context String) (place : Nat) (w : World) :
    Option (Except Failure α) × World :=
  match c.participants[place]? with
  | none => (none, w)
  | some p =>
    let (outcome, w) := p.program.run (plainHandler p.sender (contexts place)) w
    (some outcome, w)

/-- The requests at these places, each run whole when the one before has ended. -/
def runSerially (c : Crowd α) (contexts : Nat → Context String) :
    List Nat → World → List (Option (Except Failure α)) × World
  | [], w => ([], w)
  | place :: rest, w =>
    let (outcome, w) := c.runAlone contexts place w
    let (outcomes, w) := c.runSerially contexts rest w
    (outcome :: outcomes, w)

variable {c : Crowd α} {contexts : Nat → Context String}

theorem runSerially_append (a b : List Nat) (w : World) :
    c.runSerially contexts (a ++ b) w =
      ((c.runSerially contexts a w).1 ++
          (c.runSerially contexts b (c.runSerially contexts a w).2).1,
        (c.runSerially contexts b (c.runSerially contexts a w).2).2) := by
  induction a generalizing w with
  | nil => rfl
  | cons place rest ih =>
    simp only [List.cons_append, runSerially, ih]

theorem runAlone_clock (k : Nat) (w : World) :
    (c.runAlone contexts k w).2.clock = w.clock := by
  unfold runAlone
  split
  · rfl
  · exact Program.run_clock ..

theorem runSerially_clock (order : List Nat) (w : World) :
    (c.runSerially contexts order w).2.clock = w.clock := by
  induction order generalizing w with
  | nil => rfl
  | cons place rest ih => exact (ih _).trans (runAlone_clock place w)

theorem caller?_eq_none {t : Turn} (h : c.call? t = none) : c.caller? t = none := by
  cases t with
  | proceed k => simp only [caller?, h, Option.map_none]
  | _ => rfl

theorem caller?_store {k : Nat} {call : Store.Call}
    {next : (Effect.store call).Reply → Program α}
    (h : c.program? k = some (.ask (.store call) next)) : c.caller? (.proceed k) = some k := by
  simp only [caller?, call?_proceed h, Option.map_some]

/-! ### Who has succeeded so far -/

/-- Whether the outcome of the request at a place is fixed, and a normal one. -/
def succeeds (c : Crowd α) (place : Nat) : Bool :=
  match c.settled? place with
  | some (.ok _) => true
  | _ => false

theorem succeeds_iff (c : Crowd α) (k : Nat) :
    c.succeeds k = true ↔ ∃ a, c.settled? k = some (.ok a) := by
  unfold succeeds
  rcases c.settled? k with _ | _ | _ <;> simp

theorem succeeds_eq_false_iff (c : Crowd α) (k : Nat) :
    c.succeeds k = false ↔ ∀ a, c.settled? k ≠ some (.ok a) := by
  rw [← Bool.not_eq_true, succeeds_iff]
  exact not_exists

theorem succeeds_congr {c' : Crowd α} {k : Nat} (h : c'.settled? k = c.settled? k) :
    c'.succeeds k = c.succeeds k := by
  rw [succeeds, succeeds, h]

theorem returned_of_isDone (h : c.isDone = true) (k : Nat) : c.returned k = c.succeeds k := by
  rw [returned, succeeds, outcome?_of_isDone h]

end Crowd

/-- A further call by `k` moves it to the end of the order, and it counts if it succeeds by it. -/
theorem filter_dedup_concat {k : Nat} {q q' : Nat → Bool} (hk : q k = false)
    (hother : ∀ j, j ≠ k → q' j = q j) (calls : List Nat) :
    (calls ++ [k]).dedup.filter q' = calls.dedup.filter q ++ if q' k then [k] else [] := by
  induction calls with
  | nil => cases hq : q' k <;> simp [hq]
  | cons j rest ih =>
    rw [List.cons_append]
    by_cases hj : j ∈ rest
    · rw [List.dedup_cons_of_mem hj, List.dedup_cons_of_mem (List.mem_append_left _ hj), ih]
    · rw [List.dedup_cons_of_notMem hj]
      by_cases hjk : j = k
      · subst hjk
        rw [List.dedup_cons_of_mem (by simp), ih, List.filter_cons_of_neg (by simp [hk])]
      · have hlate : j ∉ rest ++ [k] := by simp [hj, hjk]
        rw [List.dedup_cons_of_notMem hlate, List.filter_cons, List.filter_cons, ih, hother j hjk]
        cases q j <;> rfl

/-! ### The replay along a run -/

/-- Running those that have succeeded so far, in the order of their last calls, gives this store
and their outcomes. -/
structure Replayed {α : Type} (start : Crowd α) (contexts : Nat → Context String) (w : World)
    (calls : List Nat) (c : Crowd α) : Prop where
  atomic : ∀ k p, c.program? k = some p →
    ∃ q, start.participants[k]? = some q ∧ Atomic q.program p
  called : ∀ k, c.succeeds k = true → k ∈ calls
  memory : (start.runSerially contexts (calls.dedup.filter c.succeeds) w).2.memory = c.world.memory
  outcomes : (start.runSerially contexts (calls.dedup.filter c.succeeds) w).1 =
    (calls.dedup.filter c.succeeds).map c.settled?

namespace Replayed
variable {α : Type} {start c : Crowd α} {contexts : Nat → Context String} {w : World}
  {calls : List Nat}

/-- After a turn every request is atomic still. -/
theorem atomic_take (h : Replayed start contexts w calls c) (t : Turn) :
    ∀ k p, (c.take t).program? k = some p →
      ∃ q, start.participants[k]? = some q ∧ Atomic q.program p := by
  refine Crowd.forall_take (fun k effect next reply hk => ?_) h.atomic t
  obtain ⟨q, hq, hatomic⟩ := hk
  exact ⟨q, hq, hatomic.next reply⟩

/-- A turn by which nobody succeeds and the store stays as it is. -/
theorem idle (h : Replayed start contexts w calls c) {t : Turn}
    (hcaller : ∀ k, c.caller? t = some k → c.succeeds k = false)
    (hsame : ∀ j, (c.take t).succeeds j = c.succeeds j)
    (hm : (c.take t).world.memory = c.world.memory) :
    Replayed start contexts w (calls ++ (c.caller? t).toList) (c.take t) := by
  have horder : (calls ++ (c.caller? t).toList).dedup.filter (c.take t).succeeds =
      calls.dedup.filter c.succeeds := by
    cases hk : c.caller? t with
    | none => rw [Option.toList_none, List.append_nil, funext hsame]
    | some k =>
      rw [Option.toList_some, filter_dedup_concat (hcaller k hk) fun j _ => hsame j, hsame,
        hcaller k hk, if_neg Bool.false_ne_true, List.append_nil]
  refine ⟨h.atomic_take t, fun k hk => ?_, ?_, ?_⟩
  · rw [hsame] at hk
    exact List.mem_append_left _ (h.called k hk)
  · rw [horder, hm]
    exact h.memory
  · rw [horder, h.outcomes]
    refine List.map_congr_left fun j hj => ?_
    obtain ⟨a, ha⟩ := (c.succeeds_iff j).1 (List.mem_filter.1 hj).2
    rw [ha, Crowd.settled?_take ha]

/-- The turn by which the request at `k` succeeds: it joins the replay as the last one. -/
theorem join (h : Replayed start contexts w calls c)
    (hlive : ∀ k, (contexts k).isDone w.clock = false) {k : Nat} {q : Participant α} {a : α}
    (hq : start.participants[k]? = some q) (hcaller : c.caller? (.proceed k) = some k)
    (hbefore : c.succeeds k = false) (ha : (c.take (.proceed k)).settled? k = some (.ok a))
    (hother : ∀ j, j ≠ k → (c.take (.proceed k)).program? j = c.program? j)
    (hyields : q.program.Yields c.world.memory a (c.take (.proceed k)).world.memory) :
    Replayed start contexts w (calls ++ (c.caller? (.proceed k)).toList) (c.take (.proceed k)) := by
  have hnow : (c.take (.proceed k)).succeeds k = true := (Crowd.succeeds_iff _ k).2 ⟨a, ha⟩
  have horder : (calls ++ (c.caller? (.proceed k)).toList).dedup.filter
      (c.take (.proceed k)).succeeds = calls.dedup.filter c.succeeds ++ [k] := by
    rw [hcaller, Option.toList_some, filter_dedup_concat hbefore fun j hj =>
      Crowd.succeeds_congr (Crowd.settled?_congr (hother j hj)), hnow, if_pos rfl]
  -- the replay so far leaves the store of now, under a clock that has not moved
  have hrun := hyields q.sender (contexts k)
    (start.runSerially contexts (calls.dedup.filter c.succeeds) w).2
    (by rw [Crowd.runSerially_clock]; exact hlive k) h.memory
  refine ⟨h.atomic_take _, fun j hj => ?_, ?_, ?_⟩
  · by_cases hjk : j = k
    · rw [hcaller, hjk]
      simp
    · rw [Crowd.succeeds_congr (Crowd.settled?_congr (hother j hjk))] at hj
      exact List.mem_append_left _ (h.called j hj)
  · rw [horder, Crowd.runSerially_append]
    simp only [Crowd.runSerially, Crowd.runAlone, hq]
    exact hrun.2
  · rw [horder, Crowd.runSerially_append, List.map_append]
    simp only [Crowd.runSerially, Crowd.runAlone, hq, List.map_cons, List.map_nil]
    rw [hrun.1, ha, h.outcomes]
    refine congrArg (· ++ _) (List.map_congr_left fun j hj => ?_)
    have hjk : j ≠ k := by
      rintro rfl
      rw [(List.mem_filter.1 hj).2] at hbefore
      cases hbefore
    exact (Crowd.settled?_congr (hother j hjk)).symm

/-- **One turn carries the replay on.** -/
theorem take (h : Replayed start contexts w calls c)
    (hlive : ∀ k, (contexts k).isDone w.clock = false) (t : Turn) :
    Replayed start contexts w (calls ++ (c.caller? t).toList) (c.take t) := by
  have hunsettled : ∀ {k : Nat} {call : Store.Call} {next : (Effect.store call).Reply → Program α},
      c.program? k = some (.ask (.store call) next) → c.succeeds k = false := by
    intro k call next hp
    rw [Crowd.succeeds_eq_false_iff, Crowd.settled?_eq hp]
    exact fun a ha => by cases ha
  -- a call that does not let its request succeed
  have hlost : ∀ {k : Nat} {call : Store.Call} {next : (Effect.store call).Reply → Program α}
      {reply : (Effect.store call).Reply}, c.program? k = some (.ask (.store call) next) →
      (c.take (.proceed k)).program? k = some (next reply) →
      (∀ j, j ≠ k → (c.take (.proceed k)).program? j = c.program? j) →
      (∀ a, (next reply).settled? ≠ some (.ok a)) →
      (c.take (.proceed k)).world.memory = c.world.memory →
      Replayed start contexts w (calls ++ (c.caller? (.proceed k)).toList)
        (c.take (.proceed k)) := by
    intro k call next reply hp hk hother hreply hm
    refine h.idle (fun j hj => ?_) (fun j => ?_) hm
    · rw [Crowd.caller?_store hp] at hj
      cases hj
      exact hunsettled hp
    · by_cases hj : j = k
      · rw [hj, hunsettled hp, Crowd.succeeds_eq_false_iff, Crowd.settled?_eq hk]
        exact hreply
      · exact Crowd.succeeds_congr (Crowd.settled?_congr (hother j hj))
  cases c.take_advance t with
  | quiet hcall hm hsame =>
    refine h.idle (fun k hk => ?_) (fun j => ?_) hm
    · rw [Crowd.caller?_eq_none hcall] at hk
      cases hk
    · exact Crowd.succeeds_congr (Crowd.settled?_congr (hsame j))
  | @aside k effect next reply hp he hm hk hother =>
    refine h.idle (fun j hj => ?_) (fun j => ?_) hm
    · have hnone : c.call? (.proceed k) = none := by
        rw [Crowd.call?_proceed hp]
        cases effect with
        | store call => exact absurd rfl (he call)
        | _ => rfl
      rw [Crowd.caller?_eq_none hnone] at hj
      cases hj
    · by_cases hj : j = k
      · obtain ⟨q, _, hatomic⟩ := h.atomic k _ hp
        refine Crowd.succeeds_congr ?_
        rw [hj, Crowd.settled?_eq hp, Crowd.settled?_eq hk]
        cases hatomic with
        | log _ => rfl
        | @store call => exact absurd rfl (he call)
      · exact Crowd.succeeds_congr (Crowd.settled?_congr (hother j hj))
  | refused _ hp hm hk hother =>
    obtain ⟨q, _, hatomic⟩ := h.atomic _ _ hp
    cases hatomic with
    | store _ hrefused _ => exact hlost hp hk hother (hrefused _) hm
  | @performed k call next _ hp hm hk hother =>
    obtain ⟨q, hq, hatomic⟩ := h.atomic _ _ hp
    cases hatomic with
    | store hstep _ _ =>
      rcases hstep c.world.memory with ⟨a, ha, hyields⟩ | ⟨hkept, ha⟩
      · refine h.join hlive hq (Crowd.caller?_store hp) (hunsettled hp) (a := a) ?_ hother ?_
        · rw [Crowd.settled?_eq hk, ha]
        · rw [hm]
          exact hyields
      · exact hlost hp hk hother ha (hm.trans hkept)

theorem run (h : Replayed start contexts w calls c)
    (hlive : ∀ k, (contexts k).isDone w.clock = false) (turns : List Turn) :
    Replayed start contexts w (calls ++ c.collect Crowd.caller? turns) (c.run turns) := by
  induction turns generalizing c calls with
  | nil =>
    rw [Crowd.collect, List.append_nil]
    exact h
  | cons t rest ih =>
    have htake := ih (h.take hlive t)
    rwa [List.append_assoc] at htake

/-- A turn of a request that did not succeed in the end left the store alone. -/
theorem memory_of_failed (h : Replayed start contexts w calls c) {k : Nat}
    (hfailed : (c.take (.proceed k)).succeeds k = false) :
    (c.take (.proceed k)).world.memory = c.world.memory := by
  cases c.take_advance (.proceed k) with
  | quiet _ hm _ => exact hm
  | aside _ _ hm _ _ => exact hm
  | refused _ _ hm _ _ => exact hm
  | performed _ hp hm hk _ =>
    obtain ⟨q, _, hatomic⟩ := h.atomic _ _ hp
    cases hatomic with
    | store hstep _ _ =>
      rcases hstep c.world.memory with ⟨a, ha, _⟩ | ⟨hkept, _⟩
      · rw [Crowd.succeeds_eq_false_iff, Crowd.settled?_eq hk] at hfailed
        exact absurd ha (hfailed a)
      · exact hm.trans hkept

end Replayed

/-! ### Registry operations -/

theorem begin_atomic (codeLength : Nat) {r : Request} (hr : r.action.isRegistry = true) :
    Atomic (r.begin codeLength).program (r.begin codeLength).program ∧
      ∀ a, (r.begin codeLength).program.settled? ≠ some (.ok a) := by
  obtain ⟨program, h⟩ := Option.isSome_iff_exists.1
    (Action.program?_isSome hr r.context.requestId codeLength)
  have hbegin : (r.begin codeLength).program = program := by
    show (r.action.program? r.context.requestId codeLength).getD _ = _
    rw [h, Option.getD_some]
  rw [hbegin]
  exact Action.program_atomic hr h

theorem replayed_start (codeLength : Nat) {requests : List Request}
    (hreg : ∀ r ∈ requests, r.action.isRegistry = true) (contexts : Nat → Context String)
    (w : World) :
    Replayed (Crowd.start codeLength requests w) contexts w [] (Crowd.start codeLength requests w) := by
  have hbegin : ∀ k p, (Crowd.start codeLength requests w).program? k = some p →
      ∃ r ∈ requests, (Crowd.start codeLength requests w).participants[k]? =
        some (r.begin codeLength) ∧ p = (r.begin codeLength).program := by
    intro k p hp
    simp only [Crowd.program?, Option.map_eq_some_iff] at hp
    obtain ⟨q, hq, rfl⟩ := hp
    have hr := hq
    simp only [Crowd.start, List.getElem?_map, Option.map_eq_some_iff] at hr
    obtain ⟨r, hr, rfl⟩ := hr
    exact ⟨r, List.mem_of_getElem? hr, hq, rfl⟩
  refine ⟨fun k p hp => ?_, fun k hk => ?_, rfl, rfl⟩
  · obtain ⟨r, hr, hq, rfl⟩ := hbegin k p hp
    exact ⟨_, hq, (begin_atomic codeLength (hreg r hr)).1⟩
  · obtain ⟨a, ha⟩ := (Crowd.succeeds_iff _ k).1 hk
    obtain ⟨p, hp, ha⟩ := Option.bind_eq_some_iff.1 ha
    obtain ⟨r, hr, -, rfl⟩ := hbegin k p hp
    exact absurd ha ((begin_atomic codeLength (hreg r hr)).2 a)

/-- **Interleaved registry operations are serializable.** When all have ended, those that returned
normally, run one after the other in the order of their last store calls, leave the same store and
return the same; no turn of one that failed changed the store. -/
theorem registry_serializable (codeLength : Nat) (requests : List Request)
    (hreg : ∀ r ∈ requests, r.action.isRegistry = true) (w : World) (turns : List Turn)
    (hdone : ((Crowd.start codeLength requests w).run turns).isDone = true)
    (contexts : Nat → Context String) (hlive : ∀ k, (contexts k).isDone w.clock = false) :
    let start := Crowd.start codeLength requests w
    let final := start.run turns
    let order := start.commits turns
    (start.runSerially contexts order w).2.memory = final.world.memory ∧
    (start.runSerially contexts order w).1 = order.map final.outcome? ∧
    order.Nodup ∧ (∀ k, k ∈ order ↔ ∃ a, final.outcome? k = some (.ok a)) ∧
    ∀ k e, final.outcome? k = some (.error e) →
      ∀ before after, turns = before ++ .proceed k :: after →
        ((start.run before).take (.proceed k)).world.memory = (start.run before).world.memory := by
  intro start final order
  have hstart := replayed_start codeLength hreg contexts w
  have hfinal : Replayed start contexts w (start.collect Crowd.caller? turns) final :=
    hstart.run hlive turns
  have hreturned : final.returned = final.succeeds := funext (Crowd.returned_of_isDone hdone)
  have horder : order = (start.collect Crowd.caller? turns).dedup.filter final.succeeds := by
    rw [← hreturned]
    rfl
  have houtcome : final.outcome? = final.settled? := funext (Crowd.outcome?_of_isDone hdone)
  rw [houtcome, horder]
  refine ⟨hfinal.memory, hfinal.outcomes, (List.nodup_dedup _).filter _, fun k => ?_, ?_⟩
  · rw [List.mem_filter, List.mem_dedup, Crowd.succeeds_iff]
    exact ⟨And.right, fun h => ⟨hfinal.called k ((Crowd.succeeds_iff _ k).2 h), h⟩⟩
  · intro k e he before after hturns
    refine (hstart.run hlive before).memory_of_failed ?_
    rw [Crowd.succeeds_eq_false_iff]
    intro a ha
    have hlast : final = ((start.run before).take (.proceed k)).run after := by
      show start.run turns = _
      rw [hturns, Crowd.run_append]
      rfl
    rw [hlast, Crowd.settled?_run ha after] at he
    cases he

/-- Two accounts that claim one address. -/
def rivals : List Request :=
  [⟨.new "r" none, .add ⟨1⟩ "a@x.com" "111111"⟩, ⟨.new "s" none, .add ⟨2⟩ "a@x.com" "222222"⟩]

/-- Both find the address unknown, the second writes first, and the first is refused. -/
def rivalTurns : List Turn :=
  [.proceed 0, .proceed 1, .proceed 1, .proceed 0, .proceed 0, .proceed 1]

/-- The replay of a lost race is the winner alone. -/
theorem registry_serializable_rivals :
    (Crowd.start 6 rivals ⟨.empty, 0, .standard, []⟩).commits rivalTurns = [1] ∧
    ((Crowd.start 6 rivals ⟨.empty, 0, .standard, []⟩).runSerially (fun _ => .new "t" none) [1]
        ⟨.empty, 0, .standard, []⟩).2.memory =
      ((Crowd.start 6 rivals ⟨.empty, 0, .standard, []⟩).run rivalTurns).world.memory := by
  have horder : (Crowd.start 6 rivals ⟨.empty, 0, .standard, []⟩).commits rivalTurns = [1] := rfl
  have hreg : ∀ r ∈ rivals, r.action.isRegistry = true := by simp [rivals, Action.isRegistry]
  have h := registry_serializable 6 rivals hreg ⟨.empty, 0, .standard, []⟩ rivalTurns rfl
    (fun _ => .new "t" none) (fun _ => rfl)
  refine ⟨horder, ?_⟩
  rw [← horder]
  exact h.1

end EmailOwnership.Rehearsal
