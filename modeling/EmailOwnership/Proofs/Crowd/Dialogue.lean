import EmailOwnership.Proofs.Crowd.Settled
import EmailOwnership.Proofs.Program.Dialogue

/-! The dialogue of one request of a crowd with the store.

Whatever the others do in between, a request meets the store in its own turns only, and what
it is answered there leads it on (`run_leads`). So the request ends one of the ways of its
program, along its own dialogue (`ends_of_outcome`). In the other direction each exchange of
the dialogue is a turn of the run, and says what that turn made of the store
(`exchange?_cases`). -/
namespace EmailOwnership.Rehearsal.Crowd
open Program (Exchange Leads Ends)
open Store (Call)
variable {α : Type} {c : Crowd α} {k : Nat}

/-- The exchange of the request at `k` with the store in a turn, if it has one. -/
def exchange? (k : Nat) (c : Crowd α) : Turn → Option Exchange
  | .proceed j =>
    if j = k then
      c.participants[k]?.bind fun p =>
        p.call?.map fun call => (call, (c.world.perform p.context call).1)
    else none
  | _ => none

/-- The exchanges of the request at `k` along a run. -/
def dialogue (c : Crowd α) (k : Nat) (turns : List Turn) : List Exchange :=
  c.collect (exchange? k) turns

/-! ### What is collected along a run -/

section Collect
variable {β : Type} {f : Crowd α → Turn → Option β}

theorem collect_append (a b : List Turn) :
    c.collect f (a ++ b) = c.collect f a ++ (c.run a).collect f b := by
  induction a generalizing c with
  | nil => rfl
  | cons t rest ih =>
    show (f c t).toList ++ (c.take t).collect f (rest ++ b) = _
    rw [ih, ← List.append_assoc]
    rfl

/-- An entry that is collected comes from a turn, and the entries around it from the turns around. -/
theorem collect_eq_append_cons {turns : List Turn} {xs zs : List β} {y : β}
    (h : c.collect f turns = xs ++ y :: zs) :
    ∃ before t after, turns = before ++ t :: after ∧ c.collect f before = xs ∧
      f (c.run before) t = some y ∧ ((c.run before).take t).collect f after = zs := by
  induction turns generalizing c xs with
  | nil =>
    have hempty : [] = xs ++ y :: zs := h
    simp at hempty
  | cons t rest ih =>
    replace h : (f c t).toList ++ (c.take t).collect f rest = xs ++ y :: zs := h
    -- the entry is that of the first turn, or comes later
    have later : ∀ xs', (c.take t).collect f rest = xs' ++ y :: zs → xs = (f c t).toList ++ xs' →
        ∃ before u after, t :: rest = before ++ u :: after ∧ c.collect f before = xs ∧
          f (c.run before) u = some y ∧ ((c.run before).take u).collect f after = zs := by
      intro xs' hrest hxs
      obtain ⟨before, u, after, rfl, hbefore, hu, hafter⟩ := ih hrest
      refine ⟨t :: before, u, after, rfl, ?_, hu, hafter⟩
      show (f c t).toList ++ (c.take t).collect f before = xs
      rw [hbefore, hxs]
    cases ht : f c t with
    | none =>
      rw [ht] at h later
      exact later xs h rfl
    | some x =>
      rw [ht] at h later
      cases xs with
      | nil =>
        obtain ⟨rfl, hrest⟩ := List.cons.inj h
        exact ⟨[], t, rest, rfl, rfl, ht, hrest⟩
      | cons x' xs' =>
        obtain ⟨rfl, hrest⟩ := List.cons.inj h
        exact later xs' hrest rfl

end Collect

/-! ### One turn -/

theorem exchange?_of_ne {t : Turn} (ht : t ≠ .proceed k) : c.exchange? k t = none := by
  cases t with
  | proceed j => exact if_neg fun h => ht (congrArg Turn.proceed h)
  | _ => rfl

theorem exchange?_proceed {p : Participant α} (hp : c.participants[k]? = some p) :
    c.exchange? k (.proceed k) =
      p.call?.map fun call => (call, (c.world.perform p.context call).1) := by
  simp only [exchange?, if_true, hp, Option.bind_some]

/-- A turn leads the request on by what it exchanges in it. -/
theorem take_leads {p : Program α} (hp : c.program? k = some p) (t : Turn) :
    ∃ q, (c.take t).program? k = some q ∧ Leads p (c.exchange? k t).toList q := by
  by_cases ht : t = .proceed k
  · subst ht
    obtain ⟨participant, hplace, rfl⟩ : ∃ participant, c.participants[k]? = some participant ∧
        participant.program = p := by simpa [program?] using hp
    rw [exchange?_proceed hplace, take_proceed hplace]
    refine ⟨_, (program?_set (w := c.world) hplace _ k).trans (if_pos rfl), ?_⟩
    unfold Participant.call? Participant.proceed
    cases hprogram : participant.program with
    | done outcome =>
      show Leads (.done outcome) [] participant.program
      rw [hprogram]
      exact .here
    | ask effect next =>
      cases effect with
      | store call => exact .call .here
      | _ => exact .aside (fun call hcall => by cases hcall) .here
  · rw [exchange?_of_ne ht, program?_of_ne ht]
    exact ⟨p, hp, .here⟩

/-- An exchange is a turn of the request: it makes the call, which the store answers by a step,
or the context is done and nothing happens. -/
theorem exchange?_cases {t : Turn} {x : Exchange} (h : c.exchange? k t = some x) :
    t = .proceed k ∧ c.call? t = some x.1 ∧
      (c.interrupted k = false ∧ x.2 = (Store.Memory.step x.1 c.world.memory).1 ∧
          (c.take t).world.memory = (Store.Memory.step x.1 c.world.memory).2 ∨
        c.interrupted k = true ∧ (∃ m, x.2 = .error (.interrupted m)) ∧
          (c.take t).world.memory = c.world.memory) := by
  by_cases ht : t = .proceed k
  · subst ht
    cases hplace : c.participants[k]? with
    | none => simp [exchange?, hplace] at h
    | some participant =>
      rw [exchange?_proceed hplace, Option.map_eq_some_iff] at h
      obtain ⟨call, hcall, rfl⟩ := h
      obtain ⟨next, hprogram⟩ : ∃ next, participant.program = .ask (.store call) next := by
        unfold Participant.call? at hcall
        split at hcall
        · rename_i call' next hprogram
          cases hcall
          exact ⟨next, hprogram⟩
        · cases hcall
      have hturn : (c.take (.proceed k)).world = (c.world.perform participant.context call).2 := by
        rw [take_proceed hplace]
        show (participant.proceed c.world).2 = _
        simp only [Participant.proceed, hprogram, plainHandler]
      refine ⟨rfl, by simp only [call?, hplace, Option.bind_some, hcall], ?_⟩
      rw [hturn]
      have hdone : c.interrupted k = participant.context.isDone c.world.clock := by
        simp [interrupted, hplace]
      rcases Store.Memory.perform_cases participant.context c.world.clock call c.world.memory with
        ⟨hctx, hp⟩ | ⟨hctx, m, hp⟩
      · exact .inl ⟨hdone.trans hctx, congrArg Prod.fst hp, congrArg Prod.snd hp⟩
      · exact .inr ⟨hdone.trans hctx, ⟨m, congrArg Prod.fst hp⟩, congrArg Prod.snd hp⟩
  · rw [exchange?_of_ne ht] at h
    cases h

/-- Under a live context a call is answered by the store. -/
theorem exchange?_of_live {call : Call} (hcall : c.call? (.proceed k) = some call)
    (hlive : c.interrupted k = false) :
    c.exchange? k (.proceed k) = some (call, (Store.Memory.step call c.world.memory).1) := by
  obtain ⟨participant, hplace, hnext⟩ : ∃ participant, c.participants[k]? = some participant ∧
      participant.call? = some call := by simpa [call?, Option.bind_eq_some_iff] using hcall
  have hx := exchange?_proceed hplace
  rw [hnext, Option.map_some] at hx
  obtain ⟨-, -, ⟨-, hanswer, -⟩ | ⟨hdone, -⟩⟩ := exchange?_cases hx
  · rw [hx, ← hanswer]
  · rw [hlive] at hdone
    cases hdone

/-- A turn in which a request exchanges nothing leaves the store alone. -/
theorem memory_of_silent (h : c.exchange? k (.proceed k) = none) :
    (c.take (.proceed k)).world.memory = c.world.memory := by
  have silent : ∀ {call next}, c.program? k ≠ some (.ask (.store call) next) := by
    intro call next hp
    obtain ⟨participant, hplace, hprogram⟩ : ∃ participant, c.participants[k]? = some participant ∧
        participant.program = .ask (.store call) next := by simpa [program?] using hp
    simp [exchange?_proceed hplace, Participant.call?, hprogram] at h
  rcases c.take_memory (.proceed k) with hkept | ⟨j, call, next, hturn, hp, -⟩
  · exact hkept
  · cases hturn
    exact absurd hp silent

/-! ### Whole runs -/

/-- **A request is led by its own dialogue**, whatever the others do. -/
theorem run_leads {p : Program α} (hp : c.program? k = some p) (turns : List Turn) :
    ∃ q, (c.run turns).program? k = some q ∧ Leads p (c.dialogue k turns) q := by
  induction turns generalizing c p with
  | nil => exact ⟨p, hp, .here⟩
  | cons t rest ih =>
    obtain ⟨q, hq, hfirst⟩ := take_leads hp t
    obtain ⟨r, hr, hrest⟩ := ih hq
    exact ⟨r, hr, hfirst.trans hrest⟩

theorem outcome?_eq_some_iff {outcome : Except Failure α} :
    c.outcome? k = some outcome ↔ c.program? k = some (.done outcome) := by
  simp only [outcome?, program?, Option.bind_eq_some_iff, Option.map_eq_some_iff]
  refine exists_congr fun participant => and_congr_right fun _ => ?_
  unfold Participant.outcome?
  cases participant.program <;> simp

/-- A request that has ended went one of the ways of its program. -/
theorem ends_of_outcome {p : Program α} (hp : c.program? k = some p) {turns : List Turn}
    {outcome : Except Failure α} (ho : (c.run turns).outcome? k = some outcome) :
    Ends p (c.dialogue k turns) outcome := by
  obtain ⟨q, hq, hway⟩ := run_leads hp turns
  rw [outcome?_eq_some_iff.1 ho] at hq
  cases hq
  exact hway

theorem program?_start {codeLength : Nat} {requests : List Request} {place : Nat} {r : Request}
    (h : requests[place]? = some r) (w : World) :
    (start codeLength requests w).program? place = some (r.begin codeLength).program := by
  simp only [program?, start, List.getElem?_map, h, Option.map_some]

theorem dialogue_of_exchange {before after : List Turn} {t : Turn} {x : Exchange}
    (hx : (c.run before).exchange? k t = some x) :
    c.dialogue k (before ++ t :: after) =
      c.dialogue k before ++ x :: ((c.run before).take t).dialogue k after := by
  rw [dialogue, collect_append]
  show c.dialogue k before ++ (((c.run before).exchange? k t).toList ++ _) = _
  rw [hx]
  rfl

end EmailOwnership.Rehearsal.Crowd
