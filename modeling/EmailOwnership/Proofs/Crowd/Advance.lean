import EmailOwnership.Proofs.Memory.Filing
import EmailOwnership.Rehearsal.Crowd

/-! What a turn of a crowd can do.

Seen from the store and from the programs that are left, a turn leaves everything alone,
lets one request take an effect that is no store call, or makes one store call, which the
store answers or the request's context refuses (`take_advance`). Proofs about interleavings
split into these four cases and do not look at contexts, clocks and logs. -/
namespace EmailOwnership.Rehearsal.Crowd
open Store (Call)
variable {α : Type}

/-- The record of an address, as the store holds it. -/
def record? (c : Crowd α) (address : String) : Option EmailRecord :=
  c.world.memory.emails.get? address

/-- Whether the context of the request at a place is done. -/
def interrupted (c : Crowd α) (place : Nat) : Bool :=
  c.participants[place]?.any fun p => p.context.isDone c.world.clock

/-- From `c` to `c'` by a turn, as the store and the programs see it. -/
inductive Advance (c c' : Crowd α) : Turn → Prop
  | quiet {t : Turn} : c.call? t = none → c'.world.memory = c.world.memory →
    (∀ j, c'.program? j = c.program? j) → Advance c c' t
  | aside {k : Nat} {effect : Effect} {next : effect.Reply → Program α} {reply : effect.Reply} :
    c.program? k = some (.ask effect next) → (∀ call, effect ≠ .store call) →
    c'.world.memory = c.world.memory → c'.program? k = some (next reply) →
    (∀ j, j ≠ k → c'.program? j = c.program? j) → Advance c c' (.proceed k)
  | refused {k : Nat} {call : Call} {next : (Effect.store call).Reply → Program α} {m : String} :
    c.interrupted k = true → c.program? k = some (.ask (.store call) next) →
    c'.world.memory = c.world.memory →
    c'.program? k = some (next (.error (.interrupted m))) →
    (∀ j, j ≠ k → c'.program? j = c.program? j) → Advance c c' (.proceed k)
  | performed {k : Nat} {call : Call} {next : (Effect.store call).Reply → Program α} :
    c.interrupted k = false → c.program? k = some (.ask (.store call) next) →
    c'.world.memory = (Store.Memory.step call c.world.memory).2 →
    c'.program? k = some (next (Store.Memory.step call c.world.memory).1) →
    (∀ j, j ≠ k → c'.program? j = c.program? j) → Advance c c' (.proceed k)

/-- A place keeps what is left there, or its request has taken one effect. -/
theorem Advance.place {c c' : Crowd α} {t : Turn} (h : Advance c c' t) (j : Nat) :
    c'.program? j = c.program? j ∨
      ∃ effect next reply, t = .proceed j ∧ c.program? j = some (.ask effect next) ∧
        c'.program? j = some (next reply) := by
  have moved : ∀ {k : Nat} {effect : Effect} {next : effect.Reply → Program α}
      {reply : effect.Reply}, c.program? k = some (.ask effect next) →
      c'.program? k = some (next reply) → (∀ i, i ≠ k → c'.program? i = c.program? i) →
      t = .proceed k → c'.program? j = c.program? j ∨
        ∃ effect next reply, t = .proceed j ∧ c.program? j = some (.ask effect next) ∧
          c'.program? j = some (next reply) := by
    intro k effect next reply hp hk hother ht
    by_cases hj : j = k
    · subst hj
      exact .inr ⟨effect, next, reply, ht, hp, hk⟩
    · exact .inl (hother j hj)
  cases h with
  | quiet _ _ hsame => exact .inl (hsame j)
  | aside hp _ _ hk hother => exact moved hp hk hother rfl
  | refused _ hp _ hk hother => exact moved hp hk hother rfl
  | performed _ hp _ hk hother => exact moved hp hk hother rfl

/-! ### Single turns -/

theorem take_proceed {c : Crowd α} {k : Nat} {p : Participant α} (h : c.participants[k]? = some p) :
    c.take (.proceed k) =
      ⟨(p.proceed c.world).2, c.participants.set k (p.proceed c.world).1⟩ := by
  simp only [take, h]

theorem take_proceed_none {c : Crowd α} {k : Nat} (h : c.participants[k]? = none) :
    c.take (.proceed k) = c := by
  simp only [take, h]

theorem program?_eq {c : Crowd α} {k : Nat} {p : Participant α} (h : c.participants[k]? = some p) :
    c.program? k = some p.program := by
  simp only [program?, h, Option.map_some]

/-- Another participant in place `k`, and nobody else moved. -/
theorem program?_set {w w' : World} {ps : List (Participant α)} {k : Nat} {p : Participant α}
    (h : ps[k]? = some p) (q : Participant α) (j : Nat) :
    program? ⟨w', ps.set k q⟩ j = if j = k then some q.program else program? ⟨w, ps⟩ j := by
  simp only [program?]
  by_cases hj : j = k
  · subst hj
    rw [List.getElem?_set_self (List.getElem?_eq_some_iff.1 h).1, if_pos rfl]
    rfl
  · rw [List.getElem?_set_ne fun e => hj e.symm, if_neg hj]

theorem program?_cancel (c : Crowd α) (j k : Nat) :
    (c.take (.cancel k)).program? j = c.program? j := by
  simp only [take, program?, List.getElem?_modify]
  split <;> cases c.participants[j]? <;> rfl

/-- **A turn is quiet, an effect aside, or one store call, refused or performed.** -/
theorem take_advance (c : Crowd α) (t : Turn) : Advance c (c.take t) t := by
  cases t with
  | cancel k => exact .quiet rfl rfl fun j => program?_cancel c j k
  | wait seconds => exact .quiet rfl rfl fun _ => rfl
  | proceed k =>
    cases hp : c.participants[k]? with
    | none =>
      rw [take_proceed_none hp]
      exact .quiet (by simp [call?, hp]) rfl fun _ => rfl
    | some p =>
      have hprogram := program?_eq hp
      have hset : ∀ j, (c.take (.proceed k)).program? j =
          if j = k then some (p.proceed c.world).1.program else c.program? j := by
        rw [take_proceed hp]
        exact program?_set hp _
      have hself := (hset k).trans (if_pos rfl)
      have hother : ∀ j, j ≠ k → (c.take (.proceed k)).program? j = c.program? j :=
        fun j hj => (hset j).trans (if_neg hj)
      have hmemory : (c.take (.proceed k)).world = (p.proceed c.world).2 := by
        rw [take_proceed hp]
      cases hprog : p.program with
      | done outcome =>
        have hstay : p.proceed c.world = (p, c.world) := by simp only [Participant.proceed, hprog]
        refine .quiet ?_ ?_ fun j => ?_
        · simp [call?, hp, Participant.call?, hprog]
        · rw [hmemory, hstay]
        · by_cases hj : j = k
          · rw [hj, hself, hstay, hprogram]
          · exact hother j hj
      | ask effect next =>
        rw [hprog] at hprogram
        have hstep : p.proceed c.world =
            ({p with program := next (plainHandler p.sender p.context effect c.world).1},
              (plainHandler p.sender p.context effect c.world).2) := by
          simp only [Participant.proceed, hprog]
        rw [hstep] at hself hmemory
        by_cases heffect : ∀ call, effect ≠ .store call
        · exact .aside hprogram heffect (by rw [hmemory]; exact handle_memory heffect _) hself hother
        · obtain ⟨call, rfl⟩ : ∃ call, effect = .store call := by simpa using heffect
          rcases Store.Memory.perform_cases p.context c.world.clock call c.world.memory with
            ⟨hctx, h⟩ | ⟨hctx, m, h⟩
          · refine .performed (by simp [interrupted, hp, hctx]) hprogram ?_ ?_ hother
            · rw [hmemory, ← h]
              rfl
            · rw [hself, ← h]
              rfl
          · refine .refused (m := m) (by simp [interrupted, hp, hctx]) hprogram ?_ ?_ hother
            · rw [hmemory]
              exact congrArg Prod.snd h
            · rw [hself]
              exact congrArg (fun reply => some (next reply.1)) h

/-- Seen from the store, a turn leaves it alone or takes one step, by the call that comes next. -/
theorem take_memory (c : Crowd α) (t : Turn) :
    (c.take t).world.memory = c.world.memory ∨
      ∃ k call next, t = .proceed k ∧ c.program? k = some (.ask (.store call) next) ∧
        (c.take t).world.memory = (Store.Memory.step call c.world.memory).2 := by
  cases c.take_advance t with
  | quiet _ hm _ => exact .inl hm
  | aside _ _ hm _ _ => exact .inl hm
  | refused _ _ hm _ _ => exact .inl hm
  | performed _ hp hm _ _ => exact .inr ⟨_, _, _, rfl, hp, hm⟩

/-- What every edit of the store keeps, holds after any turns. -/
theorem run_edits {I : Store.Memory.State → Prop}
    (hI : ∀ s s', I s → Store.Memory.Edit s s' → I s') {c : Crowd α} (h : I c.world.memory)
    (turns : List Turn) : I (c.run turns).world.memory := by
  induction turns generalizing c with
  | nil => exact h
  | cons t rest ih =>
    refine ih ?_
    rcases c.take_memory t with hkept | ⟨j, call, next, -, -, hstep⟩
    · rw [hkept]
      exact h
    · rw [hstep]
      exact hI _ _ h (Store.Memory.step_edit call c.world.memory)

/-- What holds of every request and lasts from effect to effect holds after a turn. -/
theorem forall_take {P : Nat → Program α → Prop}
    (hnext : ∀ k effect (next : effect.Reply → Program α) reply,
      P k (.ask effect next) → P k (next reply))
    {c : Crowd α} (h : ∀ k p, c.program? k = some p → P k p) (t : Turn) (k : Nat) (p : Program α)
    (hp : (c.take t).program? k = some p) : P k p := by
  rcases (c.take_advance t).place k with hsame | ⟨effect, next, reply, _, hold, hk⟩
  · rw [hsame] at hp
    exact h k p hp
  · rw [hk] at hp
    cases hp
    exact hnext k effect next reply (h k _ hold)

/-- The store call that is next, read off what is left of the request. -/
theorem call?_proceed {c : Crowd α} {k : Nat} {effect : Effect} {next : effect.Reply → Program α}
    (h : c.program? k = some (.ask effect next)) :
    c.call? (.proceed k) = match effect with | .store call => some call | _ => none := by
  simp only [program?, Option.map_eq_some_iff] at h
  obtain ⟨p, hp, hprogram⟩ := h
  simp only [call?, hp, Option.bind_some, Participant.call?, hprogram]
  cases effect <;> rfl

/-- The turn of a request that makes a store call next: the call is refused or performed. -/
theorem take_store {c : Crowd α} {k : Nat} {call : Call}
    {next : (Effect.store call).Reply → Program α}
    (hp : c.program? k = some (.ask (.store call) next)) :
    (c.take (.proceed k)).world.memory = c.world.memory ∧
        (∃ m, (c.take (.proceed k)).program? k = some (next (.error (.interrupted m)))) ∨
      (c.take (.proceed k)).world.memory = (Store.Memory.step call c.world.memory).2 ∧
        (c.take (.proceed k)).program? k =
          some (next (Store.Memory.step call c.world.memory).1) := by
  cases c.take_advance (.proceed k) with
  | quiet hcall _ _ =>
    rw [call?_proceed hp] at hcall
    cases hcall
  | aside hp' he _ _ _ =>
    rw [hp] at hp'
    cases hp'
    exact absurd rfl (he call)
  | refused _ hp' hm hk _ =>
    rw [hp] at hp'
    cases hp'
    exact .inl ⟨hm, _, hk⟩
  | performed _ hp' hm hk _ =>
    rw [hp] at hp'
    cases hp'
    exact .inr ⟨hm, hk⟩

theorem program?_of_ne {c : Crowd α} {k : Nat} {t : Turn} (ht : t ≠ .proceed k) :
    (c.take t).program? k = c.program? k := by
  rcases (c.take_advance t).place k with hsame | ⟨_, _, _, h, _⟩
  · exact hsame
  · exact absurd h ht

end EmailOwnership.Rehearsal.Crowd
