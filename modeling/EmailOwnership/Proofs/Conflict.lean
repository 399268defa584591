import EmailOwnership.Proofs.AlreadyVerified
import EmailOwnership.Proofs.Registry.Choice

/-! What a conflict comes from.

A claim reports a conflict at five places: where its first look finds another owner, where its write
matches nothing, and where a second look after that finds no record or one that is not verified.
The first of these speaks of the record that stands there. At the others the write had been picked
by a record that called for it, so that record has changed since, and none but another request can
have changed it (`conflict_has_cause`). Without interference a conflict means that another account
owns the address. -/
namespace EmailOwnership.Rehearsal
open Program (Exchange)
open Registry (Claiming Picks Rereads claimDetails claimWrite? errorKind? refusal)
open Store (Call Reply)

/-! ### What others do to a record -/

section Changes
variable {α : Type} {c : Crowd α} {k : Nat} {address : String}

/-- In one of these turns another request changes the record of the address. -/
def Crowd.Changes (c : Crowd α) (k : Nat) (address : String) (turns : List Turn) : Prop :=
  ∃ gap j rest, turns = gap ++ .proceed j :: rest ∧ j ≠ k ∧
    ((c.run gap).take (.proceed j)).record? address ≠ (c.run gap).record? address

/-- Only requests change records: cancelling and waiting leave the store alone. -/
theorem Crowd.proceed_of_changed {t : Turn} (h : (c.take t).record? address ≠ c.record? address) :
    ∃ j, t = .proceed j := by
  cases t with
  | proceed j => exact ⟨j, rfl⟩
  | cancel j => exact absurd rfl h
  | wait seconds => exact absurd rfl h

/-- Where a request exchanges nothing with the store, a record that changes is changed by others. -/
theorem Crowd.changes_of_ne {turns : List Turn}
    (h : (c.run turns).record? address ≠ c.record? address) (hsilent : c.dialogue k turns = []) :
    c.Changes k address turns := by
  induction turns generalizing c with
  | nil => exact absurd rfl h
  | cons t rest ih =>
    have hparts : (c.exchange? k t).toList ++ (c.take t).dialogue k rest = [] := hsilent
    obtain ⟨hnow, hlater⟩ := List.append_eq_nil_iff.1 hparts
    by_cases hchanged : (c.take t).record? address = c.record? address
    · have hrest : ((c.take t).run rest).record? address ≠ (c.take t).record? address := by
        rw [hchanged]
        exact h
      obtain ⟨gap, j, rest', rfl, hj, hchange⟩ := ih hrest hlater
      exact ⟨t :: gap, j, rest', rfl, hj, hchange⟩
    · obtain ⟨j, rfl⟩ := Crowd.proceed_of_changed hchanged
      refine ⟨[], j, rest, rfl, ?_, hchanged⟩
      rintro rfl
      have hnone : c.exchange? j (.proceed j) = none := by simpa using hnow
      have hkept : (c.take (.proceed j)).world.memory = c.world.memory :=
        Crowd.memory_of_silent hnone
      rw [Crowd.record?, hkept] at hchanged
      exact hchanged rfl

theorem Crowd.Changes.append {turns : List Turn} (h : c.Changes k address turns)
    (more : List Turn) : c.Changes k address (turns ++ more) := by
  obtain ⟨gap, j, rest, rfl, hj, hchange⟩ := h
  exact ⟨gap, j, rest ++ more, by simp, hj, hchange⟩

/-- The first look of the request finds a record of another account. -/
def Crowd.FindsForeign (c : Crowd α) (k : Nat) (account : Uuid) (address : String)
    (turns : List Turn) : Prop :=
  ∃ before after r owner, turns = before ++ .proceed k :: after ∧ c.dialogue k before = [] ∧
    (c.run before).Sees k address (some r) ∧ r.owner = some owner ∧ owner ≠ account

/-- The request looks at the address first after `before`, makes its last store call after the
window that follows, and in this window another request changes the record of the address. -/
structure Crowd.OvertakenAt (c : Crowd α) (k : Nat) (address : String)
    (before window after : List Turn) : Prop where
  first : c.dialogue k before = []
  looks : ∃ r?, (c.run before).Sees k address r?
  calls : ∃ call, (c.run (before ++ .proceed k :: window)).call? (.proceed k) = some call
  last : ((c.run (before ++ .proceed k :: window)).take (.proceed k)).dialogue k after = []
  changes : ((c.run before).take (.proceed k)).Changes k address window

/-- Between its first look and its last store call the request is overtaken by another one. -/
def Crowd.Overtaken (c : Crowd α) (k : Nat) (address : String) (turns : List Turn) : Prop :=
  ∃ before window after, turns = before ++ .proceed k :: (window ++ .proceed k :: after) ∧
    c.OvertakenAt k address before window after

end Changes

/-! ### A write that matches nothing -/

section Lost
variable {α : Type} {c : Crowd α} {k : Nat} {account : Uuid} {address code : String}

/-- **A claim whose write matches nothing was overtaken**, whatever call it makes after it. -/
theorem overtaken_of_lost {turns : List Turn} {look : Reply} {call : Call} {more : List Exchange}
    (hdialogue : c.dialogue k turns = (.getEmail address, .ok look) :: (call, .ok .nothing) :: more)
    (hpick : Picks account address code look call) (hmore : more.length ≤ 1) :
    c.Overtaken k address turns := by
  obtain ⟨before, t, rest, rfl, hfirst, hx, hrest⟩ := Crowd.collect_eq_append_cons
    (show _ = [] ++ _ :: _ from hdialogue)
  obtain ⟨rfl, r?, rfl, hsees, hkept⟩ := sees_of_exchange hx
  obtain ⟨window, u, after, rfl, hsilent, hy, hafter⟩ := Crowd.collect_eq_append_cons
    (show _ = [] ++ _ :: _ from hrest)
  obtain ⟨rfl, hcall, hwrite⟩ := Crowd.exchange?_cases hy
  have hlost : (Store.Memory.step call
      (((c.run before).take (.proceed k)).run window).world.memory).1 = .ok .nothing := by
    rcases hwrite with ⟨-, hanswer, -⟩ | ⟨-, ⟨message, hrefused⟩, -⟩
    · exact hanswer.symm
    · cases hrefused
  -- the record that the look found called for the write, the one that the write met did not
  have hmet : (((c.run before).take (.proceed k)).run window).record? address ≠ r? :=
    Registry.changed_of_lost hpick hlost
  have hthen : ((c.run before).take (.proceed k)).record? address = r? := by
    rw [Crowd.record?, hkept]
    exact hsees.record
  rw [← hthen] at hmet
  have hchanges := Crowd.changes_of_ne hmet hsilent
  have hpast : c.run (before ++ .proceed k :: window) =
      ((c.run before).take (.proceed k)).run window := Crowd.run_append ..
  cases more with
  | nil =>
    refine ⟨before, window, after, rfl, hfirst, ⟨r?, hsees⟩, ⟨call, ?_⟩, ?_, hchanges⟩
    · rw [hpast]
      exact hcall
    · rw [hpast]
      exact hafter
  | cons x others =>
    -- the last call comes after the write, in which the request itself changes nothing
    obtain rfl : others = [] := by
      have hlength : others.length = 0 := by simpa using hmore
      exact List.eq_nil_of_length_eq_zero hlength
    obtain ⟨window', v, after', rfl, -, hz, hafter'⟩ := Crowd.collect_eq_append_cons
      (show _ = [] ++ _ :: _ from hafter)
    obtain ⟨rfl, hcall', -⟩ := Crowd.exchange?_cases hz
    have hpast' : c.run (before ++ .proceed k :: (window ++ .proceed k :: window')) =
        ((((c.run before).take (.proceed k)).run window).take (.proceed k)).run window' := by
      rw [← List.cons_append, ← List.append_assoc, Crowd.run_append, hpast]
      rfl
    refine ⟨before, window ++ .proceed k :: window', after', by simp, hfirst, ⟨r?, hsees⟩,
      ⟨x.1, ?_⟩, ?_, hchanges.append _⟩
    · rw [hpast']
      exact hcall'
    · rw [hpast']
      exact hafter'

end Lost

/-! ### Where conflicts are reported -/

section Reports
variable {details : Details} {account : Uuid} {address code : String} {xs : List Exchange}
  {o : Except Failure Reply}

/-- **A claim that reports a conflict** found another owner, or its write matched nothing and at most
one call came after that. -/
theorem claiming_conflicts (h : Claiming details account address code xs o)
    (ho : errorKind? o = some .alreadyClaimed) :
    (∃ look owner, xs = [(.getEmail address, .ok look)] ∧ look.field? .owner = some owner ∧
        owner ≠ .null ∧ owner ≠ .uuid account) ∨
      ∃ look call more, xs = (.getEmail address, .ok look) :: (call, .ok .nothing) :: more ∧
        Picks account address code look call ∧ more.length ≤ 1 := by
  cases h with
  | foreign howner hnull hne => exact .inl ⟨_, _, rfl, howner, hnull, hne⟩
  | lost hpick _ => exact .inr ⟨_, _, [], rfl, hpick, by simp⟩
  | reread hpick _ => exact .inr ⟨_, _, [_], rfl, hpick, by simp⟩
  | unread => cases Registry.errorKind?_raised ho
  | unwritten _ => cases Registry.errorKind?_raised ho
  | unreread _ => cases Registry.errorKind?_raised ho
  | _ => cases ho

/-- An owner that is there and is not the account is another account. -/
theorem foreign_of_field {r? : Option EmailRecord} {v : Store.Value}
    (h : (Reply.ofRecord? r?).field? .owner = some v) (hnull : v ≠ .null) (hne : v ≠ .uuid account) :
    ∃ r owner, r? = some r ∧ r.owner = some owner ∧ owner ≠ account := by
  rw [ofRecord?_owner, Option.map_eq_some_iff] at h
  obtain ⟨r, rfl, rfl⟩ := h
  cases ho : r.owner with
  | none =>
    rw [ho] at hnull
    exact absurd rfl hnull
  | some owner =>
    refine ⟨r, owner, rfl, ho, ?_⟩
    rintro rfl
    rw [ho] at hne
    exact hne rfl

end Reports

/-- A claim that nothing comes between reports a conflict exactly if another account owns the
address. -/
theorem run_add_conflicts_iff {context : Context String} {w : World}
    (hlive : context.isDone w.clock = false) {code : String} (hcode : code ≠ "")
    (requestId : String) (sender : Sender) (account : Uuid) (address : String) :
    errorKind? ((Registry.add requestId account address code).run
        (plainHandler sender context) w).1 = some .alreadyClaimed ↔
      ∃ r owner, w.memory.emails.get? address = some r ∧ r.owner = some owner ∧
        owner ≠ account := by
  cases hchoice : claimWrite? account address code (w.memory.emails.get? address) with
  | some c =>
    obtain ⟨r, entry, -, -, -, -, hrun⟩ := Registry.run_add_granted hlive hcode requestId sender hchoice
    rw [hrun]
    constructor
    · intro hkind
      cases hkind
    · rintro ⟨r, owner, hr, ho, hne⟩
      have hnone : claimWrite? account address code (w.memory.emails.get? address) = none :=
        Registry.claimWrite?_eq_none_iff.2 ⟨r, owner, hr, ho, fun h => absurd h hne⟩
      rw [hchoice] at hnone
      cases hnone
  | none =>
    obtain ⟨r, owner, hr, ho, hverified⟩ := Registry.claimWrite?_eq_none_iff.1 hchoice
    rw [Registry.run_add hlive hcode, hr]
    by_cases hown : owner = account
    · subst hown
      rw [Registry.claim_verified ho (hverified rfl)]
      constructor
      · intro hkind
        cases hkind
      · rintro ⟨r', owner', hr', ho', hne⟩
        cases hr'
        exact absurd (Option.some.inj (ho'.symm.trans ho)) hne
    · rw [Registry.claim_foreign ho hown]
      exact ⟨fun _ => ⟨r, owner, rfl, ho, hown⟩, fun _ => rfl⟩

/-! ### A claim among other requests -/

/-- **A conflict has a cause.** A claim that reports a conflict has found another account's record at
its first look, or was overtaken: between that look and its last store call another request changed
the record of the address. The first of these is always reported so. Without interference a conflict
is reported exactly if another account owns the address. -/
theorem conflict_has_cause (codeLength : Nat) (requests : List Request) (w : World) {k : Nat}
    {context : Context String} {account : Uuid} {address code : String}
    (hk : requests[k]? = some ⟨context, .add account address code⟩) (turns : List Turn)
    {outcome : Except Failure Result}
    (ho : ((Crowd.start codeLength requests w).run turns).outcome? k = some outcome) :
    let start := Crowd.start codeLength requests w
    (errorKind? outcome = some .alreadyClaimed →
      start.FindsForeign k account address turns ∨ start.Overtaken k address turns) ∧
    (start.FindsForeign k account address turns → errorKind? outcome = some .alreadyClaimed) ∧
    (context.isDone w.clock = false → code ≠ "" →
      (errorKind? ((Registry.add context.requestId account address code).run
          (plainHandler .console context) w).1 = some .alreadyClaimed ↔
        ∃ r owner, w.memory.emails.get? address = some r ∧ r.owner = some owner ∧
          owner ≠ account)) := by
  intro start
  have hway := Crowd.ends_of_outcome (Crowd.program?_start hk w) ho
  obtain ⟨o, hadd, rfl⟩ := Program.ends_map hway
  rw [Registry.errorKind?_map]
  refine ⟨fun hkind => ?_, ?_, fun hlive hcode => ?_⟩
  · rcases Registry.ends_add hadd with ⟨-, -, rfl⟩ | hclaim
    · cases hkind
    · rcases claiming_conflicts hclaim hkind with
        ⟨look, owner, hdialogue, howner, hnull, hne⟩ | ⟨look, call, more, hdialogue, hpick, hmore⟩
      · obtain ⟨before, t, after, rfl, hfirst, hx, -⟩ := Crowd.collect_eq_append_cons
          (show _ = [] ++ _ :: _ from hdialogue)
        obtain ⟨rfl, r?, rfl, hsees, -⟩ := sees_of_exchange hx
        obtain ⟨r, other, rfl, ho, hother⟩ := foreign_of_field howner hnull hne
        exact .inl ⟨before, after, r, other, rfl, hfirst, hsees, ho, hother⟩
      · exact .inr (overtaken_of_lost hdialogue hpick hmore)
  · rintro ⟨before, after, r, owner, rfl, hfirst, hsees, howner, hne⟩
    have hdialogue : start.dialogue k (before ++ .proceed k :: after) = _ :=
      Crowd.dialogue_of_exchange hsees.exchange
    rw [hfirst] at hdialogue
    rcases Registry.ends_add hadd with ⟨-, hsilent, -⟩ | hclaim
    · have hempty : [] = [] ++ _ :: _ := hsilent.symm.trans hdialogue
      simp at hempty
    · rw [hdialogue] at hclaim
      rw [first_look hclaim howner fun h => absurd h hne, if_neg hne]
      rfl
  · exact run_add_conflicts_iff hlive hcode context.requestId .console account address

/-- Two accounts claim one address. -/
def contenders : List Request :=
  [⟨.new "r" none, .add ⟨1⟩ "a@x.com" "111111"⟩, ⟨.new "s" none, .add ⟨2⟩ "a@x.com" "222222"⟩]

/-- The second looks before the first has written, and writes after it. -/
def crossed : List Turn :=
  [.proceed 0, .proceed 1, .proceed 0, .proceed 0, .proceed 1, .proceed 1]

/-- A claim that found nobody is overtaken, and reports a conflict that it does not report alone. -/
theorem conflict_of_overtaken :
    let start := Crowd.start 6 contenders ⟨.empty, 0, .standard, []⟩
    ∃ outcome, (start.run crossed).outcome? 1 = some outcome ∧
      errorKind? outcome = some .alreadyClaimed ∧
      ¬ start.FindsForeign 1 ⟨2⟩ "a@x.com" crossed ∧ start.Overtaken 1 "a@x.com" crossed ∧
      errorKind? ((Registry.add "s" ⟨2⟩ "a@x.com" "222222").run
        (plainHandler .console (.new "s" none)) start.world).1 ≠ some .alreadyClaimed := by
  intro start
  obtain ⟨outcome, hend, hkind⟩ : ∃ outcome, (start.run crossed).outcome? 1 = some outcome ∧
      errorKind? outcome = some .alreadyClaimed :=
    Option.bind_eq_some_iff.1
      (show ((start.run crossed).outcome? 1).bind errorKind? = _ by decide +kernel)
  obtain ⟨hcause, -, halone⟩ :=
    conflict_has_cause 6 contenders ⟨.empty, 0, .standard, []⟩ (k := 1) rfl crossed hend
  -- until the claim has looked there is no record to be seen
  have hfree : ∀ before ∈ crossed.inits, (start.dialogue 1 before).isEmpty = true →
      (start.run before).record? "a@x.com" = none := by decide +kernel
  have hnobody : ¬ start.FindsForeign 1 ⟨2⟩ "a@x.com" crossed := by
    rintro ⟨before, after, r, owner, hturns, hfirst, hsees, -⟩
    have hprefix : before ∈ crossed.inits := (List.mem_inits ..).2 ⟨_, hturns.symm⟩
    have hnone := hfree before hprefix (by rw [hfirst]; rfl)
    rw [hsees.record] at hnone
    cases hnone
  refine ⟨outcome, hend, hkind, hnobody, (hcause hkind).resolve_left hnobody, fun h => ?_⟩
  obtain ⟨r, owner, hr, -⟩ := (halone rfl (by decide)).1 h
  cases hr

end EmailOwnership.Rehearsal
