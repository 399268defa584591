import EmailOwnership.Proofs.Crowd.Dialogue
import EmailOwnership.Proofs.Lifecycle
import EmailOwnership.Proofs.Registry.Course
import Mathlib.Data.List.Infix

/-! Who is told that an address is verified.

A claim reports this from either of two looks at the record. The first look asks for the owner
before it asks whether the record is verified. The second, after a new code that matched
nothing, asks only whether the record there is verified, be it whose it may. By then the
account's own record may be gone and the address another's (`already_verified_iff`). Between
the looks the owner cannot have changed in any other way: a record keeps its owner until it is
removed (`owner_stays`). -/
namespace EmailOwnership.Rehearsal
open Program (Exchange)
open Registry (Claiming Picks Rereads errorKind? refusal raised)
open Store (Call Reply)
open Store.Memory (Transition step_transition)

/-! ### Looks -/

section Looks
variable {α : Type} {c : Crowd α} {k : Nat} {address : String} {account : Uuid}

/-- In its next turn the request looks at the address, and this is what it sees. -/
structure Crowd.Sees (c : Crowd α) (k : Nat) (address : String) (r? : Option EmailRecord) :
    Prop where
  call : c.call? (.proceed k) = some (.getEmail address)
  live : c.interrupted k = false
  record : c.record? address = r?

/-- In these turns the request saw an unverified record of the account, and after that the address
was without a record. -/
def Crowd.Vacated (c : Crowd α) (k : Nat) (account : Uuid) (address : String) (turns : List Turn) :
    Prop :=
  ∃ first gap rest r, turns = first ++ .proceed k :: (gap ++ rest) ∧
    (c.run first).Sees k address (some r) ∧ r.owner = some account ∧ r.verified = false ∧
    (c.run (first ++ .proceed k :: gap)).record? address = none

theorem Crowd.Sees.exchange {r? : Option EmailRecord} (h : c.Sees k address r?) :
    c.exchange? k (.proceed k) = some (.getEmail address, .ok (.ofRecord? r?)) := by
  rw [Crowd.exchange?_of_live h.call h.live, ← h.record]
  rfl

/-- What a look is answered is the record that is seen. -/
theorem sees_of_exchange {t : Turn} {look : Reply}
    (h : c.exchange? k t = some (.getEmail address, .ok look)) :
    t = .proceed k ∧ ∃ r?, look = .ofRecord? r? ∧ c.Sees k address r? ∧
      (c.take t).world.memory = c.world.memory := by
  obtain ⟨rfl, hcall, ⟨hlive, hanswer, hm⟩ | ⟨_, ⟨m, hanswer⟩, _⟩⟩ := Crowd.exchange?_cases h
  · exact ⟨rfl, _, Except.ok.inj hanswer, ⟨hcall, hlive, rfl⟩, hm⟩
  · cases hanswer

/-- A turn makes a transition by its own call. -/
theorem take_transition (c : Crowd α) (t : Turn) :
    Transition (fun call => c.call? t = some call) c.world.memory (c.take t).world.memory := by
  rcases c.take_memory t with hkept | ⟨k, call, next, rfl, hp, hstep⟩
  · exact .of_emails_eq (by rw [hkept])
  · rw [hstep]
    refine (step_transition call _).mono fun made hmade => ?_
    rw [hmade, Crowd.call?_proceed hp]

/-- A record that has an owner lasts, unless its address is without a record in between. -/
theorem persists_or_vacant {r r' : EmailRecord} (hr : c.record? address = some r)
    (ho : r.owner = some account) {turns : List Turn}
    (hr' : (c.run turns).record? address = some r') :
    Persists r r' ∨ ∃ gap rest, turns = gap ++ rest ∧ (c.run gap).record? address = none := by
  induction turns using List.reverseRecOn generalizing r' with
  | nil =>
    rw [show (c.run []).record? address = c.record? address from rfl, hr] at hr'
    cases hr'
    exact .inl (.refl r)
  | append_singleton turns t ih =>
    cases hmid : (c.run turns).record? address with
    | none => exact .inr ⟨turns, [t], rfl, hmid⟩
    | some mid =>
      rcases ih hmid with hlast | ⟨gap, rest, rfl, hgap⟩
      · have hown : mid.owner = some account := hlast.owner account ho
        have hc := (take_transition (c.run turns) t).change address
        rw [show (c.run turns).world.memory.emails.get? address = some mid from hmid] at hc
        rw [Crowd.run_concat] at hr'
        rcases Persists.of_change hc fun _ => by rw [hown]; exact Option.some_ne_none _ with
          ⟨later, hlater, hkeeps⟩ | ⟨hnone, _⟩
        · obtain rfl : later = r' := Option.some.inj (hlater.symm.trans hr')
          exact .inl (hlast.trans hkeeps)
        · exact absurd (hnone.symm.trans hr') (by simp)
      · exact .inr ⟨gap, rest ++ [t], by rw [List.append_assoc], hgap⟩

/-- **A record keeps its owner**, unless its address is without a record in between. -/
theorem owner_stays {r r' : EmailRecord} (hr : c.record? address = some r)
    (ho : r.owner = some account) {turns : List Turn}
    (hr' : (c.run turns).record? address = some r') :
    r'.owner = some account ∨
      ∃ gap rest, turns = gap ++ rest ∧ (c.run gap).record? address = none :=
  (persists_or_vacant hr ho hr').imp_left fun hlast => hlast.owner account ho

end Looks

/-! ### What a look decides -/

section Decisions
variable {details : Details} {account : Uuid} {address code : String} {xs ys zs : List Exchange}
  {o : Except Failure Reply} {look : Reply} {r : EmailRecord}

theorem ofRecord?_owner (r? : Option EmailRecord) :
    (Reply.ofRecord? r?).field? .owner = r?.map fun r => .ofOwner r.owner := by
  cases r? <;> rfl

theorem ofRecord?_verified (r? : Option EmailRecord) :
    (Reply.ofRecord? r?).field? .verified = r?.map fun r => .bool r.verified := by
  cases r? <;> rfl

theorem owner_of_field {r? : Option EmailRecord}
    (h : (Reply.ofRecord? r?).field? .owner = some (.uuid account)) :
    ∃ r, r? = some r ∧ r.owner = some account := by
  rw [ofRecord?_owner, Option.map_eq_some_iff] at h
  obtain ⟨r, rfl, h⟩ := h
  refine ⟨r, rfl, ?_⟩
  cases ho : r.owner with
  | none => rw [ho] at h; cases h
  | some owner =>
    rw [ho] at h
    cases h
    rfl

theorem verified_of_field {r? : Option EmailRecord} {v : Store.Value}
    (h : (Reply.ofRecord? r?).field? .verified = some v) :
    ∃ r, r? = some r ∧ v.isTrue = r.verified := by
  rw [ofRecord?_verified, Option.map_eq_some_iff] at h
  obtain ⟨r, rfl, rfl⟩ := h
  exact ⟨r, rfl, rfl⟩

theorem picks_reissue {first : Reply}
    (h : Picks account address code first (.reissueCode address account code)) :
    first.field? .owner = some (.uuid account) ∧
      ∃ v, first.field? .verified = some v ∧ v.isTrue = false := by
  cases h with
  | reissue howner hverified hfalse => exact ⟨howner, _, hverified, hfalse⟩

/-- A claim writes nothing over another's record, or over one that is verified. -/
theorem not_picks {owner : Uuid} {c : Call} (ho : r.owner = some owner)
    (hv : owner = account → r.verified = true) :
    ¬ Picks account address code (.ofRecord? (some r)) c := by
  intro h
  cases h with
  | takeOver howner =>
    rw [ofRecord?_owner, Option.map_some, ho] at howner
    cases howner
  | reissue howner hverified hunverified =>
    rw [ofRecord?_owner, Option.map_some, ho] at howner
    rw [ofRecord?_verified, Option.map_some] at hverified
    cases howner
    cases hverified
    rw [hv rfl] at hunverified
    cases hunverified

/-- **The first look asks for the owner first.** Another's record is claimed, an own one verified. -/
theorem first_look {owner : Uuid}
    (h : Claiming details account address code
      ((.getEmail address, .ok (.ofRecord? (some r))) :: zs) o)
    (ho : r.owner = some owner) (hv : owner = account → r.verified = true) :
    o = .error (refusal (if owner = account then .verified else .claimed) details) := by
  have howner' : (Reply.ofRecord? (some r)).field? .owner = some (.uuid owner) := by
    rw [ofRecord?_owner, Option.map_some, ho]
    rfl
  cases h with
  | @illegible _ field _ hfield => cases field <;> cases hfield
  | foreign howner _ hne =>
    rw [howner'] at howner
    cases howner
    rw [if_neg fun h => hne (congrArg _ h)]
  | verified howner _ _ =>
    rw [howner'] at howner
    cases howner
    rw [if_pos rfl]
  | unwritten hpick => exact absurd hpick (not_picks ho hv)
  | granted hpick _ => exact absurd hpick (not_picks ho hv)
  | lost hpick _ => exact absurd hpick (not_picks ho hv)
  | unreread hpick => exact absurd hpick (not_picks ho hv)
  | reread hpick _ => exact absurd hpick (not_picks ho hv)

/-- **The second look only asks whether the record is verified.** -/
theorem second_look {r? : Option EmailRecord} {e : Failure}
    (h : Rereads details (.ofRecord? r?) e) :
    e = refusal (if r?.any EmailRecord.verified then .verified else .changed) details := by
  have hfield := ofRecord?_verified r?
  generalize hlook : Reply.ofRecord? r? = look at h hfield
  cases h with
  | gone =>
    cases r? with
    | none => rfl
    | some r => cases hlook
  | verified hverified htrue =>
    rw [hverified] at hfield
    obtain ⟨r, rfl, rfl⟩ := Option.map_eq_some_iff.1 hfield.symm
    rw [Option.any_some, if_pos (show r.verified = true from htrue)]
  | unverified hverified hfalse =>
    rw [hverified] at hfield
    obtain ⟨r, rfl, rfl⟩ := Option.map_eq_some_iff.1 hfield.symm
    rw [Option.any_some, if_neg (Bool.eq_false_iff.1 (show r.verified = false from hfalse))]
  | illegible hnothing hnone =>
    rw [hnone] at hfield
    cases r? with
    | none => exact absurd hlook.symm hnothing
    | some r => cases hfield

/-- A look is the first thing that a claim does, or comes after a new code that matched nothing. -/
theorem look_cases
    (h : Claiming details account address code (ys ++ (.getEmail address, .ok look) :: zs) o) :
    ys = [] ∨ ∃ first e,
      ys = [(.getEmail address, .ok first), (.reissueCode address account code, .ok .nothing)] ∧
      Picks account address code first (.reissueCode address account code) ∧
      Rereads details look e ∧ o = .error e := by
  match ys with
  | [] => exact .inl rfl
  | [_] =>
    -- the second call of a claim is its write
    cases h with
    | granted hpick _ => cases hpick
    | lost hpick _ => cases hpick
  | [_, _] =>
    cases h with
    | reread hpick hread => exact .inr ⟨_, _, rfl, hpick, hread, rfl⟩
  | _ :: _ :: _ :: rest =>
    -- a claim has no fourth call
    have hne : rest ++ (Call.getEmail address, .ok look) :: zs ≠ [] := by simp
    simp only [List.cons_append] at h
    generalize rest ++ (Call.getEmail address, .ok look) :: zs = more at h hne
    cases h <;> exact absurd rfl hne

/-- A claim reports a verified record from its first look or from its second. -/
theorem claiming_reports (h : Claiming details account address code xs o)
    (ho : errorKind? o = some .alreadyVerified) :
    ∃ ys look, xs = ys ++ [(.getEmail address, .ok look)] ∧
      (ys = [] ∧ look.field? .owner = some (.uuid account) ∧
          (∃ v, look.field? .verified = some v ∧ v.isTrue = true) ∨
        (∃ first, ys =
            [(.getEmail address, .ok first), (.reissueCode address account code, .ok .nothing)] ∧
          Picks account address code first (.reissueCode address account code)) ∧
        ∃ v, look.field? .verified = some v ∧ v.isTrue = true) := by
  cases h with
  | unread => cases Registry.errorKind?_raised ho
  | unwritten _ => cases Registry.errorKind?_raised ho
  | unreread _ => cases Registry.errorKind?_raised ho
  | verified howner hverified htrue =>
    exact ⟨[], _, rfl, .inl ⟨rfl, howner, _, hverified, htrue⟩⟩
  | reread hpick hread =>
    cases hread with
    | verified hverified htrue =>
      exact ⟨[_, _], _, rfl, .inr ⟨⟨_, rfl, hpick⟩, _, hverified, htrue⟩⟩
    | _ => cases ho
  | _ => cases ho

end Decisions

/-! ### A claim among other requests -/

section Crowd
variable {c : Crowd Result} {k : Nat} {details : Details} {account : Uuid} {address code : String}
  {turns before after : List Turn} {o : Except Failure Reply} {r : EmailRecord}

/-- What a second look finds is still the account's, or was vacated in between. -/
theorem owned_or_vacated {first : Reply}
    (hbefore : c.dialogue k before =
      [(.getEmail address, .ok first), (.reissueCode address account code, .ok .nothing)])
    (hpick : Picks account address code first (.reissueCode address account code))
    (hr : (c.run before).record? address = some r) :
    r.owner = some account ∨ c.Vacated k account address before := by
  obtain ⟨earlier, t, window, rfl, -, hx, -⟩ := Crowd.collect_eq_append_cons
    (show _ = [] ++ _ :: _ from hbefore)
  obtain ⟨rfl, seen?, rfl, hsees, hm⟩ := sees_of_exchange hx
  obtain ⟨howner, v, hverified, hfalse⟩ := picks_reissue hpick
  obtain ⟨seen, rfl, ho⟩ := owner_of_field howner
  obtain ⟨_, hseen, hv⟩ := verified_of_field hverified
  cases hseen
  have hthen : ((c.run earlier).take (.proceed k)).record? address = some seen := by
    rw [Crowd.record?, hm]
    exact hsees.record
  rw [Crowd.run_append] at hr
  rcases owner_stays hthen ho hr with hown | ⟨gap, rest, rfl, hgap⟩
  · exact .inl hown
  · refine .inr ⟨earlier, gap, rest, seen, rfl, hsees, ho, hv.symm.trans hfalse, ?_⟩
    rw [Crowd.run_append]
    exact hgap

theorem seen_of_reports (h : Claiming details account address code (c.dialogue k turns) o)
    (ho : errorKind? o = some .alreadyVerified) :
    ∃ before after r, turns = before ++ .proceed k :: after ∧
      (c.run before).Sees k address (some r) ∧ r.verified = true ∧
      (r.owner = some account ∨ c.Vacated k account address before) := by
  obtain ⟨ys, look, hxs, hlook⟩ := claiming_reports h ho
  obtain ⟨before, t, after, rfl, hbefore, hx, -⟩ := Crowd.collect_eq_append_cons hxs
  obtain ⟨rfl, r?, rfl, hsees, -⟩ := sees_of_exchange hx
  rcases hlook with ⟨-, howner, v, hv, htrue⟩ | ⟨⟨first, rfl, hpick⟩, v, hv, htrue⟩
  · obtain ⟨r, rfl, hown⟩ := owner_of_field howner
    obtain ⟨_, hr, hverified⟩ := verified_of_field hv
    cases hr
    exact ⟨before, after, r, rfl, hsees, hverified.symm.trans htrue, .inl hown⟩
  · obtain ⟨r, rfl, hverified⟩ := verified_of_field hv
    exact ⟨before, after, r, rfl, hsees, hverified.symm.trans htrue,
      owned_or_vacated hbefore hpick hsees.record⟩

/-- What comes of a record that a claim sees: at its first look another's record or an own verified
one ends it, at its second look only the flag counts. -/
theorem reports_of_seen
    (h : Claiming details account address code (c.dialogue k (before ++ .proceed k :: after)) o)
    (hsees : (c.run before).Sees k address (some r)) :
    (c.dialogue k before = [] ∧ ∀ owner, r.owner = some owner →
        (owner = account → r.verified = true) →
        o = .error (refusal (if owner = account then .verified else .claimed) details)) ∨
      (r.owner = some account ∨ c.Vacated k account address before) ∧
        o = .error (refusal (if r.verified then .verified else .changed) details) := by
  rw [Crowd.dialogue_of_exchange hsees.exchange] at h
  rcases look_cases h with hfirst | ⟨first, e, hbefore, hpick, hread, rfl⟩
  · rw [hfirst] at h
    exact .inl ⟨hfirst, fun owner howner hverified => first_look h howner hverified⟩
  · exact .inr ⟨owned_or_vacated hbefore hpick hsees.record, congrArg _ (second_look hread)⟩

theorem dialogue_of_vacated (h : c.Vacated k account address before) : c.dialogue k before ≠ [] := by
  obtain ⟨first, gap, rest, r, rfl, hsees, -⟩ := h
  rw [Crowd.dialogue_of_exchange hsees.exchange]
  simp

end Crowd

/-- **Who is told that an address is verified.** A claim that has ended reports this exactly if in
one of its turns it saw a verified record at the address which was the account's own, or which stood
where the account's unverified record, seen before, had been removed. Any other record of another
account that it sees is reported as claimed. -/
theorem already_verified_iff (codeLength : Nat) (requests : List Request) (w : World) {k : Nat}
    {context : Context String} {account : Uuid} {address code : String}
    (hk : requests[k]? = some ⟨context, .add account address code⟩) (turns : List Turn)
    {outcome : Except Failure Result}
    (ho : ((Crowd.start codeLength requests w).run turns).outcome? k = some outcome) :
    let start := Crowd.start codeLength requests w
    (errorKind? outcome = some .alreadyVerified ↔
      ∃ before after r, turns = before ++ .proceed k :: after ∧
        (start.run before).Sees k address (some r) ∧ r.verified = true ∧
        (r.owner = some account ∨ start.Vacated k account address before)) ∧
    ∀ before after r owner, turns = before ++ .proceed k :: after →
      (start.run before).Sees k address (some r) → r.owner = some owner → owner ≠ account →
      ¬ (r.verified = true ∧ start.Vacated k account address before) →
      errorKind? outcome = some .alreadyClaimed := by
  intro start
  have hway := Crowd.ends_of_outcome (Crowd.program?_start hk w) ho
  obtain ⟨o, hadd, rfl⟩ := Program.ends_map hway
  rw [Registry.errorKind?_map]
  rcases Registry.ends_add hadd with ⟨-, hsilent, rfl⟩ | hclaim
  · -- without a code nothing is seen
    have hblind : ∀ before after r, turns = before ++ .proceed k :: after →
        ¬ (start.run before).Sees k address (some r) := by
      rintro before after r rfl hsees
      rw [Crowd.dialogue_of_exchange hsees.exchange] at hsilent
      simp at hsilent
    refine ⟨⟨(nomatch ·), ?_⟩,
      fun before after r _ hcut hsees => absurd hsees (hblind before after r hcut)⟩
    rintro ⟨before, after, r, hcut, hsees, -⟩
    exact absurd hsees (hblind before after r hcut)
  · refine ⟨⟨seen_of_reports hclaim, ?_⟩, ?_⟩
    · rintro ⟨before, after, r, rfl, hsees, hverified, howned⟩
      rcases reports_of_seen hclaim hsees with ⟨hfirst, hdecide⟩ | ⟨-, rfl⟩
      · have hown : r.owner = some account := howned.resolve_right fun h => dialogue_of_vacated h hfirst
        rw [hdecide account hown fun _ => hverified, if_pos rfl]
        rfl
      · rw [if_pos hverified]
        rfl
    · rintro before after r owner rfl hsees howner hne hnot
      rcases reports_of_seen hclaim hsees with ⟨-, hdecide⟩ | ⟨howned, rfl⟩
      · rw [hdecide owner howner fun h => absurd h hne, if_neg hne]
        rfl
      · have hvacated := howned.resolve_left fun h => hne (Option.some.inj (howner.symm.trans h))
        rw [if_neg fun hverified => hnot ⟨hverified, hvacated⟩]
        rfl

/-- An account claims an address twice; in between it removes its record, and another account claims
and verifies the address. -/
def reclaiming : List Request :=
  [⟨.new "r" none, .add ⟨1⟩ "a@x.com" "111111"⟩,
    ⟨.new "s" none, .add ⟨1⟩ "a@x.com" "222222"⟩,
    ⟨.new "t" none, .remove ⟨1⟩ (.drawn 1)⟩,
    ⟨.new "u" none, .add ⟨2⟩ "a@x.com" "333333"⟩,
    ⟨.new "v" none, .verify ⟨2⟩ "a@x.com"⟩]

/-- The second claim looks before the removal, and asks for its new code after the verification. -/
def reclaimed : List Turn :=
  [.proceed 0, .proceed 0, .proceed 0, .proceed 1, .proceed 2, .proceed 2, .proceed 3, .proceed 3,
    .proceed 3, .proceed 4, .proceed 4, .proceed 1, .proceed 1]

/-- **An account is told that another's address is verified**: whenever a record of the address is
verified in this run, it is the other account's. -/
theorem already_verified_of_another :
    let start := Crowd.start 6 reclaiming ⟨.empty, 0, .standard, []⟩
    (∀ before ∈ reclaimed.inits, ∀ r ∈ (start.run before).record? "a@x.com",
      r.verified = true → r.owner = some ⟨2⟩) ∧
    ∃ outcome, (start.run reclaimed).outcome? 1 = some outcome ∧
      errorKind? outcome = some .alreadyVerified ∧
      ∃ before after, reclaimed = before ++ .proceed 1 :: after ∧
        start.Vacated 1 ⟨1⟩ "a@x.com" before := by
  intro start
  have hother : ∀ before ∈ reclaimed.inits, ∀ r ∈ (start.run before).record? "a@x.com",
      r.verified = true → r.owner = some ⟨2⟩ := by decide +kernel
  obtain ⟨outcome, hend, hkind⟩ : ∃ outcome, (start.run reclaimed).outcome? 1 = some outcome ∧
      errorKind? outcome = some .alreadyVerified :=
    Option.bind_eq_some_iff.1
      (show ((start.run reclaimed).outcome? 1).bind errorKind? = _ by decide +kernel)
  refine ⟨hother, outcome, hend, hkind, ?_⟩
  obtain ⟨before, after, r, hcut, hsees, hverified, howned⟩ :=
    (already_verified_iff 6 reclaiming ⟨.empty, 0, .standard, []⟩ (k := 1) rfl reclaimed hend).1.1
      hkind
  have hprefix : before ∈ reclaimed.inits := (List.mem_inits ..).2 ⟨_, hcut.symm⟩
  refine ⟨before, after, hcut, howned.resolve_left fun h => ?_⟩
  have h2 := hother before hprefix r hsees.record hverified
  rw [h] at h2
  exact absurd h2 (by decide)

end EmailOwnership.Rehearsal
