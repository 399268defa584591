import EmailOwnership.Proofs.Crowd.Settled
import EmailOwnership.Proofs.Registry.Outcome

/-! Claims of one address that compete.

Any number of accounts claim an address that has no owner, their store calls in any order.
When all have ended exactly one has the address, with its own code, and every other claim
was refused as already claimed (`one_claimant_wins`).

The contest has two phases (`Contest`). While it is open no claim has written: each has read
the record as it was, or nothing yet. From the first write on the record stands as its
claimant made it, and every call of another claim is refused by the owner that it finds. -/
namespace EmailOwnership.Rehearsal
open Store (Call Reply)
open Store.Memory (State step)

/-! ### Contexts that last -/

/-- Whether no request finds its context done when its turn comes. -/
def Crowd.staysLive {α : Type} (c : Crowd α) : List Turn → Bool
  | [] => true
  | .proceed k :: rest => !c.interrupted k && (c.take (.proceed k)).staysLive rest
  | t :: rest => (c.take t).staysLive rest

theorem Crowd.staysLive_cons {α : Type} {c : Crowd α} {t : Turn} {rest : List Turn}
    (h : c.staysLive (t :: rest) = true) :
    (∀ k, t = .proceed k → c.interrupted k = false) ∧ (c.take t).staysLive rest = true := by
  cases t with
  | proceed k =>
    simp only [staysLive, Bool.and_eq_true, Bool.not_eq_true'] at h
    refine ⟨fun j hj => ?_, h.2⟩
    cases hj
    exact h.1
  | cancel k => exact ⟨fun _ hj => (by cases hj), h⟩
  | wait seconds => exact ⟨fun _ hj => (by cases hj), h⟩

/-! ### One claim -/

/-- An account's claim of an address that is left open here. -/
structure Claim where
  context : Context String
  account : Uuid
  code : String

namespace Claim
variable {address : String} {found? : Option EmailRecord} {x : Claim} {p : Program Result}

def request (address : String) (x : Claim) : Request := ⟨x.context, .add x.account address x.code⟩

/-- A claim before its write: it has read nothing yet, or the record as it was at the start. -/
inductive Pending (address : String) (found? : Option EmailRecord) (x : Claim) :
    Program Result → Prop
  | unread : Pending address found? x
      (.reply <$> Registry.add x.context.requestId x.account address x.code)
  | read : Pending address found? x
      (.reply <$> Registry.claim (Registry.claimDetails x.context.requestId x.account address)
        x.account address x.code (.ofRecord? found?))

/-- What a claim that is granted makes of the record. -/
structure Makes (x : Claim) (found? : Option EmailRecord) (r : EmailRecord) : Prop where
  owner : r.owner = some x.account
  code : r.code = x.code
  verified : r.verified = false
  id : ∀ r', found? = some r' → r.id = r'.id

/-- What is left of a claim that was refused. -/
def Refused (p : Program Result) : Prop :=
  ∃ e, p.settled? = some (.error (.registry e)) ∧ e.kind = .alreadyClaimed

theorem refused_of_claimed {q : Program Reply} (details : Details)
    (h : q.settled? = (Registry.refuse .claimed details : Program Reply).settled?) :
    Refused (.reply <$> q) := by
  refine ⟨⟨.alreadyClaimed, Registry.Refusal.claimed.message, details, none⟩, ?_, rfl⟩
  rw [Program.settled?_map, h]
  rfl

theorem Refused.next {effect : Effect} {next : effect.Reply → Program Result}
    (h : Refused (.ask effect next)) (reply : effect.Reply) : Refused (next reply) := by
  obtain ⟨e, he, hkind⟩ := h
  cases effect with
  | log entry => exact ⟨e, he, hkind⟩
  | _ => cases he

/-! ### The next call of a pending claim -/

/-- The write of a first claim, by what was found. -/
def write (address : String) (x : Claim) : Option EmailRecord → Call
  | none => .createEmail address (some x.account) x.code
  | some _ => .claimUnowned address x.account x.code

/-- A claim of an address without an owner makes its write next, and its reply decides. -/
theorem claim_asks (details : Details) (address : String) (x : Claim)
    (hunowned : ∀ r, found? = some r → r.owner = none) :
    ∃ next, Registry.claim details x.account address x.code (.ofRecord? found?) =
        .ask (.store (x.write address found?)) next ∧
      (∀ r, (next (.ok (.ofRecord? (some r)))).settled? = some (.ok (.ofRecord? (some r)))) ∧
      (next (.ok .nothing)).settled? =
        (Registry.refuse .claimed details : Program Reply).settled? := by
  cases found? with
  | none =>
    obtain ⟨next, hask, hok, -⟩ := Registry.stored_bind_ask "add" details
      (.createEmail address (some x.account) x.code) _
    refine ⟨next, hask, fun r => ?_, ?_⟩
    · rw [hok]
      rfl
    · rw [hok]
      rfl
  | some r =>
    obtain ⟨next, hask, hok, -⟩ := Registry.stored_bind_ask "add" details
      (.claimUnowned address x.account x.code) _
    refine ⟨next, ?_, fun r => ?_, ?_⟩
    · rw [Registry.claim_unowned (hunowned r rfl)]
      exact hask
    · rw [hok]
      rfl
    · rw [hok]
      rfl

theorem write_granted {s : State} (hs : s.emails.get? address = found?)
    (hunowned : ∀ r, found? = some r → r.owner = none) :
    ∃ r, (step (x.write address found?) s).1 = .ok (.ofRecord? (some r)) ∧
      (step (x.write address found?) s).2.emails.get? address = some r ∧ x.Makes found? r := by
  cases found? with
  | none =>
    refine ⟨s.fresh address (some x.account) x.code, ?_⟩
    rw [write, Store.Memory.step_create hs]
    exact ⟨rfl, Table.get?_put_self .., rfl, rfl, rfl, fun _ h => by cases h⟩
  | some r =>
    refine ⟨Store.Memory.taken r x.account x.code, ?_⟩
    rw [write, Store.Memory.step_claim hs (hunowned r rfl)]
    exact ⟨rfl, Table.get?_put_self .., rfl, rfl, rfl, fun _ h => by cases h; rfl⟩

/-- A record with an owner refuses both writes. -/
theorem write_lost {s : State} {r : EmailRecord} (hs : s.emails.get? address = some r)
    (ho : r.owner ≠ none) : step (x.write address found?) s = (.ok .nothing, s) := by
  cases found? with
  | none => exact Store.Memory.step_create_known hs
  | some _ =>
    refine Store.Memory.step_claim_lost fun r' hr' => ?_
    rw [hs] at hr'
    cases hr'
    exact ho

/-- The next call of a pending claim: it leaves the address open and the claim pending, or it is
granted; and once another account has the address, it is refused. -/
theorem Pending.asks (hcode : x.code ≠ "") (hunowned : ∀ r, found? = some r → r.owner = none)
    (h : x.Pending address found? p) :
    ∃ call next, p = .ask (.store call) next ∧
      (∀ s, s.emails.get? address = found? →
        ((step call s).2 = s ∧ x.Pending address found? (next (step call s).1)) ∨
        ∃ r, (step call s).2.emails.get? address = some r ∧ x.Makes found? r ∧
          (next (step call s).1).settled? = some (.ok (.reply (.ofRecord? (some r))))) ∧
      ∀ s r owner, s.emails.get? address = some r → r.owner = some owner → owner ≠ x.account →
        (step call s).2 = s ∧ Refused (next (step call s).1) := by
  cases h with
  | unread =>
    obtain ⟨next, hask, hok, -⟩ := Registry.stored_bind_ask "add"
      (Registry.claimDetails x.context.requestId x.account address) (.getEmail address)
      (Registry.claim (Registry.claimDetails x.context.requestId x.account address) x.account
        address x.code)
    rw [Registry.add_of_code hcode, hask]
    refine ⟨_, _, rfl, fun s hs => .inl ⟨rfl, ?_⟩, fun s r owner hs ho hne => ⟨rfl, ?_⟩⟩
    · have hread : (step (.getEmail address) s).1 = .ok (.ofRecord? found?) := by rw [← hs]; rfl
      show x.Pending address found? (.reply <$> next (step (.getEmail address) s).1)
      rw [hread, hok]
      exact .read
    · have hread : (step (.getEmail address) s).1 = .ok (.ofRecord? (some r)) := by rw [← hs]; rfl
      refine refused_of_claimed (q := next (step (.getEmail address) s).1)
        (Registry.claimDetails x.context.requestId x.account address) ?_
      rw [hread, hok, Registry.claim_foreign ho hne]
  | read =>
    obtain ⟨next, hask, hgranted, hlost⟩ := claim_asks
      (Registry.claimDetails x.context.requestId x.account address) address x hunowned
    rw [hask]
    refine ⟨_, _, rfl, fun s hs => .inr ?_, fun s r owner hs ho _ => ?_⟩
    · obtain ⟨r, hreply, hr, hmakes⟩ := write_granted (x := x) hs hunowned
      refine ⟨r, hr, hmakes, ?_⟩
      show (Result.reply <$> next (step (x.write address found?) s).1).settled? = _
      rw [Program.settled?_map, hreply, hgranted]
      rfl
    · have hstep : step (x.write address found?) s = (.ok .nothing, s) :=
        write_lost hs (by rw [ho]; exact Option.some_ne_none _)
      refine ⟨by rw [hstep], ?_⟩
      refine refused_of_claimed (q := next (step (x.write address found?) s).1)
        (Registry.claimDetails x.context.requestId x.account address) ?_
      rw [hstep]
      exact hlost

end Claim
/-! ### The contest -/

/-- Claims by distinct accounts, each with a code, of an address without an owner. -/
structure Contenders (found? : Option EmailRecord) (claims : List Claim) : Prop where
  codes : ∀ x ∈ claims, x.code ≠ ""
  accounts : (claims.map Claim.account).Nodup
  unowned : ∀ r, found? = some r → r.owner = none

theorem Contenders.account_ne {found? : Option EmailRecord} {claims : List Claim}
    (h : Contenders found? claims) {j k : Nat} {x y : Claim} (hx : claims[j]? = some x)
    (hy : claims[k]? = some y) (hjk : j ≠ k) : x.account ≠ y.account := by
  intro heq
  have hj : j < (claims.map Claim.account).length := by
    rw [List.length_map]
    exact (List.getElem?_eq_some_iff.1 hx).1
  refine hjk ((List.getElem?_inj hj h.accounts).1 ?_)
  rw [List.getElem?_map, List.getElem?_map, hx, hy, Option.map_some, Option.map_some, heq]

/-- How a contest stands: nobody has written, or the claim that wrote first has won. -/
inductive Contest (address : String) (found? : Option EmailRecord) (claims : List Claim)
    (c : Crowd Result) : Prop
  | undecided : c.record? address = found? →
    (∀ k x, claims[k]? = some x → ∃ p, c.program? k = some p ∧ x.Pending address found? p) →
    Contest address found? claims c
  | won {j : Nat} {winner : Claim} {r : EmailRecord} : claims[j]? = some winner →
    c.record? address = some r → winner.Makes found? r →
    c.settled? j = some (.ok (.reply (.ofRecord? (some r)))) →
    (∀ k x, claims[k]? = some x → k ≠ j →
      ∃ p, c.program? k = some p ∧ (x.Pending address found? p ∨ Claim.Refused p)) →
    Contest address found? claims c

namespace Contest
variable {address : String} {found? : Option EmailRecord} {claims : List Claim}
  {c : Crowd Result} {t : Turn}

theorem take_undecided (hc : Contenders found? claims) (hrec : c.record? address = found?)
    (hpending : ∀ k x, claims[k]? = some x →
      ∃ p, c.program? k = some p ∧ x.Pending address found? p)
    (hplaces : ∀ k p, c.program? k = some p → ∃ x, claims[k]? = some x)
    (hlive : ∀ k, t = .proceed k → c.interrupted k = false) :
    Contest address found? claims (c.take t) := by
  -- the program of whoever moves is pending
  have hasks : ∀ {k : Nat} {p : Program Result}, c.program? k = some p →
      ∃ x, claims[k]? = some x ∧ x.code ≠ "" ∧ x.Pending address found? p := by
    intro k p hp
    obtain ⟨x, hx⟩ := hplaces k p hp
    obtain ⟨q, hq, hpend⟩ := hpending k x hx
    rw [hp] at hq
    cases hq
    exact ⟨x, hx, hc.codes x (List.mem_of_getElem? hx), hpend⟩
  cases c.take_advance t with
  | quiet _ hm hsame =>
    refine .undecided (by rw [Crowd.record?, hm]; exact hrec) fun k x hx => ?_
    rw [hsame]
    exact hpending k x hx
  | aside hp he _ _ _ =>
    obtain ⟨x, _, hcode, hpend⟩ := hasks hp
    obtain ⟨call, next, hask, -⟩ := hpend.asks hcode hc.unowned
    cases hask
    exact absurd rfl (he call)
  | refused hint _ _ _ _ =>
    rw [hlive _ rfl] at hint
    cases hint
  | @performed k call next _ hp hm hk hother =>
    obtain ⟨x, hx, hcode, hpend⟩ := hasks hp
    obtain ⟨call', next', hask, hopen, -⟩ := hpend.asks hcode hc.unowned
    cases hask
    rcases hopen _ hrec with ⟨hkept, hnext⟩ | ⟨r, hr, hmakes, hsettled⟩
    · refine .undecided (by rw [Crowd.record?, hm, hkept]; exact hrec) fun j y hy => ?_
      by_cases hj : j = k
      · subst hj
        rw [hx] at hy
        cases hy
        exact ⟨_, hk, hnext⟩
      · rw [hother j hj]
        exact hpending j y hy
    · refine .won hx (by rw [Crowd.record?, hm]; exact hr) hmakes
        ((Crowd.settled?_eq hk).trans hsettled) fun j y hy hj => ?_
      obtain ⟨q, hq, hqpend⟩ := hpending j y hy
      exact ⟨q, (hother j hj).trans hq, .inl hqpend⟩

theorem take_won (hc : Contenders found? claims) {j : Nat} {winner : Claim} {r : EmailRecord}
    (hj : claims[j]? = some winner) (hrec : c.record? address = some r)
    (hmakes : winner.Makes found? r)
    (hsettled : c.settled? j = some (.ok (.reply (.ofRecord? (some r)))))
    (hrest : ∀ k x, claims[k]? = some x → k ≠ j →
      ∃ p, c.program? k = some p ∧ (x.Pending address found? p ∨ Claim.Refused p))
    (hplaces : ∀ k p, c.program? k = some p → ∃ x, claims[k]? = some x)
    (hlive : ∀ k, t = .proceed k → c.interrupted k = false) :
    Contest address found? claims (c.take t) := by
  have hstays := Crowd.settled?_take hsettled t
  -- everybody but the one who moves stands as before
  have hothers : ∀ {k : Nat}, (∀ i, i ≠ k → (c.take t).program? i = c.program? i) →
      (∀ x, claims[k]? = some x → k ≠ j →
        ∃ p, (c.take t).program? k = some p ∧ (x.Pending address found? p ∨ Claim.Refused p)) →
      ∀ i x, claims[i]? = some x → i ≠ j →
        ∃ p, (c.take t).program? i = some p ∧ (x.Pending address found? p ∨ Claim.Refused p) := by
    intro k hother hmove i x hx hi
    by_cases hik : i = k
    · subst hik
      exact hmove x hx hi
    · rw [hother i hik]
      exact hrest i x hx hi
  cases c.take_advance t with
  | quiet _ hm hsame =>
    refine .won hj (by rw [Crowd.record?, hm]; exact hrec) hmakes hstays fun k x hx hk => ?_
    rw [hsame]
    exact hrest k x hx hk
  | @aside k effect next reply hp he hm hk hother =>
    refine .won hj (by rw [Crowd.record?, hm]; exact hrec) hmakes hstays
      (hothers hother fun x hx hkj => ⟨_, hk, .inr ?_⟩)
    obtain ⟨p, hp', hstands⟩ := hrest k x hx hkj
    rw [hp] at hp'
    cases hp'
    rcases hstands with hpend | hrefused
    · obtain ⟨call, next', hask, -⟩ := hpend.asks (hc.codes x (List.mem_of_getElem? hx)) hc.unowned
      cases hask
      exact absurd rfl (he call)
    · exact hrefused.next reply
  | refused hint _ _ _ _ =>
    rw [hlive _ rfl] at hint
    cases hint
  | @performed k call next _ hp hm hk hother =>
    have hkj : k ≠ j := by
      rintro rfl
      rw [Crowd.settled?_eq hp] at hsettled
      cases hsettled
    obtain ⟨x, hx⟩ := hplaces k _ hp
    obtain ⟨p, hp', hstands⟩ := hrest k x hx hkj
    rw [hp] at hp'
    cases hp'
    rcases hstands with hpend | ⟨e, he, _⟩
    · obtain ⟨call', next', hask, -, htaken⟩ :=
        hpend.asks (hc.codes x (List.mem_of_getElem? hx)) hc.unowned
      cases hask
      obtain ⟨hkept, hrefused⟩ :=
        htaken _ r winner.account hrec hmakes.owner (hc.account_ne hj hx hkj.symm)
      refine .won hj (by rw [Crowd.record?, hm, hkept]; exact hrec) hmakes hstays
        (hothers hother fun y hy _ => ?_)
      exact ⟨_, hk, .inr hrefused⟩
    · cases he

/-- **A turn leaves the contest open, decides it, or leaves the winner alone.** -/
theorem take (h : Contest address found? claims c) (hc : Contenders found? claims)
    (hplaces : ∀ k p, c.program? k = some p → ∃ x, claims[k]? = some x)
    (hlive : ∀ k, t = .proceed k → c.interrupted k = false) :
    Contest address found? claims (c.take t) := by
  cases h with
  | undecided hrec hpending => exact take_undecided hc hrec hpending hplaces hlive
  | won hj hrec hmakes hsettled hrest =>
    exact take_won hc hj hrec hmakes hsettled hrest hplaces hlive

theorem run (h : Contest address found? claims c) (hc : Contenders found? claims)
    (hplaces : ∀ k p, c.program? k = some p → ∃ x, claims[k]? = some x) {turns : List Turn}
    (hlive : c.staysLive turns = true) : Contest address found? claims (c.run turns) := by
  induction turns generalizing c with
  | nil => exact h
  | cons t rest ih =>
    obtain ⟨hnow, hlater⟩ := Crowd.staysLive_cons hlive
    exact ih (h.take hc hplaces hnow) (Crowd.forall_take (fun _ _ _ _ hk => hk) hplaces t) hlater

end Contest

/-! ### The outcome -/

theorem contest_start (codeLength : Nat) (address : String) (claims : List Claim) (w : World) :
    Contest address (w.memory.emails.get? address) claims
      (Crowd.start codeLength (claims.map (Claim.request address)) w) := by
  refine .undecided rfl fun k x hx => ⟨_, ?_, .unread⟩
  simp only [Crowd.program?, Crowd.start, List.getElem?_map, hx, Option.map_some]
  rfl

/-- **Exactly one claim of an open address wins.** It is answered with the record that the address
holds in the end; every other claim is refused as already claimed. -/
theorem one_claimant_wins (codeLength : Nat) (address : String) (claims : List Claim)
    (hne : claims ≠ []) (hcodes : ∀ x ∈ claims, x.code ≠ "")
    (haccounts : (claims.map Claim.account).Nodup) (w : World)
    (hunowned : ∀ r, w.memory.emails.get? address = some r → r.owner = none) (turns : List Turn)
    (hlive : (Crowd.start codeLength (claims.map (Claim.request address)) w).staysLive turns = true)
    (hdone : ((Crowd.start codeLength (claims.map (Claim.request address)) w).run turns).isDone =
      true) :
    let final := (Crowd.start codeLength (claims.map (Claim.request address)) w).run turns
    ∃ k winner r, claims[k]? = some winner ∧
      final.outcome? k = some (.ok (.reply (.ofRecord? (some r)))) ∧
      (∀ j, j < claims.length → j ≠ k →
        ∃ e, final.outcome? j = some (.error (.registry e)) ∧ e.kind = .alreadyClaimed) ∧
      final.record? address = some r ∧ r.owner = some winner.account ∧ r.code = winner.code ∧
      r.verified = false ∧ ∀ r', w.memory.emails.get? address = some r' → r.id = r'.id := by
  intro final
  have hc : Contenders (w.memory.emails.get? address) claims := ⟨hcodes, haccounts, hunowned⟩
  have hplaces : ∀ k p, (Crowd.start codeLength (claims.map (Claim.request address)) w).program? k =
      some p → ∃ x, claims[k]? = some x := by
    intro k p hp
    simp only [Crowd.program?, Crowd.start, List.getElem?_map, Option.map_map,
      Option.map_eq_some_iff] at hp
    obtain ⟨x, hx, _⟩ := hp
    exact ⟨x, hx⟩
  have houtcome : ∀ k, final.outcome? k = final.settled? k := Crowd.outcome?_of_isDone hdone
  -- at the end no claim is pending
  have hended : ∀ {k : Nat} {x : Claim} {p : Program Result}, claims[k]? = some x →
      final.program? k = some p → ¬ x.Pending address (w.memory.emails.get? address) p := by
    intro k x p hx hp hpend
    obtain ⟨call, next, hask, -⟩ := hpend.asks (hcodes x (List.mem_of_getElem? hx)) hunowned
    obtain ⟨outcome, hend, -⟩ := Crowd.program?_of_isDone hdone hp
    rw [hask] at hend
    cases hend
  cases (contest_start codeLength address claims w).run hc hplaces hlive with
  | undecided _ hpending =>
    obtain ⟨x, rest, rfl⟩ := List.exists_cons_of_ne_nil hne
    have hx : (x :: rest)[0]? = some x := rfl
    obtain ⟨p, hp, hpend⟩ := hpending 0 x hx
    exact absurd hpend (hended hx hp)
  | @won k winner r hk hrec hmakes hsettled hrest =>
    refine ⟨k, winner, r, hk, (houtcome k).trans hsettled, fun j hj hjk => ?_, hrec, hmakes.owner,
      hmakes.code, hmakes.verified, hmakes.id⟩
    have hx : claims[j]? = some (claims.get ⟨j, hj⟩) := List.getElem?_eq_getElem hj
    obtain ⟨p, hp, hpend | ⟨e, he, hkind⟩⟩ := hrest j _ hx hjk
    · exact absurd hpend (hended hx hp)
    · exact ⟨e, by rw [houtcome, Crowd.settled?_eq hp, he], hkind⟩

/-- The store after an address has been provisioned. -/
def provisioned : State := (step (.createEmail "a@x.com" none "000000") .empty).2

def entrants : List Claim := [⟨.new "r" none, ⟨1⟩, "111111"⟩, ⟨.new "s" none, ⟨2⟩, "222222"⟩]

/-- Both read the provisioned record before the second claims it. -/
theorem one_claimant_wins_provisioned :
    ∃ (k : Nat) (winner : Claim) (r : EmailRecord), entrants[k]? = some winner ∧
      ((Crowd.start 6 (entrants.map (Claim.request "a@x.com")) ⟨provisioned, 0, .standard, []⟩).run
        [.proceed 0, .proceed 1, .proceed 1, .proceed 0, .proceed 0, .proceed 1]).record? "a@x.com" =
          some r ∧
      r.owner = some winner.account ∧ r.id = .drawn 1 := by
  have hprovisioned : provisioned.emails.get? "a@x.com" =
      some ⟨.drawn 1, "a@x.com", none, "000000", false⟩ := rfl
  have hunowned : ∀ r, provisioned.emails.get? "a@x.com" = some r → r.owner = none := by
    intro r hr
    rw [hprovisioned] at hr
    cases hr
    rfl
  obtain ⟨k, winner, r, hk, -, -, hr, howner, -, -, hid⟩ := one_claimant_wins 6 "a@x.com" entrants
    (by simp [entrants]) (by simp [entrants]) (by decide) ⟨provisioned, 0, .standard, []⟩ hunowned
    [.proceed 0, .proceed 1, .proceed 1, .proceed 0, .proceed 0, .proceed 1] rfl rfl
  exact ⟨k, winner, r, hk, hr, howner, hid _ hprovisioned⟩

end EmailOwnership.Rehearsal
