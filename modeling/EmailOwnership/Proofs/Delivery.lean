import EmailOwnership.Proofs.AlreadyVerified
import EmailOwnership.Proofs.CurrentCode
import EmailOwnership.Proofs.Memory.Growth
import EmailOwnership.Proofs.Program.Delivery
import EmailOwnership.Proofs.Registry.Choice

/-! Whose code a claim delivers.

A claim of an address writes its record, reads the address again and delivers the code that it
reads there. The second call asks for the address only. As long as the address is never without a
record in between, what is read is the claimed record, with the last code that was issued for it.
Once the address has been vacated, what is read is another record, be it whose it may, and its code
goes out on behalf of the first account (`delivered_code_of_claim`). An identifier does not come
back (`Confined`), so the two cases never overlap. -/
namespace EmailOwnership

/-! ### Parts of a claim that hand nothing over -/

namespace Registry
open Program (Mute)
variable {operation requestId address code : String} {details : Details} {account : Uuid}

theorem stored_mute {c : Store.Call} : Mute (stored operation details c) := by
  refine Mute.call.bind fun reply => ?_
  cases reply with
  | ok reply => exact .pure
  | error fault =>
    dsimp only
    split
    · exact Mute.log.bind fun _ => .fail
    · exact .fail

theorem codeLost_mute (reply : Store.Reply) : Mute (codeLost details address reply) := by
  unfold codeLost
  split
  · exact Mute.log.bind fun _ => .fail
  · refine Mute.fieldOf.bind fun verified => ?_
    split
    · exact .fail
    · exact Mute.log.bind fun _ => .fail

/-- A write ends with a line in the log, and with its reply or a refusal. -/
theorem create_mute : Mute (create details account address code) := by
  refine stored_mute.bind fun reply => ?_
  split
  · exact Mute.log.bind fun _ => .fail
  · exact Mute.log.bind fun _ => .pure

theorem takeOver_mute : Mute (takeOver details account address code) := by
  refine stored_mute.bind fun reply => ?_
  split
  · exact Mute.log.bind fun _ => .fail
  · exact Mute.log.bind fun _ => .pure

theorem reissue_mute : Mute (reissue details account address code) := by
  refine stored_mute.bind fun reply => ?_
  split
  · exact stored_mute.bind codeLost_mute
  · exact Mute.log.bind fun _ => .pure

theorem claim_mute (look : Store.Reply) : Mute (claim details account address code look) := by
  unfold claim
  split
  · exact create_mute
  · refine Mute.fieldOf.bind fun owner => ?_
    split
    · exact takeOver_mute
    · split
      · exact .fail
      · refine Mute.fieldOf.bind fun verified => ?_
        split
        · exact .fail
        · exact reissue_mute

theorem add_mute : Mute (add requestId account address code) := by
  unfold add
  split
  · exact .fail
  · exact stored_mute.bind claim_mute

theorem getCode_mute : Mute (getCode requestId address) := by
  refine stored_mute.bind fun reply => ?_
  split
  · exact .fail
  · exact .fieldOf

/-- An operation of one call that succeeds was answered. -/
theorem single_ok {α : Type} {c : Store.Call} {outcome : Store.Reply → Except Failure α}
    {xs : List Program.Exchange} {a : α} (h : Single details c outcome xs (.ok a)) :
    ∃ reply, xs = [(c, .ok reply)] ∧ outcome reply = .ok a := by
  generalize ho : (Except.ok a : Except Failure α) = o at h
  cases h with
  | faulty => cases ho
  | @answered reply => exact ⟨reply, rfl, rfl⟩

/-- A claim that succeeds has looked, and the write that it picked by that has brought something. -/
theorem claiming_granted {xs : List Program.Exchange} {reply : Store.Reply}
    (h : Claiming details account address code xs (.ok reply)) :
    ∃ look c, xs = [(.getEmail address, .ok look), (c, .ok reply)] ∧
      Picks account address code look c ∧ reply ≠ .nothing := by
  generalize ho : (Except.ok reply : Except Failure Store.Reply) = o at h
  cases h with
  | granted hpick hne =>
    cases ho
    exact ⟨_, _, rfl, hpick, hne⟩
  | _ => cases ho

/-- A look that has a code for the sender is a look at a record, and the code is its own. -/
theorem codeOf_ofRecord? {r? : Option EmailRecord} {value : Store.Value}
    (h : codeOf details (.ofRecord? r?) = .ok value) :
    ∃ r, r? = some r ∧ value = .text r.code := by
  cases r? with
  | none => cases h
  | some r =>
    cases h
    exact ⟨r, rfl, rfl⟩

end Registry

/-! ### The claim of an address, with what it hands over -/

namespace Verification
open Program (Exchange Hands ends_done hands_bind_mute hands_deliver hands_done)
open Registry (Claiming claimDetails codeOf)
variable {requestId email : String} {codeLength : Nat} {account : Uuid}

/-- **A claim that returns a record** was granted, has read the address again, and has handed over
the one code that it read. -/
theorem hands_addEmail {xs : List Exchange} {sent : List (String × String)} {reply : Store.Reply}
    (h : Hands (addEmail requestId codeLength account email) xs sent (.done (.ok reply))) :
    let address := Address.normalize email
    ∃ code ys look value, xs = ys ++ [(.getEmail address, .ok look)] ∧
      Claiming (claimDetails requestId account address) account address code ys (.ok reply) ∧
      codeOf (Registry.details requestId "get_code" [("address", .text address)]) look = .ok value ∧
      sent = [(address, value.render)] := by
  intro address
  rcases hands_bind_mute .drawCode h with ⟨e, -, -, he⟩ | ⟨code, ds, xs', rfl, hdrawn, hclaims⟩
  · cases he
  obtain rfl : ds = [] := by
    cases hdrawn with
    | aside _ hdone => exact (ends_done.1 hdone).1
  rcases hands_bind_mute Registry.add_mute hclaims with
    ⟨e, -, -, he⟩ | ⟨record, ys, zs, rfl, hadd, hreads⟩
  · cases he
  rcases hands_bind_mute Registry.getCode_mute hreads with
    ⟨e, -, -, he⟩ | ⟨value, us, vs, rfl, hread, hsends⟩
  · cases he
  -- nothing follows the delivery
  rcases hands_deliver hsends with ⟨message, -, he⟩ | ⟨rest, rfl, hrest⟩
  · cases he
  obtain ⟨rfl, rfl, hreply⟩ := hands_done hrest
  cases hreply
  obtain ⟨look, rfl, hvalue⟩ := Registry.single_ok (Registry.ends_getCode hread)
  have hclaim : Claiming (claimDetails requestId account address) account address code ys
      (.ok reply) := by
    rcases Registry.ends_add hadd with ⟨-, -, he⟩ | hclaim
    · cases he
    · exact hclaim
  exact ⟨code, ys, look, value, by rw [List.nil_append, List.append_nil], hclaim, hvalue, rfl⟩

end Verification

/-! ### Identifiers that do not come back -/

namespace Store.Memory
variable {places : String → Prop} {id : Uuid} {s s' : State}

/-- Only at these addresses may a record have this identifier, and no other will be made with it. -/
structure Confined (places : String → Prop) (id : Uuid) (s : State) : Prop where
  unused : ∀ n, s.drawn < n → id ≠ .drawn n
  places : ∀ x r, s.emails.get? x = some r → r.id = id → places x

/-- **A step makes no record with an old identifier.** -/
theorem Confined.edit (h : Confined places id s) (he : Edit s s') : Confined places id s' := by
  have hdrawn : s.drawn ≤ s'.drawn := he.drawn
  refine ⟨fun n hn => h.unused n (by omega), fun x r hr hid => ?_⟩
  rcases he.record hr with ⟨old, hold, hsame, -⟩ | ⟨-, hnew, -⟩
  · have holdid : old.id = id := hsame.symm.trans hid
    exact h.places x old hold holdid
  · have hdrew : id = .drawn (s.drawn + 1) := hid.symm.trans hnew
    exact absurd hdrew (h.unused _ (by omega))

/-- In a store that files its records an identifier names one address. -/
theorem Filed.confined {address : String} {r : EmailRecord} (h : Filed s)
    (hr : s.emails.get? address = some r) : Confined (· = address) r.id s :=
  ⟨h.unused address r hr, fun x r' hr' hid => h.ids x address r' r hr' hr hid⟩

/-- An identifier whose only address has no record is gone. -/
theorem Confined.vacate {address : String} (h : Confined (· = address) id s)
    (hnone : s.emails.get? address = none) : Confined (fun _ => False) id s := by
  refine ⟨h.unused, fun x r hr hid => ?_⟩
  obtain rfl : x = address := h.places x r hr hid
  rw [hnone] at hr
  cases hr

end Store.Memory

/-! ### A claim among other requests -/

namespace Rehearsal
open Program (Exchange Hands)
open Registry (claimDetails)
open Store (Call Reply)
open Store.Memory (Confined Filed)

section Handed
variable {α : Type} {c : Crowd α} {k : Nat} {address : String}

/-- The code that the request at `k` hands to its sender in a turn, with the address. -/
def Crowd.handed? (k : Nat) (c : Crowd α) : Turn → Option (String × String)
  | .proceed j => if j = k then (c.program? k).bind Program.handed? else none
  | _ => none

/-- In the course of these turns the address is without a record. -/
def Crowd.Vacates (c : Crowd α) (address : String) (turns : List Turn) : Prop :=
  ∃ gap rest, turns = gap ++ rest ∧ (c.run gap).record? address = none

theorem Crowd.handed?_of_ne {t : Turn} (ht : t ≠ .proceed k) : c.handed? k t = none := by
  cases t with
  | proceed j => exact if_neg fun h => ht (congrArg Turn.proceed h)
  | _ => rfl

/-- A turn leads the request on by what it exchanges and hands over in it. -/
theorem Crowd.take_hands {p : Program α} (hp : c.program? k = some p) (t : Turn) :
    ∃ q, (c.take t).program? k = some q ∧
      Hands p (c.exchange? k t).toList (c.handed? k t).toList q := by
  by_cases ht : t = .proceed k
  · subst ht
    obtain ⟨participant, hplace, rfl⟩ : ∃ participant, c.participants[k]? = some participant ∧
        participant.program = p := by simpa [Crowd.program?] using hp
    have hhanded : c.handed? k (.proceed k) = participant.program.handed? := by
      simp only [Crowd.handed?, if_true, hp, Option.bind_some]
    rw [hhanded, Crowd.exchange?_proceed hplace, Crowd.take_proceed hplace]
    refine ⟨_, (Crowd.program?_set (w := c.world) hplace _ k).trans (if_pos rfl), ?_⟩
    unfold Participant.call? Participant.proceed
    cases hprogram : participant.program with
    | done outcome =>
      show Hands (.done outcome) [] [] participant.program
      rw [hprogram]
      exact .here
    | ask effect next =>
      -- nothing is left of the way after this effect
      have hend : ∀ sent : List (String × String), sent ++ [] = sent := List.append_nil
      cases effect with
      | store call => exact .call .here
      | _ =>
        rw [← hend (Option.toList _)]
        exact .aside (fun call hcall => by cases hcall) .here
  · rw [Crowd.exchange?_of_ne ht, Crowd.handed?_of_ne ht, Crowd.program?_of_ne ht]
    exact ⟨p, hp, .here⟩

theorem Crowd.run_hands {p : Program α} (hp : c.program? k = some p) (turns : List Turn) :
    ∃ q, (c.run turns).program? k = some q ∧
      Hands p (c.dialogue k turns) (c.collect (Crowd.handed? k) turns) q := by
  induction turns generalizing c p with
  | nil => exact ⟨p, hp, .here⟩
  | cons t rest ih =>
    obtain ⟨q, hq, hfirst⟩ := Crowd.take_hands hp t
    obtain ⟨r, hr, hrest⟩ := ih hq
    exact ⟨r, hr, hfirst.trans hrest⟩

/-- **The record that is found is the one from before exactly if the address was never vacated.** -/
theorem same_iff_not_vacated {account : Uuid} {r found : EmailRecord} {turns : List Turn}
    (hfiled : Filed c.world.memory) (hr : c.record? address = some r) (ho : r.owner = some account)
    (hfound : (c.run turns).record? address = some found) :
    (found.id = r.id ↔ ¬ c.Vacates address turns) ∧ (found.id = r.id → found.owner = some account) := by
  have hgone : c.Vacates address turns → found.id ≠ r.id := by
    rintro ⟨gap, rest, rfl, hnone⟩ hid
    have hgap : Confined (· = address) r.id (c.run gap).world.memory :=
      Crowd.run_edits (fun _ _ h he => h.edit he) (hfiled.confined hr) gap
    have hend : Confined (fun _ => False) r.id ((c.run gap).run rest).world.memory :=
      Crowd.run_edits (fun _ _ h he => h.edit he) (hgap.vacate hnone) rest
    rw [Crowd.run_append] at hfound
    exact hend.places address found hfound hid
  have hlasts : ¬ c.Vacates address turns → Persists r found :=
    fun h => (persists_or_vacant hr ho hfound).resolve_right h
  have hiff : found.id = r.id ↔ ¬ c.Vacates address turns :=
    ⟨fun hid hvacated => hgone hvacated hid, fun h => (hlasts h).id⟩
  exact ⟨hiff, fun hid => (hlasts (hiff.1 hid)).owner account ho⟩

end Handed

/-- After these turns the request writes `r`, and when the window is over it looks at the address
again and sees `found`. -/
structure Crowd.ReadsBack {α : Type} (c : Crowd α) (k : Nat) (address : String)
    (before window : List Turn) (r found : EmailRecord) : Prop where
  written : ((c.run before).take (.proceed k)).record? address = some r
  seen : (c.run (before ++ .proceed k :: window)).Sees k address (some found)

section ReadsBack
variable {α : Type} {c : Crowd α} {k : Nat} {account : Uuid} {address code : String}

/-- The turn in which a claim's write brings something stores the claimed record. -/
theorem stored_of_written {t : Turn} {look reply : Reply} {call : Call}
    (hx : c.exchange? k t = some (call, .ok reply))
    (hpick : Registry.Picks account address code look call) (hne : reply ≠ .nothing) :
    t = .proceed k ∧ ∃ r, reply = .ofRecord? (some r) ∧ (c.take t).record? address = some r ∧
      r.owner = some account ∧ r.verified = false := by
  obtain ⟨rfl, -, ⟨-, hanswer, hm⟩ | ⟨-, ⟨message, hrefused⟩, -⟩⟩ := Crowd.exchange?_cases hx
  · have hchoice := Registry.choice_of_written hpick hanswer.symm hne
    obtain ⟨r, hreply, hr, hclaimed⟩ := Registry.written_of_choice hchoice
    have hrecord : reply = .ofRecord? (some r) := Except.ok.inj (hanswer.trans hreply)
    have hstored : (c.take (.proceed k)).record? address = some r := by
      rw [Crowd.record?, hm]
      exact hr
    exact ⟨rfl, r, hrecord, hstored, hclaimed.owner, hclaimed.verified⟩
  · cases hrefused

/-- A dialogue that ends with a granted write and a look at a record is a write read back. -/
theorem reads_back {turns : List Turn} {first look reply : Reply} {call : Call}
    (hdialogue : c.dialogue k turns =
      [(.getEmail address, .ok first), (call, .ok reply), (.getEmail address, .ok look)])
    (hpick : Registry.Picks account address code first call) (hne : reply ≠ .nothing) :
    ∃ before window after r r?,
      turns = before ++ .proceed k :: (window ++ .proceed k :: after) ∧
      reply = .ofRecord? (some r) ∧ r.owner = some account ∧ r.verified = false ∧
      look = .ofRecord? r? ∧ ∀ found, r? = some found → c.ReadsBack k address before window r found := by
  obtain ⟨before, t, rest, rfl, -, hx, hrest⟩ := Crowd.collect_eq_append_cons
    (show _ = [_] ++ _ :: _ from hdialogue)
  obtain ⟨rfl, r, rfl, hr, ho, hv⟩ := stored_of_written hx hpick hne
  obtain ⟨window, u, after, rfl, -, hy, -⟩ := Crowd.collect_eq_append_cons
    (show _ = [] ++ _ :: _ from hrest)
  obtain ⟨rfl, r?, rfl, hsees, -⟩ := sees_of_exchange hy
  refine ⟨before, window, after, r, r?, rfl, rfl, ho, hv, rfl, ?_⟩
  rintro found rfl
  refine ⟨hr, ?_⟩
  rw [Crowd.run_append]
  exact hsees

end ReadsBack

/-- **Whose code a claim delivers.** A claim that returns a record has written it for its account,
has read the address again, and has delivered the one code that it read: the last code issued for
the address since, or the one that it wrote. This is a code of the claimed record exactly if the
address was never vacated between the write and the look, and then the record is still the
account's. -/
theorem delivered_code_of_claim (codeLength : Nat) (requests : List Request) {w : World}
    (hfiled : Filed w.memory) {k : Nat} {context : Context String} {sender : Sender}
    {account : Uuid} {email : String}
    (hk : requests[k]? = some ⟨context, .addEmail sender account email⟩) (turns : List Turn)
    {reply : Reply}
    (ho : ((Crowd.start codeLength requests w).run turns).outcome? k = some (.ok (.reply reply))) :
    let start := Crowd.start codeLength requests w
    let address := Address.normalize email
    ∃ before window after r found,
      turns = before ++ .proceed k :: (window ++ .proceed k :: after) ∧
      reply = .ofRecord? (some r) ∧ r.owner = some account ∧ r.verified = false ∧
      start.ReadsBack k address before window r found ∧
      start.collect (Crowd.handed? k) turns = [(address, found.code)] ∧
      let written := (start.run before).take (.proceed k)
      found.code = (written.collect (Crowd.issue? address) window).getLastD r.code ∧
      (found.id = r.id ↔ ¬ written.Vacates address window) ∧
      (found.id = r.id → found.owner = some account) := by
  intro start address
  have hbegin : start.program? k = _ := Crowd.program?_start hk w
  obtain ⟨q, hq, hway⟩ := Crowd.run_hands hbegin turns
  rw [Crowd.outcome?_eq_some_iff.1 ho] at hq
  cases hq
  obtain ⟨o, hway, hreply⟩ := Program.hands_map hway
  obtain rfl : o = .ok reply := by
    cases o with
    | error e => cases hreply
    | ok reply' =>
      cases hreply
      rfl
  obtain ⟨code, ys, look, value, hdialogue, hclaim, hvalue, hsent⟩ :=
    Verification.hands_addEmail hway
  obtain ⟨first, call, rfl, hpick, hne⟩ := Registry.claiming_granted hclaim
  obtain ⟨before, window, after, r, r?, hturns, hrecord, howner, hunverified, rfl, hback⟩ :=
    reads_back hdialogue hpick hne
  obtain ⟨found, rfl, rfl⟩ := Registry.codeOf_ofRecord? hvalue
  have hreads : start.ReadsBack k address before window r found := hback found rfl
  have hfound : (((start.run before).take (.proceed k)).run window).record? address = some found := by
    have hseen := hreads.seen.record
    rw [Crowd.run_append] at hseen
    exact hseen
  have hwritten : Filed ((start.run before).take (.proceed k)).world.memory := by
    rw [← Crowd.run_concat]
    exact Crowd.run_edits (fun _ _ h he => h.edit he) (show Filed start.world.memory from hfiled) _
  obtain ⟨hiff, hown⟩ := same_iff_not_vacated hwritten hreads.written howner hfound
  exact ⟨before, window, after, r, found, hturns, hrecord, howner, hunverified, hreads, hsent,
    run_code hreads.written window hfound, hiff, hown⟩

/-- The reply with which a request has ended, if it has ended so. -/
def replyOf? : Except Failure Result → Option Reply
  | .ok (.reply reply) => some reply
  | _ => none

theorem replyOf?_eq_some {outcome : Except Failure Result} {reply : Reply}
    (h : replyOf? outcome = some reply) : outcome = .ok (.reply reply) := by
  unfold replyOf? at h
  split at h
  · cases h
    rfl
  · cases h

/-- An account claims an address and removes it again, and another account claims it. -/
def reassigning : List Request :=
  [⟨.new "r" none, .addEmail .console ⟨1⟩ "a@x.com"⟩,
    ⟨.new "s" none, .remove ⟨1⟩ (.drawn 1)⟩,
    ⟨.new "t" none, .add ⟨2⟩ "a@x.com" "333333"⟩]

/-- The first claim has written when the others come, and reads the address after them. -/
def reassigned : List Turn :=
  [.proceed 0, .proceed 0, .proceed 0, .proceed 0, .proceed 1, .proceed 2, .proceed 2, .proceed 0,
    .proceed 0]

/-- **A claim delivers the code of another account's record** when its own is removed, and the
address claimed again, before it has read its code. -/
theorem delivered_code_of_another :
    let start := Crowd.start 6 reassigning ⟨.empty, 0, .standard, []⟩
    ∃ reply before window r found,
      (start.run reassigned).outcome? 0 = some (.ok (.reply reply)) ∧
      reply = .ofRecord? (some r) ∧ r.owner = some ⟨1⟩ ∧
      start.ReadsBack 0 "a@x.com" before window r found ∧ found.owner = some ⟨2⟩ ∧
      start.collect (Crowd.handed? 0) reassigned = [("a@x.com", found.code)] ∧
      ((start.run before).take (.proceed 0)).Vacates "a@x.com" window := by
  intro start
  obtain ⟨outcome, hend, hreturned⟩ : ∃ outcome, (start.run reassigned).outcome? 0 = some outcome ∧
      replyOf? outcome =
        some (.ofRecord? (some ⟨.drawn 1, "a@x.com", some ⟨1⟩, "123456", false⟩)) :=
    Option.bind_eq_some_iff.1
      (show ((start.run reassigned).outcome? 0).bind replyOf? = _ by decide +kernel)
  obtain rfl := replyOf?_eq_some hreturned
  have hhanded : start.collect (Crowd.handed? 0) reassigned = [("a@x.com", "333333")] := by
    decide +kernel
  -- in this run the code is that of the other account only
  have hother : ∀ past ∈ reassigned.inits, ∀ r ∈ (start.run past).record? "a@x.com",
      r.code = "333333" → r.owner = some ⟨2⟩ := by decide +kernel
  have haddress : Address.normalize "a@x.com" = "a@x.com" := by decide +kernel
  have hclaim := delivered_code_of_claim 6 reassigning (w := ⟨.empty, 0, .standard, []⟩)
    (Store.Memory.filed_of_no_records rfl) (k := 0) rfl reassigned hend
  simp only [haddress] at hclaim
  obtain ⟨before, window, after, r, found, hturns, hreply, howner, -, hreads, hsent, -, hiff, hown⟩ :=
    hclaim
  have hcode : found.code = "333333" := by
    have hsame : [("a@x.com", found.code)] = [("a@x.com", "333333")] := hsent.symm.trans hhanded
    simpa using hsame
  have hfound : found.owner = some ⟨2⟩ := by
    refine hother (before ++ .proceed 0 :: window) ?_ found hreads.seen.record hcode
    rw [List.mem_inits]
    exact ⟨.proceed 0 :: after, by rw [hturns]; simp⟩
  refine ⟨_, before, window, r, found, hend, hreply, howner, hreads, hfound, hsent, ?_⟩
  by_contra hkept
  have hsame := hown (hiff.2 hkept)
  rw [hfound] at hsame
  exact absurd hsame (by decide)

end Rehearsal
end EmailOwnership
