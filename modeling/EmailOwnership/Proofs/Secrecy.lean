import EmailOwnership.Proofs.Api.Alike

/-! Verification codes do not show.

Two runs of the service over worlds that differ in codes alone, with any digits to draw from
and codes of any two lengths, cannot be told apart by answers or by the log, the sender's own
lines apart, as long as nobody submits a code (`codes_stay_secret`). What is left differs in
codes alone again. -/
namespace EmailOwnership.Api
open Http
open Rehearsal
open Program (alike_run agree_eq)
variable {n : Nat} {w w' : World}

/-- One request is answered the same, and leaves worlds that are alike. -/
theorem exchange_alike (settings : Settings) (hn : 1 ≤ n) (hw : w.Alike w') (pace : Pace)
    {request : Http.Request}
    (hroute : route request.method request.path ≠ .ok .verifyEmail) :
    let answered := exchange settings pace.interposition request w
    let answered' := exchange (settings.withCodeLength n hn) pace.interposition request w'
    answered.1 = answered'.1 ∧ answered.2.Alike answered'.2 := by
  have hcontext : (contextOf settings w.clock request : Context String) =
      contextOf (settings.withCodeLength n hn) w'.clock request := by
    simp only [contextOf, Settings.withCodeLength, hw.clock]
  obtain ⟨houtcome, hsession⟩ := alike_run pace .console (alike_respond settings hn hroute)
    (Session.alike_start hw (contextOf settings w.clock request))
  obtain ⟨response, session, hrun, hanswered⟩ := exchange_run settings pace.interposition request w
  obtain ⟨response', session', hrun', hanswered'⟩ :=
    exchange_run (settings.withCodeLength n hn) pace.interposition request w'
  rw [← hcontext] at hrun'
  rw [hrun, hrun'] at houtcome hsession
  rw [hanswered, hanswered']
  exact ⟨Except.ok.inj (agree_eq.1 houtcome), hsession.world⟩

/-- **No answer and no line of the log shows a code.** Over worlds that differ in codes alone,
with other digits to draw from and codes of another length, requests in turn that verify no code
are answered the same. They leave the same lines in the log, but for the codes in the sender's,
and stores that differ in codes alone. -/
theorem codes_stay_secret (settings : Settings) (hn : 1 ≤ n) (hw : w.Alike w')
    {arrivals : List Arrival}
    (hroute : ∀ a ∈ arrivals, route a.request.method a.request.path ≠ .ok .verifyEmail) :
    let ended := exchangeAll settings arrivals w
    let ended' := exchangeAll (settings.withCodeLength n hn) arrivals w'
    ended.1 = ended'.1 ∧ ended.2.Alike ended'.2 := by
  induction arrivals generalizing w w' with
  | nil => exact ⟨rfl, hw⟩
  | cons a rest ih =>
    obtain ⟨hanswer, hleft⟩ := exchange_alike settings hn (hw.wait a.after) a.pace
      (hroute a (List.mem_cons_self ..))
    simp only [exchangeAll]
    generalize exchange settings a.pace.interposition a.request (w.wait a.after) = answered
      at hanswer hleft ⊢
    generalize exchange (settings.withCodeLength n hn) a.pace.interposition a.request
      (w'.wait a.after) = answered' at hanswer hleft ⊢
    obtain ⟨hanswers, hend⟩ := ih hleft fun b hb => hroute b (List.mem_cons_of_mem _ hb)
    exact ⟨by rw [hanswer, hanswers], hend⟩

/-! ### Two supplies of digits -/

/-- Settings under which an administrator can be told by a token. -/
def guarded : Settings := {Settings.default with adminToken := "t"}

/-- One unowned record with this code, and digits to draw from. -/
def oneUnowned (code : String) (supply : List Int) : World where
  memory := Store.Memory.putRecord ⟨⟨1⟩, "a@x.com", none, code, false⟩ .empty
  clock := 0
  digits := ⟨supply, 0⟩
  log := []

/-- An administrator's request for a record of the address that the body names. -/
def provisions (body : String) : Http.Request :=
  ⟨"POST", "/v1/admin/emails", [], [("x-admin-token", "t"), ("content-type", "application/json")],
    body⟩

/-- Requests for a known and for an unknown address. -/
def twoProvisions : List Arrival :=
  [⟨none, provisions "\x7b\"email\": \"a@x.com\"\x7d", .steady⟩,
    ⟨some 1, provisions "\x7b\"email\": \"b@x.com\"\x7d", .steady⟩]

/-- Two runs with other codes of other lengths answer the same, and keep their own codes. -/
theorem codes_stay_secret_provisions :
    let ended := exchangeAll guarded twoProvisions (oneUnowned "111111" [1, 2, 3])
    let ended' := exchangeAll (guarded.withCodeLength 8 (by decide)) twoProvisions
      (oneUnowned "222222" [4, 5])
    (ended.1 = ended'.1 ∧ ended.2.Alike ended'.2) ∧
      ended.1.map Response.status = [409, 201] ∧
      (ended.2.memory.emails.get? "b@x.com").map EmailRecord.code = some "123123" ∧
      (ended'.2.memory.emails.get? "b@x.com").map EmailRecord.code = some "45454545" := by
  have halike : (oneUnowned "111111" [1, 2, 3]).Alike (oneUnowned "222222" [4, 5]) := ⟨rfl, rfl, rfl⟩
  have hroute : ∀ a ∈ twoProvisions, route a.request.method a.request.path ≠ .ok .verifyEmail := by
    have hprovision (body : String) :
        route (provisions body).method (provisions body).path ≠ .ok .verifyEmail := by
      show route "POST" "/v1/admin/emails" ≠ _
      decide +kernel
    intro a ha
    simp only [twoProvisions, List.mem_cons, List.not_mem_nil, or_false] at ha
    rcases ha with rfl | rfl
    · exact hprovision _
    · exact hprovision _
  refine ⟨codes_stay_secret guarded (by decide) halike hroute, ?_⟩
  decide +kernel

end EmailOwnership.Api
