import EmailOwnership.Proofs.Representation
import EmailOwnership.Proofs.Text.Lowered

/-! The normal form of addresses.

Stripping and then lowering a text gives an address that neither changes again, so the normal
form of an address is its own (`Address.normalize_normalize`). Records come into being under
addresses that a call brings. The verification flow brings normal forms only, so whoever uses the
registry and the store with normal addresses finds nothing else in the store
(`Store.Memory.NormalSince.grows`). And since the flow reads no text but for its normal form, two
spellings of one address make one program (`Action.Respelled.program?`): whole histories are the
same, whichever was given (`normal_form_is_canonical`). -/
namespace EmailOwnership

/-! ### Texts -/

namespace Address

theorem toList_normalize (email : String) :
    (normalize email).toList = Text.lower (Text.strip email.toList) := String.toList_ofList

theorem stripped_normalize (email : String) : Text.Stripped (normalize email).toList := by
  rw [toList_normalize]
  exact (Text.stripped_strip _).lower

theorem lower_normalize (email : String) :
    Text.lower (normalize email).toList = (normalize email).toList := by
  rw [toList_normalize, Text.lower_lower]

theorem normalize_normalize (email : String) : normalize (normalize email) = normalize email := by
  rw [normalize, Text.strip_of_stripped (stripped_normalize email), lower_normalize,
    String.ofList_toList]

/-- The dotted capital I becomes two characters, and a sigma that ends a word has its own form. -/
example : normalize " \u0130\u03a3@X.com\n" = "i\u0307\u03c2@x.com" := by decide +kernel

end Address

/-! ### Addresses in the store -/

namespace Store

/-- The address at which a call is to create a record. -/
def Call.created? : Call → Option String
  | .createEmail address _ _ => some address
  | _ => none

/-- The call creates a record at a normal address, if at all. -/
def Call.Normal (c : Call) : Prop := ∀ address ∈ c.created?, Address.normalize address = address

namespace Memory

/-- Every record stands under its own normal address, or has had its place and address before. -/
def NormalSince (before s : State) : Prop :=
  ∀ x r, s.emails.get? x = some r → r.address = x ∧ Address.normalize x = x ∨
    ∃ old, before.emails.get? x = some old ∧ old.address = r.address

theorem NormalSince.refl (s : State) : NormalSince s s := fun _ r hr => .inr ⟨r, hr, rfl⟩

/-- Where calls bring normal addresses only, all that comes into being has one. -/
theorem NormalSince.grows {before s s' : State} (h : NormalSince before s)
    (hg : Grows Call.Normal s s') : NormalSince before s' := by
  cases hg with
  | kept => exact h
  | seeded hs =>
    rw [NormalSince, hs.emails]
    exact h
  | @step c hc =>
    intro x r hr
    have hchange := (step_transition c s).change x
    generalize hold : s.emails.get? x = old at hchange
    rw [hr] at hchange
    cases hchange with
    | kept => exact h x r hold
    | created hmade =>
      cases hmade
      exact .inl ⟨rfl, hc x rfl⟩
    -- every other change leaves the address of the record as it is
    | @claimed old => exact h x old hold
    | @reissued old => exact h x old hold
    | @verified old => exact h x old hold

end Memory
end Store

namespace Rehearsal
open Store (Call)
open Store.Memory (NormalSince)

/-- The address that an action brings to the registry or to the store as it is. -/
def Action.brings? : Action → Option String
  | .add _ address _ | .provision address _ => some address
  | .store c => c.created?
  | _ => none

/-- The action brings a normal address, or leaves it to the verification flow to make it one. -/
def Action.Normal (a : Action) : Prop :=
  ∀ address ∈ a.brings?, Address.normalize address = address

def Moment.Normal : Moment → Prop
  | .visit v => v.action.Normal
  | .turn _ => True

theorem Action.Writes.normal {a : Action} {c : Call} (h : a.Writes c) (ha : a.Normal) :
    c.Normal := by
  induction h with
  | store | create | provision => exact ha
  | addEmail _ ih | provisionEmail _ ih =>
    refine ih fun address haddress => ?_
    cases haddress
    exact Address.normalize_normalize _
  | verifyEmail _ ih | removeEmail _ ih => exact ih fun _ hnone => nomatch hnone
  | takeOver | reissue | verify | remove => exact fun _ hnone => nomatch hnone

theorem start_asks_normal {requests : List Request} (h : ∀ r ∈ requests, r.action.Normal)
    (codeLength : Nat) (w : World) : (Crowd.start codeLength requests w).Asks Call.Normal :=
  asks_start fun r hr _ hp => (Action.program_writes hp).imp fun _ hc => hc.normal (h r hr)

theorem Moment.asks_normal {m : Moment} (h : m.injects = false) (hm : m.Normal) (codeLength : Nat) :
    m.Asks Call.Normal codeLength := by
  refine ⟨h, fun v hv requestId p hp => ?_⟩
  subst hv
  exact (Action.program_writes hp).imp fun _ hc => hc.normal hm

/-! ### Spellings -/

/-- The same action, with its address in another spelling that has the same normal form. -/
inductive Action.Respelled : Action → Action → Prop
  | same {a : Action} : Respelled a a
  | addEmail {sender : Sender} {account : Uuid} {s s' : String} :
    Address.normalize s = Address.normalize s' →
    Respelled (.addEmail sender account s) (.addEmail sender account s')
  | verifyEmail {s s' code : String} : Address.normalize s = Address.normalize s' →
    Respelled (.verifyEmail s code) (.verifyEmail s' code)
  | provisionEmail {s s' : String} : Address.normalize s = Address.normalize s' →
    Respelled (.provisionEmail s) (.provisionEmail s')
  | accountForEmail {s s' : String} : Address.normalize s = Address.normalize s' →
    Respelled (.accountForEmail s) (.accountForEmail s')

structure Visit.Respelled (v v' : Visit) : Prop where
  context : v.context = v'.context
  action : v.action.Respelled v'.action

structure Request.Respelled (r r' : Request) : Prop where
  context : r.context = r'.context
  action : r.action.Respelled r'.action

inductive Moment.Respelled : Moment → Moment → Prop
  | visit {v v' : Visit} : v.Respelled v' → Respelled (.visit v) (.visit v')
  | turn {t : Turn} : Respelled (.turn t) (.turn t)

section Respelled
variable {codeLength : Nat}

/-- **Two spellings of an address make one program.** -/
theorem Action.Respelled.program? {a a' : Action} (h : a.Respelled a') (requestId : String) :
    a.program? requestId codeLength = a'.program? requestId codeLength := by
  cases h with
  | same => rfl
  | addEmail hs => simp only [Action.program?, Verification.addEmail, hs]
  | verifyEmail hs => simp only [Action.program?, Verification.verifyEmail, hs]
  | provisionEmail hs => simp only [Action.program?, Verification.provisionEmail, hs]
  | accountForEmail hs => simp only [Action.program?, Verification.accountForEmail, hs]

theorem Action.Respelled.sender {a a' : Action} (h : a.Respelled a') : a.sender = a'.sender := by
  cases h <;> rfl

theorem Action.Respelled.apply {a a' : Action} (h : a.Respelled a') : a.apply = a'.apply := by
  cases h <;> rfl

theorem Visit.Respelled.perform {v v' : Visit} (h : v.Respelled v') :
    v.perform codeLength = v'.perform codeLength := by
  funext w
  simp only [Visit.perform, h.context, h.action.program?, h.action.sender, h.action.apply]

theorem Request.Respelled.begin {r r' : Request} (h : r.Respelled r') :
    r.begin codeLength = r'.begin codeLength := by
  simp only [Request.begin, h.context, h.action.program?, h.action.sender]

theorem Moment.Respelled.pass {m m' : Moment} (h : m.Respelled m') (c : Crowd Result) :
    c.pass codeLength m = c.pass codeLength m' := by
  cases h with
  | visit hv => simp only [Crowd.pass, hv.perform]
  | turn => rfl

theorem start_respelled {requests requests' : List Request}
    (h : List.Forall₂ Request.Respelled requests requests') (w : World) :
    Crowd.start codeLength requests w = Crowd.start codeLength requests' w := by
  have hbegin : requests.map (Request.begin codeLength) =
      requests'.map (Request.begin codeLength) := by
    induction h with
    | nil => rfl
    | cons hr _ ih => rw [List.map_cons, List.map_cons, hr.begin, ih]
  rw [Crowd.start, Crowd.start, hbegin]

theorem history_respelled {past past' : List Moment}
    (h : List.Forall₂ Moment.Respelled past past') (c : Crowd Result) :
    c.history codeLength past = c.history codeLength past' := by
  induction h generalizing c with
  | nil => rfl
  | cons hm _ ih =>
    simp only [Crowd.history, List.foldl_cons]
    rw [hm.pass]
    exact ih _

end Respelled

/-- **The normal form of an address is canonical.** Whatever the text, its normal form is its own
normal form, has no blank at either end and is in lower case. Whatever is called and however calls
interleave, a record stands under its own address, which is its own normal form, unless its place
had this address from the beginning; only who goes around the verification flow has to bring normal
addresses. And to the flow a text is its normal form: another spelling makes the same program for
whatever answers it, the same answer, and the same history, with its store and its deliveries. -/
theorem normal_form_is_canonical (codeLength : Nat) (requests : List Request) (w : World)
    (past : List Moment) :
    let now := (Crowd.start codeLength requests w).history codeLength past
    (∀ email, let address := Address.normalize email
      Address.normalize address = address ∧ Text.Stripped address.toList ∧
        Text.lower address.toList = address.toList) ∧
    ((∀ r ∈ requests, r.action.Normal) → (∀ m ∈ past, m.Normal ∧ m.injects = false) →
      ∀ x r, now.record? x = some r → r.address = x ∧ Address.normalize x = x ∨
        ∃ old, w.memory.emails.get? x = some old ∧ old.address = r.address) ∧
    (∀ a a' : Action, a.Respelled a' → ∀ requestId,
      a.program? requestId codeLength = a'.program? requestId codeLength) ∧
    (∀ v v' : Visit, v.Respelled v' → v.perform codeLength = v'.perform codeLength) ∧
    ∀ requests' past', List.Forall₂ Request.Respelled requests requests' →
      List.Forall₂ Moment.Respelled past past' →
      now = (Crowd.start codeLength requests' w).history codeLength past' := by
  intro now
  refine ⟨fun email => ?_, fun hrequests hpast => ?_, fun _ _ h requestId => h.program? requestId,
    fun _ _ h => h.perform, fun requests' past' hrequests hpast => ?_⟩
  · exact ⟨Address.normalize_normalize email, Address.stripped_normalize email,
      Address.lower_normalize email⟩
  · exact history_invariant (I := NormalSince w.memory) (fun _ _ h hg => h.grows hg)
      (start_asks_normal hrequests codeLength w)
      (fun m hm => Moment.asks_normal (hpast m hm).2 (hpast m hm).1 codeLength)
      (NormalSince.refl w.memory)
  · rw [← start_respelled hrequests]
    exact history_respelled hpast _

/-- An account claims an address and verifies it, with the text given each time. -/
def claimedAndVerified (email : String) : List Moment :=
  [.visit ⟨.addAccount "alice" none (some ⟨1⟩), .plain⟩,
    .visit ⟨.addEmail .console ⟨1⟩ email, .plain⟩,
    .visit ⟨.verifyEmail email "123456", .plain⟩]

/-- A sigma at the end of a word, in capitals between blanks, is stored as the final sigma, and
verified there whichever spelling is given. -/
theorem normal_form_is_canonical_sigma :
    let start := Crowd.start 6 [] ⟨.empty, 0, .standard, []⟩
    let now := start.history 6 (claimedAndVerified " \u039f\u03a3@X.com\n")
    let x := "\u03bf\u03c2@x.com"
    Address.normalize " \u039f\u03a3@X.com\n" = x ∧ Address.normalize x = x ∧
    now = start.history 6 (claimedAndVerified x) ∧
    now.record? x = some ⟨.drawn 1, x, some ⟨1⟩, "123456", true⟩ ∧
    now.world.deliveries = [(x, "123456")] := by
  intro start now x
  have hspelled : Address.normalize " \u039f\u03a3@X.com\n" = x := by decide +kernel
  have hcanonical := normal_form_is_canonical 6 [] ⟨.empty, 0, .standard, []⟩
    (claimedAndVerified " \u039f\u03a3@X.com\n")
  obtain ⟨hnormal, -, -, -, hhistory⟩ := hcanonical
  have hx : Address.normalize x = x := hspelled ▸ (hnormal " \u039f\u03a3@X.com\n").1
  have hsame : Address.normalize " \u039f\u03a3@X.com\n" = Address.normalize x := by
    rw [hspelled, hx]
  refine ⟨hspelled, hx, hhistory [] _ .nil ?_, by decide +kernel, by decide +kernel⟩
  exact .cons (.visit ⟨rfl, .same⟩) <| .cons (.visit ⟨rfl, .addEmail hsame⟩) <|
    .cons (.visit ⟨rfl, .verifyEmail hsame⟩) .nil

end Rehearsal
end EmailOwnership
