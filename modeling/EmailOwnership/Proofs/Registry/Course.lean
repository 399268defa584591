import EmailOwnership.Proofs.Program.Dialogue
import EmailOwnership.Proofs.Registry.Outcome
import EmailOwnership.Rehearsal.Step

/-! The ways that a registry operation can go.

Whatever a store answers, an operation asks it as the tables here say and ends as they say.
Six of the seven operations make one call, and what that is answered settles them (`Single`). A
claim looks, makes the one write that it picks by what it saw
(`Picks`), and looks again only after a new code that matched nothing (`Claiming`). -/
namespace EmailOwnership.Registry
open Program (Exchange Ends ends_done ends_call ends_of_settled ends_bind)
open Store (Call Fault Reply)
variable {α : Type} {operation requestId address code : String} {details : Details}
  {account : Uuid} {xs : List Exchange}

/-! ### One call -/

/-- The failure of a refusal. -/
def refusal (r : Refusal) (details : Details) : Failure :=
  .registry ⟨r.kind, r.message, details, none⟩

/-- The kind of the registry's error in which an operation ended, if it ended so. -/
def errorKind? : Except Failure α → Option ErrorKind
  | .error (.registry e) => some e.kind
  | _ => none

theorem errorKind?_map {β : Type} (f : α → β) (o : Except Failure α) :
    errorKind? (o.map f) = errorKind? o := by
  cases o with
  | ok a => rfl
  | error e => cases e <;> rfl

theorem errorKind?_raised {fault : Fault} {kind : ErrorKind}
    (h : errorKind? (.error (raised details fault) : Except Failure α) = some kind) :
    kind = .internal := by
  unfold raised at h
  split at h <;> cases h
  rfl

/-- A stored call is answered first; a fault ends the operation. -/
theorem ends_stored {c : Call} {f : Reply → Program α} {o : Except Failure α}
    (h : Ends (stored operation details c >>= f) xs o) :
    (∃ fault, xs = [(c, .error fault)] ∧ o = .error (raised details fault)) ∨
      ∃ reply ys, xs = (c, .ok reply) :: ys ∧ Ends (f reply) ys o := by
  rw [stored_bind] at h
  obtain ⟨answer, ys, hxs, hrest⟩ := ends_call h
  cases answer with
  | ok reply => exact .inr ⟨reply, ys, hxs, hrest⟩
  | error fault =>
    obtain ⟨rfl, ho⟩ := ends_of_settled (report_settled operation details fault) hrest
    exact .inl ⟨fault, hxs, ho⟩

/-- The ways of an operation that makes one call: its fault, or what its reply settles. -/
inductive Single (details : Details) (c : Call) (outcome : Reply → Except Failure α) :
    List Exchange → Except Failure α → Prop
  | faulty {fault : Fault} :
    Single details c outcome [(c, .error fault)] (.error (raised details fault))
  | answered {reply : Reply} : Single details c outcome [(c, .ok reply)] (outcome reply)

/-- Where the reply settles what follows, the call is the only one. -/
theorem ends_single {c : Call} {f : Reply → Program α} {outcome : Reply → Except Failure α}
    {o : Except Failure α} (h : Ends (stored operation details c >>= f) xs o)
    (hf : ∀ reply, (f reply).settled? = some (outcome reply)) : Single details c outcome xs o := by
  rcases ends_stored h with ⟨fault, rfl, rfl⟩ | ⟨reply, ys, rfl, hrest⟩
  · exact .faulty
  · obtain ⟨rfl, rfl⟩ := ends_of_settled (hf reply) hrest
    exact .answered

/-- A field is read off the reply, or is not there. -/
theorem ends_fieldOf {reply : Reply} {field : Reply.Field} {f : Store.Value → Program α}
    {o : Except Failure α} (h : Ends (Program.fieldOf reply field >>= f) xs o) :
    (reply.field? field = none ∧ xs = [] ∧ o = .error (.missingField reply.kind field.name)) ∨
      ∃ v, reply.field? field = some v ∧ Ends (f v) xs o := by
  unfold Program.fieldOf at h
  cases hfield : reply.field? field with
  | none =>
    rw [hfield] at h
    obtain ⟨rfl, rfl⟩ := ends_done.1 h
    exact .inl ⟨rfl, rfl, rfl⟩
  | some v =>
    rw [hfield] at h
    exact .inr ⟨v, rfl, h⟩

/-! ### Claims -/

/-- The write that a claim picks by what its look brought. -/
inductive Picks (account : Uuid) (address code : String) : Reply → Call → Prop
  | create : Picks account address code .nothing (.createEmail address (some account) code)
  | takeOver {look : Reply} :
    look.field? .owner = some .null →
    Picks account address code look (.claimUnowned address account code)
  | reissue {look : Reply} {verified : Store.Value} :
    look.field? .owner = some (.uuid account) → look.field? .verified = some verified →
    verified.isTrue = false → Picks account address code look (.reissueCode address account code)

/-- What a claim that wrote nothing new makes of its second look. -/
inductive Rereads (details : Details) : Reply → Failure → Prop
  | gone : Rereads details .nothing (refusal .changed details)
  | verified {look : Reply} {verified : Store.Value} :
    look.field? .verified = some verified → verified.isTrue = true →
    Rereads details look (refusal .verified details)
  | unverified {look : Reply} {verified : Store.Value} :
    look.field? .verified = some verified → verified.isTrue = false →
    Rereads details look (refusal .changed details)
  | illegible {look : Reply} : look ≠ .nothing → look.field? .verified = none →
    Rereads details look (.missingField look.kind Reply.Field.verified.name)

/-- The ways of a claim: its exchanges with the store, and how it ends. -/
inductive Claiming (details : Details) (account : Uuid) (address code : String) :
    List Exchange → Except Failure Reply → Prop
  | unread {fault : Fault} :
    Claiming details account address code [(.getEmail address, .error fault)]
      (.error (raised details fault))
  | illegible {look : Reply} {field : Reply.Field} : look ≠ .nothing → look.field? field = none →
    Claiming details account address code [(.getEmail address, .ok look)]
      (.error (.missingField look.kind field.name))
  | foreign {look : Reply} {owner : Store.Value} :
    look.field? .owner = some owner → owner ≠ .null → owner ≠ .uuid account →
    Claiming details account address code [(.getEmail address, .ok look)]
      (.error (refusal .claimed details))
  | verified {look : Reply} {verified : Store.Value} :
    look.field? .owner = some (.uuid account) → look.field? .verified = some verified →
    verified.isTrue = true →
    Claiming details account address code [(.getEmail address, .ok look)]
      (.error (refusal .verified details))
  -- from here on the claim asks for its write
  | unwritten {look : Reply} {c : Call} {fault : Fault} : Picks account address code look c →
    Claiming details account address code [(.getEmail address, .ok look), (c, .error fault)]
      (.error (raised details fault))
  | granted {look written : Reply} {c : Call} : Picks account address code look c →
    written ≠ .nothing →
    Claiming details account address code [(.getEmail address, .ok look), (c, .ok written)]
      (.ok written)
  | lost {look : Reply} {c : Call} : Picks account address code look c →
    c ≠ .reissueCode address account code →
    Claiming details account address code [(.getEmail address, .ok look), (c, .ok .nothing)]
      (.error (refusal .claimed details))
  | unreread {look : Reply} {fault : Fault} :
    Picks account address code look (.reissueCode address account code) →
    Claiming details account address code
      [(.getEmail address, .ok look), (.reissueCode address account code, .ok .nothing),
        (.getEmail address, .error fault)]
      (.error (raised details fault))
  | reread {look again : Reply} {e : Failure} :
    Picks account address code look (.reissueCode address account code) →
    Rereads details again e →
    Claiming details account address code
      [(.getEmail address, .ok look), (.reissueCode address account code, .ok .nothing),
        (.getEmail address, .ok again)]
      (.error e)

section Claims
variable {o : Except Failure Reply} {look : Reply}

/-- The write of a claim fails, or goes through, or matches nothing. -/
theorem ends_picked {c : Call} (hpick : Picks account address code look c)
    {f : Reply → Program Reply} (h : Ends (stored "add" details c >>= f) xs o)
    (hf : ∀ reply, reply ≠ .nothing → (f reply).settled? = some (.ok reply)) :
    Claiming details account address code ((.getEmail address, .ok look) :: xs) o ∨
      ∃ ys, xs = (c, .ok .nothing) :: ys ∧ Ends (f .nothing) ys o := by
  rcases ends_stored h with ⟨fault, rfl, rfl⟩ | ⟨written, ys, rfl, hrest⟩
  · exact .inl (.unwritten hpick)
  · by_cases hwritten : written = .nothing
    · subst hwritten
      exact .inr ⟨ys, rfl, hrest⟩
    · obtain ⟨rfl, rfl⟩ := ends_of_settled (hf written hwritten) hrest
      exact .inl (.granted hpick hwritten)

/-- A first claim that matches nothing is lost. -/
theorem ends_first {c : Call} (hpick : Picks account address code look c)
    (hc : c ≠ .reissueCode address account code) {f : Reply → Program Reply}
    (h : Ends (stored "add" details c >>= f) xs o)
    (hlost : (f .nothing).settled? = some (.error (refusal .claimed details)))
    (hf : ∀ reply, reply ≠ .nothing → (f reply).settled? = some (.ok reply)) :
    Claiming details account address code ((.getEmail address, .ok look) :: xs) o := by
  rcases ends_picked hpick h hf with hway | ⟨ys, rfl, hrest⟩
  · exact hway
  · obtain ⟨rfl, rfl⟩ := ends_of_settled hlost hrest
    exact .lost hpick hc

theorem codeLost_known (hlook : look ≠ .nothing) :
    codeLost details address look = (do
      let verified ← Program.fieldOf look .verified
      if verified.isTrue then refuse .verified details
      else
        Program.log (.changedWhileReissuing address)
        refuse .changed details) := by
  unfold codeLost
  split
  · exact absurd rfl hlook
  · rfl

/-- A refusal after an entry in the log. -/
theorem ends_refused {entry : Log.Entry} {r : Refusal}
    (h : Ends (do Program.log entry; refuse r details) xs o) :
    xs = [] ∧ o = .error (refusal r details) := ends_of_settled rfl h

theorem ends_codeLost (h : Ends (codeLost details address look) xs o) :
    xs = [] ∧ ∃ e, o = .error e ∧ Rereads details look e := by
  by_cases hlook : look = .nothing
  · subst hlook
    obtain ⟨rfl, rfl⟩ := ends_refused h
    exact ⟨rfl, _, rfl, .gone⟩
  · rw [codeLost_known hlook] at h
    rcases ends_fieldOf h with ⟨hfield, rfl, rfl⟩ | ⟨verified, hfield, hrest⟩
    · exact ⟨rfl, _, rfl, .illegible hlook hfield⟩
    · split at hrest
      · rename_i hv
        obtain ⟨rfl, rfl⟩ := ends_done.1 hrest
        exact ⟨rfl, _, rfl, .verified hfield hv⟩
      · rename_i hv
        obtain ⟨rfl, rfl⟩ := ends_refused hrest
        exact ⟨rfl, _, rfl, .unverified hfield (Bool.eq_false_iff.2 hv)⟩

theorem ends_reissue (hpick : Picks account address code look (.reissueCode address account code))
    (h : Ends (reissue details account address code) xs o) :
    Claiming details account address code ((.getEmail address, .ok look) :: xs) o := by
  unfold reissue at h
  rcases ends_picked hpick h fun reply hreply => by
    split
    · exact absurd rfl hreply
    · rfl
  with hway | ⟨ys, rfl, hrest⟩
  · exact hway
  · rcases ends_stored hrest with ⟨fault, rfl, rfl⟩ | ⟨again, zs, rfl, hlast⟩
    · exact .unreread hpick
    · obtain ⟨rfl, e, rfl, hread⟩ := ends_codeLost hlast
      exact .reread hpick hread

theorem claim_known (hlook : look ≠ .nothing) :
    claim details account address code look = (do
      let owner ← Program.fieldOf look .owner
      if owner = .null then takeOver details account address code
      else if owner ≠ .uuid account then refuse .claimed details
      else
        let verified ← Program.fieldOf look .verified
        if verified.isTrue then refuse .verified details
        else reissue details account address code) := by
  unfold claim
  split
  · exact absurd rfl hlook
  · rfl

theorem ends_claim (h : Ends (claim details account address code look) xs o) :
    Claiming details account address code ((.getEmail address, .ok look) :: xs) o := by
  by_cases hlook : look = .nothing
  · subst hlook
    refine ends_first .create (by simp) h rfl fun reply hreply => ?_
    split
    · exact absurd rfl hreply
    · rfl
  · rw [claim_known hlook] at h
    rcases ends_fieldOf h with ⟨howner, rfl, rfl⟩ | ⟨owner, howner, h⟩
    · exact .illegible hlook howner
    · split at h
      · rename_i hnull
        subst hnull
        refine ends_first (.takeOver howner) (by simp) h rfl fun reply hreply => ?_
        split
        · exact absurd rfl hreply
        · rfl
      · rename_i hnull
        split at h
        · rename_i hforeign
          obtain ⟨rfl, rfl⟩ := ends_done.1 h
          exact .foreign howner hnull hforeign
        · rename_i hown
          obtain rfl := Decidable.of_not_not hown
          rcases ends_fieldOf h with ⟨hverified, rfl, rfl⟩ | ⟨verified, hverified, h⟩
          · exact .illegible hlook hverified
          · split at h
            · rename_i hv
              obtain ⟨rfl, rfl⟩ := ends_done.1 h
              exact .verified howner hverified hv
            · rename_i hv
              exact ends_reissue (.reissue howner hverified (Bool.eq_false_iff.2 hv)) h

/-- **A claim goes one of the ways of `Claiming`**, or brings no code and asks for nothing. -/
theorem ends_add (h : Ends (add requestId account address code) xs o) :
    code = "" ∧ xs = [] ∧ o = .error .emptyCode ∨
      Claiming (claimDetails requestId account address) account address code xs o := by
  by_cases hcode : code = ""
  · subst hcode
    obtain ⟨rfl, rfl⟩ := ends_done.1 h
    exact .inl ⟨rfl, rfl, rfl⟩
  · rw [add_of_code hcode] at h
    rcases ends_stored h with ⟨fault, rfl, rfl⟩ | ⟨look, ys, rfl, hrest⟩
    · exact .inr .unread
    · exact .inr (ends_claim hrest)

end Claims
/-! ### The other operations -/

section Others

/-- What a provisioning makes of its reply. -/
def provisioned (details : Details) (reply : Reply) : Except Failure Reply :=
  if reply = .nothing then .error (refusal .known details) else .ok reply

/-- The code in a reply, which must have one. -/
def codeOf (details : Details) (reply : Reply) : Except Failure Store.Value :=
  if reply = .nothing then .error (refusal .missing details)
  else match reply.field? .code with
    | some code => .ok code
    | none => .error (.missingField reply.kind Reply.Field.code.name)

/-- What a verification makes of the count of marked records. -/
def marked (details : Details) (affected : Reply) : Except Failure Unit :=
  if affected.isZero then .error (refusal .notOwned details) else .ok ()

theorem ends_provision {o : Except Failure Reply}
    (h : Ends (provision requestId address code) xs o) :
    code = "" ∧ xs = [] ∧ o = .error .emptyCode ∨
      let details := Registry.details requestId "provision" [("address", .text address)]
      Single details (.createEmail address none code) (provisioned details) xs o := by
  by_cases hcode : code = ""
  · subst hcode
    obtain ⟨rfl, rfl⟩ := ends_done.1 h
    exact .inl ⟨rfl, rfl, rfl⟩
  · unfold provision at h
    rw [if_neg (by simpa using hcode)] at h
    refine .inr (ends_single h fun reply => ?_)
    unfold provisioned
    split
    · rfl
    · rename_i hreply
      rw [if_neg hreply]
      rfl

theorem ends_getCode {o : Except Failure Store.Value} (h : Ends (getCode requestId address) xs o) :
    let details := Registry.details requestId "get_code" [("address", .text address)]
    Single details (.getEmail address) (codeOf details) xs o := by
  refine ends_single h fun reply => ?_
  unfold codeOf
  split
  · rfl
  · rename_i hreply
    rw [if_neg hreply, Program.fieldOf]
    cases reply.field? .code <;> rfl

theorem ends_lookupCode {o : Except Failure Reply}
    (h : Ends (lookupCode requestId address code) xs o) :
    Single (Registry.details requestId "lookup_code" [("address", .text address)])
      (.accountByCode address code) .ok xs o := by
  unfold lookupCode at h
  rw [← Program.bind_pure (stored _ _ _)] at h
  exact ends_single h fun _ => rfl

theorem ends_lookupAccount {o : Except Failure Reply}
    (h : Ends (lookupAccount requestId address) xs o) :
    Single (Registry.details requestId "lookup_account" [("address", .text address)])
      (.accountByEmail address) .ok xs o := by
  unfold lookupAccount at h
  rw [← Program.bind_pure (stored _ _ _)] at h
  exact ends_single h fun _ => rfl

theorem ends_verify {o : Except Failure Unit} (h : Ends (verify requestId account address) xs o) :
    let details := Registry.details requestId "verify"
      [("address", .text address), ("account_id", .id account)]
    Single details (.markVerified address account) (marked details) xs o := by
  refine ends_single h fun affected => ?_
  unfold marked
  split <;> rfl

theorem ends_remove {email : Uuid} {o : Except Failure Unit}
    (h : Ends (remove requestId account email) xs o) :
    Single (Registry.details requestId "remove" [("email_id", .id email), ("account_id", .id account)])
      (.deleteEmail email account) (fun _ => .ok ()) xs o := by
  refine ends_single h fun affected => ?_
  split <;> rfl

end Others
end EmailOwnership.Registry

/-! ### As actions -/

namespace EmailOwnership.Rehearsal
open Program (Exchange Ends ends_map)
open Registry (Claiming Single)

/-- The name under which an operation of the registry reports, `none` for all else. -/
def Action.operation? : Action → Option String
  | .add .. => some "add"
  | .provision .. => some "provision"
  | .getCode .. => some "get_code"
  | .lookupCode .. => some "lookup_code"
  | .verify .. => some "verify"
  | .lookupAccount .. => some "lookup_account"
  | .remove .. => some "remove"
  | _ => none

/-- The ways of the registry's operations. -/
inductive Action.Goes (requestId : String) : Action → List Exchange → Except Failure Result → Prop
  | codelessAdd {account : Uuid} {address : String} :
    Action.Goes requestId (.add account address "") [] (.error .emptyCode)
  | codelessProvision {address : String} :
    Action.Goes requestId (.provision address "") [] (.error .emptyCode)
  | add {account : Uuid} {address code : String} {xs : List Exchange}
    {o : Except Failure Store.Reply} :
    Claiming (Registry.claimDetails requestId account address) account address code xs o →
    Action.Goes requestId (.add account address code) xs (o.map .reply)
  | provision {address code : String} {xs : List Exchange} {o : Except Failure Store.Reply} :
    (let details := Registry.details requestId "provision" [("address", .text address)]
    Single details (.createEmail address none code) (Registry.provisioned details) xs o) →
    Action.Goes requestId (.provision address code) xs (o.map .reply)
  | getCode {address : String} {xs : List Exchange} {o : Except Failure Store.Value} :
    (let details := Registry.details requestId "get_code" [("address", .text address)]
    Single details (.getEmail address) (Registry.codeOf details) xs o) →
    Action.Goes requestId (.getCode address) xs (o.map .value)
  | lookupCode {address code : String} {xs : List Exchange} {o : Except Failure Store.Reply} :
    Single (Registry.details requestId "lookup_code" [("address", .text address)])
      (.accountByCode address code) .ok xs o →
    Action.Goes requestId (.lookupCode address code) xs (o.map .reply)
  | verify {account : Uuid} {address : String} {xs : List Exchange} {o : Except Failure Unit} :
    (let details := Registry.details requestId "verify"
      [("address", .text address), ("account_id", .id account)]
    Single details (.markVerified address account) (Registry.marked details) xs o) →
    Action.Goes requestId (.verify account address) xs (o.map fun _ => .nothing)
  | lookupAccount {address : String} {xs : List Exchange} {o : Except Failure Store.Reply} :
    Single (Registry.details requestId "lookup_account" [("address", .text address)])
      (.accountByEmail address) .ok xs o →
    Action.Goes requestId (.lookupAccount address) xs (o.map .reply)
  | remove {account email : Uuid} {xs : List Exchange} {o : Except Failure Unit} :
    Single (Registry.details requestId "remove"
        [("email_id", .id email), ("account_id", .id account)])
      (.deleteEmail email account) (fun _ => .ok ()) xs o →
    Action.Goes requestId (.remove account email) xs (o.map fun _ => .nothing)

/-- **An operation of the registry goes one of its ways**, whatever the store answers. -/
theorem Action.ends_goes {requestId operation : String} {codeLength : Nat} {action : Action}
    {p : Program Result} {xs : List Exchange} {o : Except Failure Result}
    (ha : action.operation? = some operation)
    (hp : action.program? requestId codeLength = some p) (h : Ends p xs o) :
    action.Goes requestId xs o := by
  cases action with
  | add account address code =>
    cases hp
    obtain ⟨o, hway, rfl⟩ := ends_map h
    rcases Registry.ends_add hway with ⟨rfl, rfl, rfl⟩ | hway
    · exact .codelessAdd
    · exact .add hway
  | provision address code =>
    cases hp
    obtain ⟨o, hway, rfl⟩ := ends_map h
    rcases Registry.ends_provision hway with ⟨rfl, rfl, rfl⟩ | hway
    · exact .codelessProvision
    · exact .provision hway
  | getCode address =>
    cases hp
    obtain ⟨o, hway, rfl⟩ := ends_map h
    exact .getCode (Registry.ends_getCode hway)
  | lookupCode address code =>
    cases hp
    obtain ⟨o, hway, rfl⟩ := ends_map h
    exact .lookupCode (Registry.ends_lookupCode hway)
  | verify account address =>
    cases hp
    obtain ⟨o, hway, rfl⟩ := ends_map h
    exact .verify (Registry.ends_verify hway)
  | lookupAccount address =>
    cases hp
    obtain ⟨o, hway, rfl⟩ := ends_map h
    exact .lookupAccount (Registry.ends_lookupAccount hway)
  | remove account email =>
    cases hp
    obtain ⟨o, hway, rfl⟩ := ends_map h
    exact .remove (Registry.ends_remove hway)
  | _ => cases ha

end EmailOwnership.Rehearsal
