import EmailOwnership.Proofs.Crowd.Dialogue
import EmailOwnership.Proofs.ErrorSurface
import EmailOwnership.Proofs.Memory.Issue
import EmailOwnership.Proofs.Representation

/-! The error that gets past the registry over the memory store.

The memory store lets an address be claimed for any identifier, whether an account has been seeded
under it or not. Claims do not ask, and neither do verifications of a record by its owner; but a
look-up of the owner's account does, and fails with a fault that is none of the storage. So an
operation ends well or in an error of the registry, except that it ends in this fault exactly if it
looks up an address whose owner never was seeded (`error_surface_over_memory`). -/
namespace EmailOwnership
open Program (Exchange Ends)
open Store (Call Fault Reply)

/-! ### Faults of the memory store -/

namespace Store.Memory
open Database (Legible)
variable {s s' : State} {account owner : Uuid} {fault : Fault} {c : Call} {reply : Reply}

/-- The call asks for the account of an address that has this owner, by its code if it brings one. -/
def SeeksOwner (c : Call) (s : State) (owner : Uuid) : Prop :=
  ∃ address r, s.emails.get? address = some r ∧ r.owner = some owner ∧
    (c = .accountByEmail address ∨ c = .accountByCode address r.code)

theorem buildAccount_of_unknown (h : s.knows account = false) (withRoles : Bool) :
    buildAccount account withRoles s = .error (.missingAccount account) := by
  have hnone : s.accounts.get? account = none := by
    have hsome : (s.accounts.get? account).isSome = false := h
    simpa using hsome
  simp [buildAccount, hnone]

/-- **A call fails exactly if it asks for the account of an owner who never was an account.** -/
theorem step_fault_iff (hlinked : Linked s) :
    (step c s).1 = .error fault ↔
      ∃ owner, fault = .missingAccount owner ∧ s.knows owner = false ∧ SeeksOwner c s owner := by
  constructor
  · intro h
    obtain ⟨address, r, owner, hr, ho, hunknown, hcall⟩ := step_fault_of_linked hlinked h
    have hbuilt := buildAccount_of_unknown hunknown
    obtain ⟨id, stored, owner', code, verified⟩ := r
    cases ho
    rcases hcall with rfl | ⟨code', rfl⟩
    · simp only [step, hr, hbuilt, Except.map] at h
      cases h
      exact ⟨owner, rfl, hunknown, address, _, hr, rfl, .inl rfl⟩
    · simp only [step, hr] at h
      split at h
      · rename_i hcode
        simp only [hbuilt, Except.map] at h
        cases h
        exact ⟨owner, rfl, hunknown, address, _, hr, rfl, .inr (by rw [hcode])⟩
      · cases h
  · rintro ⟨owner, rfl, hunknown, address, ⟨id, stored, owner', code, verified⟩, hr, ho, hcall⟩
    cases ho
    have hbuilt := buildAccount_of_unknown hunknown
    rcases hcall with rfl | rfl
    · simp only [step, hr, hbuilt, Except.map]
    · simp only [step, hr, if_true, hbuilt, Except.map]

/-- The memory store answers a look at a record legibly. -/
theorem step_legible (h : (step c s).1 = .ok reply) : Legible c reply := by
  rintro address rfl
  cases hr : s.emails.get? address with
  | none =>
    simp only [step, hr] at h
    cases h
    exact .inl rfl
  | some r =>
    simp only [step, hr] at h
    cases h
    exact .inr ⟨_, rfl⟩

/-! ### Known accounts -/

theorem addAccount_knows_iff (handle : String) (name : Option String) (id : Option Uuid) :
    (addAccount handle name id s).2.knows account = true ↔
      (addAccount handle name id s).1 = account ∨ s.knows account = true := by
  have hput : ∀ (s : State) (id : Uuid) (p : Profile),
      ((s.accounts.put id p).get? account).isSome = true ↔ id = account ∨ s.knows account = true := by
    intro s id p
    rw [isSome_get?_put, Bool.or_eq_true, decide_eq_true_eq]
    rfl
  cases id with
  | none => exact hput s.draw.2 s.draw.1 _
  | some id => exact hput s id _

theorem addMethod_knows (account : Uuid) (method : AuthenticationMethod) (secret : String) :
    (addMethod account method secret s).2.knows = s.knows := by
  unfold addMethod
  split <;> rfl

theorem addPassword_knows (account : Uuid) (hash : String) :
    (addPassword account hash s).2.knows = s.knows := by
  unfold addPassword
  split
  · rfl
  · exact addMethod_knows (s := s.draw.2) ..

theorem addRole_knows (account : Uuid) (name : String) :
    (addRole account name s).2.knows = s.knows := by
  unfold addRole
  split <;> rfl

theorem addTag_knows (account : Uuid) (name : String) : (addTag account name s).2.knows = s.knows := by
  unfold addTag
  split <;> rfl

end Store.Memory

namespace Rehearsal
open Store.Memory (State addAccount)

section Known
variable {codeLength : Nat} {c : Crowd Result} {account : Uuid}

/-- Nothing but adding an account makes one known. -/
theorem apply_knows {a : Action} (ha : ∀ handle name id, a ≠ .addAccount handle name id) (w : World) :
    (a.apply w).2.memory.knows = w.memory.knows := by
  cases a with
  | addAccount handle name id => exact absurd rfl (ha handle name id)
  | addPassword account hash => exact Store.Memory.addPassword_knows ..
  | addRole account name => exact Store.Memory.addRole_knows ..
  | addTag account name => exact Store.Memory.addTag_knows ..
  | addMethod account method secret => exact Store.Memory.addMethod_knows ..
  | _ => rfl

theorem Crowd.run_knows {α : Type} (c : Crowd α) (turns : List Turn) :
    (c.run turns).world.memory.knows = c.world.memory.knows := by
  have hkeeps : ∀ s s' : State, s.knows = c.world.memory.knows → Store.Memory.Edit s s' →
      s'.knows = c.world.memory.knows := fun s s' h he => he.knows.trans h
  exact Crowd.run_edits hkeeps rfl turns

/-- A moment that makes an account known adds it. -/
theorem known_by_pass {m : Moment} (h : (c.pass codeLength m).world.memory.knows account = true) :
    c.world.memory.knows account = true ∨
      ∃ handle name id context, m = .visit ⟨.addAccount handle name id, context⟩ ∧
        (addAccount handle name id c.world.memory).1 = account := by
  cases m with
  | turn t =>
    have hsame : (c.run [t]).world.memory.knows = c.world.memory.knows := Crowd.run_knows c [t]
    exact .inl ((congrFun hsame account).symm.trans h)
  | visit v =>
    replace h : (v.perform codeLength c.world).2.memory.knows account = true := h
    unfold Visit.perform at h
    dsimp only at h
    split at h
    · rename_i program hprogram
      have hsame : (program.run (plainHandler v.action.sender (v.context.build c.world.clock))
          c.world).2.memory.knows = c.world.memory.knows := by
        rcases (Action.program_writes hprogram).run_step c.world with hkept | ⟨call, -, hstep⟩
        · rw [hkept]
        · rw [hstep]
          exact (Store.Memory.step_edit call c.world.memory).knows
      exact .inl ((congrFun hsame account).symm.trans h)
    · by_cases ha : ∃ handle name id, v.action = .addAccount handle name id
      · obtain ⟨handle, name, id, ha⟩ := ha
        rw [ha] at h
        rcases (Store.Memory.addAccount_knows_iff handle name id).1 h with hid | hknown
        · obtain ⟨action, context⟩ := v
          cases ha
          exact .inr ⟨handle, name, id, context, rfl, hid⟩
        · exact .inl hknown
      · rw [apply_knows fun handle name id h => ha ⟨handle, name, id, h⟩] at h
        exact .inl h

/-- **From the empty store on, the accounts that are known are those that were seeded.** -/
theorem known_iff_seeded (requests : List Request) {w : World} (hw : w.memory = .empty)
    {past : List Moment} (hpast : ∀ m ∈ past, m.injects = false) :
    let start := Crowd.start codeLength requests w
    (start.history codeLength past).world.memory.knows account = true ↔
      start.Seeded codeLength past account := by
  intro start
  constructor
  · intro h
    induction past using List.reverseRecOn with
    | nil =>
      have hnobody : State.empty.knows account = true := by
        rw [← hw]
        exact h
      cases hnobody
    | append_singleton past m ih =>
      rw [Crowd.history_append] at h
      rcases known_by_pass h with hbefore | ⟨handle, name, id, context, rfl, hid⟩
      · obtain ⟨earlier, handle, name, id, context, later, rfl, hid⟩ :=
          ih (fun m' hm' => hpast m' (List.mem_append_left _ hm')) hbefore
        exact ⟨earlier, handle, name, id, context, later ++ [m], by simp, hid⟩
      · exact ⟨past, handle, name, id, context, [], rfl, hid⟩
  · intro h
    exact knows_of_seeded (start_asks codeLength requests w)
      (fun m hm => Moment.asks (hpast m hm) codeLength) h

end Known
end Rehearsal

/-! ### The ways of a verification by code -/

namespace Verification
open Program (ends_bind ends_done)
open Registry (Single ends_fieldOf ends_stored marked raised)
variable {requestId email code : String} {xs : List Exchange}

/-- The ways of a verification: it looks its code up, and marks the address for the account found. -/
inductive Checks (requestId address code : String) :
    List Exchange → Except Failure Verification → Prop
  | unread {fault : Fault} :
    Checks requestId address code [(.accountByCode address code, .error fault)]
      (.error (raised (Registry.details requestId "lookup_code" [("address", .text address)]) fault))
  | invalid : Checks requestId address code [(.accountByCode address code, .ok .nothing)]
      (.ok .invalidCode)
  | illegible {found : Reply} {e : Failure} :
    found ≠ .nothing → (∀ id, found.field? .id ≠ some (.uuid id)) →
    Checks requestId address code [(.accountByCode address code, .ok found)] (.error e)
  | found {found : Reply} {id : Uuid} {ys : List Exchange} {o : Except Failure Unit} :
    found.field? .id = some (.uuid id) →
    (let details := Registry.details requestId "verify" [("address", .text address), ("account_id", .id id)]
    Single details (.markVerified address id) (marked details) ys o) →
    Checks requestId address code ((.accountByCode address code, .ok found) :: ys)
      (o.map fun _ => .success)

/-- **A verification goes one of the ways of `Checks`**, whatever the store answers. -/
theorem ends_verifyEmail {o : Except Failure Verification}
    (h : Ends (verifyEmail requestId email code) xs o) :
    Checks requestId (Address.normalize email) code xs o := by
  rcases ends_stored h with ⟨fault, rfl, rfl⟩ | ⟨found, ys, rfl, hrest⟩
  · exact .unread
  · by_cases hfound : found = .nothing
    · subst hfound
      obtain ⟨rfl, rfl⟩ := ends_done.1 hrest
      exact .invalid
    · split at hrest
      · exact absurd rfl hfound
      · rcases ends_fieldOf hrest with ⟨hfield, rfl, rfl⟩ | ⟨v, hfield, hmarks⟩
        · exact .illegible hfound fun id hid => by rw [hfield] at hid; cases hid
        · split at hmarks
          · rename_i id
            rcases ends_bind hmarks with ⟨e, hverify, rfl⟩ | ⟨u, zs, last, rfl, hverify, hlast⟩
            · exact .found hfield (Registry.ends_verify hverify)
            · obtain ⟨rfl, rfl⟩ := ends_done.1 hlast
              rw [List.append_nil]
              exact .found hfield (Registry.ends_verify hverify)
          · rename_i hnone
            obtain ⟨rfl, rfl⟩ := ends_done.1 hmarks
            refine .illegible hfound fun id hid => ?_
            rw [hfield] at hid
            exact hnone id (Option.some.inj hid)

end Verification

/-! ### How operations end -/

namespace Rehearsal
open Registry (Closed closed_answer closed_fault raised single_closed)
open Store.Memory (Linked SeeksOwner step)
open Verification (Checks ends_verifyEmail)
variable {α β : Type} {xs : List Exchange} {o : Except Failure α}

/-- How an operation over a memory store ends, going by its exchanges. -/
structure Surfaces (xs : List Exchange) (o : Except Failure α) : Prop where
  /-- A call that fails ends the operation. -/
  faulty : ∀ c fault, (c, .error fault) ∈ xs → ∃ details, o = .error (raised details fault)
  sound : (∀ x ∈ xs, ∃ s reply, x.2 = .ok reply ∧ (step x.1 s).1 = .ok reply) →
    (∃ a, o = .ok a) ∨ ∃ e, o = .error (.registry e)

theorem surfaces_of_closed (h : Closed xs o) : Surfaces xs o := by
  refine ⟨h.faulty, fun hanswered => h.sound fun x hx => ?_⟩
  obtain ⟨s, reply, hreply, hstep⟩ := hanswered x hx
  exact ⟨reply, hreply, Store.Memory.step_legible hstep⟩

theorem Surfaces.map {f : α → β} (h : Surfaces xs o) : Surfaces xs (o.map f) := by
  refine ⟨fun c fault hx => ?_, fun hanswered => ?_⟩
  · obtain ⟨details, rfl⟩ := h.faulty c fault hx
    exact ⟨details, rfl⟩
  · rcases h.sound hanswered with ⟨a, rfl⟩ | ⟨e, rfl⟩
    · exact .inl ⟨f a, rfl⟩
    · exact .inr ⟨e, rfl⟩

/-- **A verification surfaces**: over a memory store the account that is found has an identifier. -/
theorem checks_surfaces {requestId address code : String} {o : Except Failure Verification}
    (h : Checks requestId address code xs o) : Surfaces xs o := by
  cases h with
  | unread => exact surfaces_of_closed closed_fault
  | invalid => exact surfaces_of_closed (closed_answer fun _ => .inl ⟨_, rfl⟩)
  | @illegible found e hfound hid =>
    refine ⟨fun c fault hx => ?_, fun hanswered => ?_⟩
    · cases List.mem_singleton.1 hx
    · obtain ⟨s, reply, hreply, hstep⟩ := hanswered _ (List.mem_singleton.2 rfl)
      cases hreply
      rcases Store.Memory.step_accountByCode (Prod.ext hstep rfl) with rfl | ⟨r, a, -, -, -, rfl⟩
      · exact absurd rfl hfound
      · exact absurd rfl (hid a.id)
  | found _ hway =>
    have hclosed := single_closed hway fun affected _ => by
      unfold Registry.marked
      split
      · exact .inr ⟨_, rfl⟩
      · exact .inl ⟨_, rfl⟩
    exact surfaces_of_closed hclosed.map.cons

/-- The operations from which callers expect the errors of the registry only: its own, the verification
by code and the look-up of an account. -/
def Action.isClassified : Action → Bool
  | .verifyEmail .. | .accountForEmail .. => true
  | action => action.operation?.isSome

/-- **Each of these operations surfaces**, if it has a code for its write. -/
theorem surfaces_of_ends {codeLength : Nat} {context : Context String} {action : Action}
    {o : Except Failure Result} (ha : action.isClassified = true) (hcode : action.code? ≠ some "")
    (h : Ends (Request.begin codeLength ⟨context, action⟩).program xs o) : Surfaces xs o := by
  have hgoes : ∀ operation, action.operation? = some operation →
      action.program? context.requestId codeLength =
        some (Request.begin codeLength ⟨context, action⟩).program → Surfaces xs o :=
    fun _ hoperation hp => surfaces_of_closed ((Action.ends_goes hoperation hp h).closed hcode)
  cases action with
  | verifyEmail email code =>
    obtain ⟨o, hway, rfl⟩ := Program.ends_map h
    exact (checks_surfaces (ends_verifyEmail hway)).map
  | accountForEmail email =>
    obtain ⟨o, hway, rfl⟩ := Program.ends_map h
    have hclosed := single_closed (Registry.ends_lookupAccount hway) fun _ _ => .inl ⟨_, rfl⟩
    exact (surfaces_of_closed hclosed).map
  | add | provision | getCode | lookupCode | verify | lookupAccount | remove =>
    exact hgoes _ rfl rfl
  | _ => cases ha

/-! ### A request among others -/

section Crowd
variable {c : Crowd α} {k : Nat} {turns : List Turn}

/-- In its next turn the request asks, under a live context, for the account of an address that has
this owner. -/
def Crowd.Seeks (c : Crowd α) (k : Nat) (owner : Uuid) : Prop :=
  c.interrupted k = false ∧
    ∃ call, c.call? (.proceed k) = some call ∧ SeeksOwner call c.world.memory owner

/-- An exchange of the dialogue is a turn of the run. -/
theorem turn_of_mem {x : Exchange} (hx : x ∈ c.dialogue k turns) :
    ∃ before after, turns = before ++ .proceed k :: after ∧
      (c.run before).exchange? k (.proceed k) = some x := by
  obtain ⟨ys, zs, hdialogue⟩ := List.append_of_mem hx
  obtain ⟨before, t, after, rfl, -, hexchange, -⟩ := Crowd.collect_eq_append_cons hdialogue
  obtain ⟨rfl, -⟩ := Crowd.exchange?_cases hexchange
  exact ⟨before, after, rfl, hexchange⟩

/-- A call of a request fails because the context is done, or for an owner that is not known. -/
theorem fault_of_exchange (hlinked : Linked c.world.memory) {call : Call} {fault : Fault}
    (hx : c.exchange? k (.proceed k) = some (call, .error fault)) :
    fault.isStorage = true ∨
      ∃ owner, fault = .missingAccount owner ∧ c.world.memory.knows owner = false ∧
        c.Seeks k owner := by
  obtain ⟨-, hcall, ⟨hlive, hanswer, -⟩ | ⟨-, ⟨message, hrefused⟩, -⟩⟩ := Crowd.exchange?_cases hx
  · obtain ⟨owner, hfault, hunknown, hseeks⟩ := (Store.Memory.step_fault_iff hlinked).1 hanswer.symm
    exact .inr ⟨owner, hfault, hunknown, hlive, call, hcall, hseeks⟩
  · cases hrefused
    exact .inl rfl

/-- A request that seeks the account of an owner that is not known has this answer. -/
theorem exchange_of_seeks (hlinked : Linked c.world.memory) {owner : Uuid}
    (hunknown : c.world.memory.knows owner = false) (h : c.Seeks k owner) :
    ∃ call, c.exchange? k (.proceed k) = some (call, .error (.missingAccount owner)) := by
  obtain ⟨hlive, call, hcall, hseeks⟩ := h
  refine ⟨call, ?_⟩
  have hfault : (step call c.world.memory).1 = .error (.missingAccount owner) :=
    (Store.Memory.step_fault_iff hlinked).2 ⟨owner, rfl, hunknown, hseeks⟩
  rw [Crowd.exchange?_of_live hcall hlive, hfault]

/-- A request takes all its effects in as many turns of its own. -/
theorem Crowd.finishes {p : Program α} (hp : c.program? k = some p) :
    ∃ n outcome, (c.run (List.replicate n (.proceed k))).outcome? k = some outcome := by
  induction p generalizing c with
  | done outcome => exact ⟨0, outcome, Crowd.outcome?_eq_some_iff.2 hp⟩
  | ask effect next ih =>
    obtain ⟨participant, hplace, hprogram⟩ : ∃ participant, c.participants[k]? = some participant ∧
        participant.program = .ask effect next := by simpa [Crowd.program?] using hp
    have hnext : (c.take (.proceed k)).program? k =
        some (next (plainHandler participant.sender participant.context effect c.world).1) := by
      rw [Crowd.take_proceed hplace]
      refine (Crowd.program?_set (w := c.world) hplace _ k).trans ?_
      simp only [Participant.proceed, hprogram, if_true]
    obtain ⟨n, outcome, hend⟩ := ih _ hnext
    exact ⟨n + 1, outcome, hend⟩

end Crowd

/-- How a request over the memory store ends, going by its turns. -/
structure MemorySurface (start : Crowd Result) (k : Nat) (seeded : Uuid → Prop) (turns : List Turn)
    (o : Except Failure Result) : Prop where
  closed : (∃ result, o = .ok result) ∨ (∃ e, o = .error (.registry e)) ∨
    ∃ owner, o = .error (.store (.missingAccount owner))
  missing : ∀ owner, o = .error (.store (.missingAccount owner)) ↔
    ¬ seeded owner ∧ ∃ before after, turns = before ++ .proceed k :: after ∧
      (start.run before).Seeks k owner

section Surface
variable {start : Crowd Result} {k : Nat} {seeded : Uuid → Prop} {turns : List Turn}
  {o : Except Failure Result}

section Seeded
variable (hlinked : Linked start.world.memory)
  (hseeded : ∀ owner, start.world.memory.knows owner = true ↔ seeded owner)

include hlinked in
theorem linked_along (before : List Turn) : Linked (start.run before).world.memory :=
  Crowd.run_edits (fun _ _ hkept he => hkept.edit he) hlinked before

include hseeded in
theorem unknown_along (before : List Turn) (owner : Uuid) :
    (start.run before).world.memory.knows owner = false ↔ ¬ seeded owner := by
  rw [Crowd.run_knows, ← hseeded owner, Bool.not_eq_true]

include hlinked hseeded

/-- A request that surfaces ends as the registry has it, or has met the fault. -/
theorem surface_cases (h : Surfaces (start.dialogue k turns) o) :
    (∃ result, o = .ok result) ∨ (∃ e, o = .error (.registry e)) ∨
      ∃ owner, o = .error (.store (.missingAccount owner)) ∧ ¬ seeded owner ∧
        ∃ before after, turns = before ++ .proceed k :: after ∧ (start.run before).Seeks k owner := by
  by_cases hnone : ∀ x ∈ start.dialogue k turns, ∀ fault, x.2 ≠ .error fault
  · -- without a fault every answer is the store's
    refine (h.sound fun x hx => ?_).imp_right .inl
    obtain ⟨before, after, -, hexchange⟩ := turn_of_mem hx
    obtain ⟨-, -, ⟨-, hanswer, -⟩ | ⟨-, ⟨message, hrefused⟩, -⟩⟩ := Crowd.exchange?_cases hexchange
    · cases hreply : x.2 with
      | error fault => exact absurd hreply (hnone x hx fault)
      | ok reply => exact ⟨_, reply, rfl, hanswer.symm.trans hreply⟩
    · exact absurd hrefused (hnone x hx _)
  · push Not at hnone
    obtain ⟨⟨call, answer⟩, hx, fault, hfault⟩ := hnone
    obtain rfl : answer = .error fault := hfault
    obtain ⟨before, after, hcut, hexchange⟩ := turn_of_mem hx
    obtain ⟨details, rfl⟩ := h.faulty call fault hx
    rcases fault_of_exchange (linked_along hlinked before) hexchange with
      hstorage | ⟨owner, rfl, hunknown, hseeks⟩
    · exact .inr (.inl ⟨_, congrArg Except.error (if_pos hstorage)⟩)
    · have hunseeded := (unknown_along hseeded before owner).1 hunknown
      exact .inr (.inr ⟨owner, rfl, hunseeded, before, after, hcut, hseeks⟩)

/-- **A request that surfaces ends in the fault exactly if it meets it.** -/
theorem memorySurface (h : Surfaces (start.dialogue k turns) o) :
    MemorySurface start k seeded turns o := by
  have hcases := surface_cases hlinked hseeded h
  refine ⟨hcases.imp_right (.imp_right fun ⟨owner, ho, _⟩ => ⟨owner, ho⟩), fun owner =>
    ⟨fun ho => ?_, ?_⟩⟩
  · rcases hcases with ⟨result, hok⟩ | ⟨e, he⟩ | ⟨owner', ho', hmeets⟩
    · rw [ho] at hok
      cases hok
    · rw [ho] at he
      cases he
    · rw [ho] at ho'
      cases ho'
      exact hmeets
  · rintro ⟨hunseeded, before, after, rfl, hseeks⟩
    have hunknown := (unknown_along hseeded before owner).2 hunseeded
    obtain ⟨call, hexchange⟩ := exchange_of_seeks (linked_along hlinked before) hunknown hseeks
    have hmem : (call, .error (.missingAccount owner)) ∈
        start.dialogue k (before ++ .proceed k :: after) := by
      rw [Crowd.dialogue_of_exchange hexchange]
      simp
    obtain ⟨details, rfl⟩ := h.faulty _ _ hmem
    rfl

end Seeded

end Surface

/-- **The errors of operations over a memory store**, seeded and used in any way before, and shared
with any other requests: an operation that has a code for its write always ends, well or in an error
of the registry; except that it ends in the fault of a missing account exactly if in one of its turns
it asks, under a live context, for the account of an address whose owner never was seeded. -/
theorem error_surface_over_memory (codeLength : Nat) (earlier : List Request) {w : World}
    (hw : w.memory = .empty) {past : List Moment} (hpast : ∀ m ∈ past, m.injects = false)
    (requests : List Request) {k : Nat} {context : Context String} {action : Action}
    (hk : requests[k]? = some ⟨context, action⟩) (ha : action.isClassified = true)
    (hcode : action.code? ≠ some "") :
    let first := Crowd.start codeLength earlier w
    let start := Crowd.start codeLength requests (first.history codeLength past).world
    (∀ turns outcome, (start.run turns).outcome? k = some outcome →
      MemorySurface start k (first.Seeded codeLength past) turns outcome) ∧
    ∀ turns, ∃ n outcome,
      (start.run (turns ++ List.replicate n (.proceed k))).outcome? k = some outcome := by
  intro first start
  have hbegin : start.program? k = _ :=
    Crowd.program?_start hk (first.history codeLength past).world
  have hlinked : Linked start.world.memory :=
    history_invariant (fun _ _ h hg => h.grows hg) (start_asks codeLength earlier w)
      (fun m hm => Moment.asks (hpast m hm) codeLength)
      (show Linked w.memory by rw [hw]; exact Store.Memory.linked_empty)
  refine ⟨fun turns outcome ho => ?_, fun turns => ?_⟩
  · have hway := Crowd.ends_of_outcome hbegin ho
    exact memorySurface hlinked (fun owner => known_iff_seeded earlier hw hpast)
      (surfaces_of_ends ha hcode hway)
  · obtain ⟨p, hp, -⟩ := Crowd.run_leads hbegin turns
    obtain ⟨n, outcome, hend⟩ := Crowd.finishes hp
    exact ⟨n, outcome, by rw [Crowd.run_append]; exact hend⟩

/-- An address is claimed for an identifier under which no account was seeded. -/
def claimedForNobody : List Moment := [.visit ⟨.add ⟨3⟩ "a@x.com" "111111", .plain⟩]

/-- **The look-up of such an address fails** with a fault that the registry does not classify. -/
theorem lookup_of_unseeded_owner :
    let first := Crowd.start 6 [] ⟨.empty, 0, .standard, []⟩
    let start := Crowd.start 6 [⟨.new "r" none, .lookupAccount "a@x.com"⟩]
      (first.history 6 claimedForNobody).world
    ∃ turns, (start.run turns).outcome? 0 = some (.error (.store (.missingAccount ⟨3⟩))) := by
  intro first start
  have hpast : ∀ m ∈ claimedForNobody, m.injects = false := by simp [claimedForNobody, Moment.injects]
  obtain ⟨hsurface, hends⟩ := error_surface_over_memory 6 [] (w := ⟨.empty, 0, .standard, []⟩) rfl
    hpast [⟨.new "r" none, .lookupAccount "a@x.com"⟩] (k := 0) rfl rfl (by simp [Action.code?])
  have hunknown : (first.history 6 claimedForNobody).world.memory.knows ⟨3⟩ = false := by
    decide +kernel
  have hunseeded : ¬ first.Seeded 6 claimedForNobody ⟨3⟩ := by
    intro hseeded
    have hknown := (known_iff_seeded [] (w := ⟨.empty, 0, .standard, []⟩) rfl hpast).2 hseeded
    exact Bool.false_ne_true (hunknown.symm.trans hknown)
  have hseeks : start.Seeks 0 ⟨3⟩ :=
    ⟨rfl, .accountByEmail "a@x.com", rfl, "a@x.com", ⟨.drawn 1, "a@x.com", some ⟨3⟩, "111111", false⟩,
      by decide +kernel, rfl, .inl rfl⟩
  -- its first turn is the look-up
  obtain ⟨n, outcome, hend⟩ := hends [.proceed 0]
  have hmissing : outcome = .error (.store (.missingAccount ⟨3⟩)) :=
    ((hsurface _ outcome hend).missing ⟨3⟩).2 ⟨hunseeded, [], _, rfl, hseeks⟩
  exact ⟨_, by rw [hend, hmissing]⟩

end Rehearsal
end EmailOwnership
