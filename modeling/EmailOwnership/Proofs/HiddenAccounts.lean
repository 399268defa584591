import EmailOwnership.Proofs.Acceptance
import EmailOwnership.Proofs.Api.Callers

/-! What authentication tells about accounts.

Over a store that seeding has come to, and whose password hashes can be read, a caller is found only
through a password method of an account that has the handle. All other callers are refused in one
way: whether the handle is unknown, has no password or has another one, the outcome, the log lines
and the answer of the service are the same (`authentication_hides_accounts`). -/
namespace EmailOwnership.Api
open Http
open Authentication (Accepts authenticate outcome rejection)
open Program (Abreast Agree)
open Rehearsal
open Store (Value)
open Store.Memory (State Reached aliceWith aliceWith_reached passwordService step)
variable {settings : Settings} {request : Http.Request} {endpoint : Endpoint} {s s' : State}

/-! ### Callers who are not found -/

/-- All callers whom no account is found for come to the same outcome. -/
theorem outcome_of_not_identifies (hreached : Reached s) (hhashed : s.Hashed)
    (h : ∀ account, ¬ Identifies s request account) {credentials : Credentials}
    (hread : Credentials.read? request = some credentials) (requestId : String) :
    outcome requestId credentials.password
      (step (.passwordCredential (handleOf credentials)) s).1 = rejection credentials.password := by
  rw [Store.Memory.step_credential hreached.linked]
  refine Authentication.checkCredential_of_not_accepts hhashed fun account haccepts => ?_
  exact h account ((identifies_iff hreached.linked).2 ⟨credentials, hread, haccepts⟩)

/-- A caller whom no account is found for leaves the store as it is. -/
theorem memory_of_not_identifies (pace : Pace) {w : World}
    (hroute : route request.method request.path = .ok endpoint)
    (hasks : endpoint.asksCaller = true) (h : ∀ account, ¬ Identifies w.memory request account) :
    (exchange settings pace.interposition request w).2.memory = w.memory := by
  obtain ⟨sent, hcourse, -⟩ := exchange_alone settings pace request w
  unfold respond at hcourse
  simp only [hroute] at hcourse
  obtain ⟨o, hserve, -⟩ := alone_reported hcourse
  cases endpoint with
  | addEmail =>
    rcases alone_addEmail hserve with hrefuses | ⟨account, -, -, hidentifies, -⟩
    · exact hrefuses.memory
    · exact absurd hidentifies (h account)
  | removeEmail id =>
    obtain ⟨-, hkept | ⟨account, -, -, hidentifies, -⟩⟩ := alone_removeEmail hserve
    · exact hkept
    · exact absurd hidentifies (h account)
  | _ => cases hasks

/-- **Callers who are not found are answered the same over any two stores**, at whatever pace. -/
theorem blind_of_not_identifies (pace : Pace) (w : World)
    (hroute : route request.method request.path = .ok endpoint)
    (hasks : endpoint.asksCaller = true)
    (hreached : Reached s) (hhashed : s.Hashed) (h : ∀ account, ¬ Identifies s request account)
    (hreached' : Reached s') (hhashed' : s'.Hashed)
    (h' : ∀ account, ¬ Identifies s' request account) :
    Blind (exchange settings pace.interposition request) w s s' := by
  have hserve : Abreast id (Reported id request.method request.path)
      (serve settings (requestIdOf request endpoint) request endpoint) s
      (serve settings (requestIdOf request endpoint) request endpoint) s' := by
    rcases serve_of_asksCaller hasks with ⟨next, hserve⟩ | ⟨-, -, response, hserve⟩
    · rw [hserve]
      -- nobody is found over either store, so nothing follows
      refine abreast_authenticated (P := fun _ _ => False) (fun credentials hread => ?_) nofun
      rw [outcome_of_not_identifies hreached hhashed h hread,
        outcome_of_not_identifies hreached' hhashed' h' hread]
      rcases Authentication.rejection_cases credentials.password with hnone | ⟨e, herror⟩
      · rw [hnone]
        exact .ok .nobody
      · rw [herror]
        exact .error e
    · rw [hserve]
      exact abreast_pure response
  exact exchange_blind (abreast_respond hroute hserve) pace
    (memory_of_not_identifies (w := {w with memory := s}) pace hroute hasks h)
    (memory_of_not_identifies (w := {w with memory := s'}) pace hroute hasks h')

/-! ### Attempts -/

section
variable {context : Context String} {w : World} (hlive : context.isDone w.clock = false)
  (requestId handle password : String) (sender : Sender)
include hlive

/-- An attempt that is refused is blind to what it is refused for. -/
theorem blind_of_not_accepts (hreached : Reached s) (hhashed : s.Hashed)
    (h : ∀ account, ¬ Accepts s handle password account)
    (hreached' : Reached s') (hhashed' : s'.Hashed)
    (h' : ∀ account, ¬ Accepts s' handle password account) :
    Blind ((authenticate requestId handle password).run (plainHandler sender context)) w s s' := by
  unfold Blind
  rw [Authentication.run_login_rejected (w := {w with memory := s}) hreached.linked hlive requestId
      handle password sender hhashed h,
    Authentication.run_login_rejected (w := {w with memory := s'}) hreached'.linked hlive requestId
      handle password sender hhashed' h']
  rcases Authentication.rejection_cases password with hnone | ⟨e, herror⟩
  · rw [hnone]
    exact ⟨_, w.note (.authenticationFailed handle), rfl, rfl⟩
  · rw [herror]
    exact ⟨_, w, rfl, rfl⟩

/-- **Authentication is sound and does not reveal accounts.** Under a live context, over a store that
seeding comes to and whose hashes can be read, whoever is found has the handle and a password method
whose hash accepts the password. A handle without a password method is checked against any readable
hash there is, and found in no case; the secrets of other services do not matter. Two stores in
neither of which the attempt succeeds cannot be told apart by its outcome or by what it logs, and
neither by the answers of the service, at whatever pace. -/
theorem authentication_hides_accounts (hreached : Reached s) (hhashed : s.Hashed) :
    let attempt := (authenticate requestId handle password).run (plainHandler sender context)
    (∀ value, (attempt {w with memory := s}).1 = .ok (some value) →
        ∃ account, value = .uuid account ∧ s.Bears account handle ∧
          ∃ hash ∈ s.hashes account, Password.check password hash = .ok true) ∧
      ((∀ account, s.Bears account handle → s.hashes account = []) →
        ∀ dummy, Password.Readable dummy →
          (attempt {w with memory := s}).1 = (Password.check password dummy).map fun _ => none) ∧
      ∀ s', Reached s' →
        (s'.accounts = s.accounts → s'.hashes = s.hashes →
          (attempt {w with memory := s'}).1 = (attempt {w with memory := s}).1) ∧
        (s'.Hashed → (∀ value, (attempt {w with memory := s}).1 ≠ .ok (some value)) →
          (∀ value, (attempt {w with memory := s'}).1 ≠ .ok (some value)) → Blind attempt w s s') ∧
        ∀ (settings : Settings) (pace : Pace) (request : Http.Request) (endpoint : Endpoint),
          route request.method request.path = .ok endpoint → endpoint.asksCaller = true →
          s'.Hashed → (∀ account, ¬ Identifies s request account) →
          (∀ account, ¬ Identifies s' request account) →
          Blind (exchange settings pace.interposition request) w s s' := by
  intro attempt
  have houtcome {s : State} (hreached : Reached s) : (attempt {w with memory := s}).1 =
      Authentication.checkCredential (.ofCredential? (s.login? handle)) password :=
    Authentication.run_login_outcome (w := {w with memory := s}) hreached.linked hlive ..
  have haccepts {s : State} (hreached : Reached s)
      (h : ∀ value, (attempt {w with memory := s}).1 ≠ .ok (some value)) (account : Uuid) :
      ¬ Accepts s handle password account := by
    intro haccepts
    refine h (.uuid account) ?_
    rw [houtcome hreached, Authentication.checkCredential_of_accepts haccepts]
  refine ⟨fun value hvalue => ?sound, fun hnone dummy hdummy => ?nothing,
    fun s' hreached' => ⟨fun haccounts hhashes => ?services, fun hhashed' h h' => ?silent,
      fun settings pace request endpoint hroute hasks hhashed' h h' => ?served⟩⟩
  case sound =>
    rw [houtcome hreached, Authentication.checkCredential_eq_found_iff] at hvalue
    obtain ⟨account, rfl, haccepts⟩ := hvalue
    exact ⟨account, rfl, haccepts.sound⟩
  case nothing =>
    rw [houtcome hreached, Store.Memory.login?_eq_none_iff.2 hnone,
      ← Authentication.rejection_eq hdummy]
    rfl
  case services =>
    rw [houtcome hreached, houtcome hreached', Store.Memory.login?_congr haccounts hhashes]
  case silent =>
    exact blind_of_not_accepts hlive requestId handle password sender hreached hhashed
      (haccepts hreached h) hreached' hhashed' (haccepts hreached' h')
  case served =>
    exact blind_of_not_identifies pace w hroute hasks hreached hhashed h hreached' hhashed' h'

end

/-! ### A password that nobody has -/

/-- The settings of a hash, without what a password would add to them. -/
def bareSettings : String := "$2b$04$abcdefghijklmnopqrstuu"

section
variable {hash : String}

theorem eq_of_mem_hashes {account : Uuid} {found : String}
    (h : found ∈ (aliceWith hash).hashes account) : found = hash := by
  have hmethods : (aliceWith hash).authentication =
      (Table.empty.putIfAbsent ⟨1⟩ []).put ⟨1⟩ [(⟨⟨2⟩, passwordService, "alice"⟩, hash)] := rfl
  by_cases haccount : (⟨1⟩ : Uuid) = account
  · subst haccount
    exact List.mem_singleton.1 h
  · rw [State.hashes, hmethods, Table.get?_put_of_ne _ _ (Ne.symm haccount)] at h
    have hothers : (Table.empty.putIfAbsent (⟨1⟩ : Uuid)
        ([] : List (AuthenticationMethod × String))).get? account = none := by
      show (Table.put _ _ _).get? account = none
      rw [Table.get?_put_of_ne _ _ (Ne.symm haccount), Table.get?_empty]
    rw [hothers] at h
    cases h

/-- A text that is no whole hash accepts no password. -/
theorem aliceWith_refuses (hlength : hash.length ≠ 60) (handle password : String) (account : Uuid) :
    ¬ Accepts (aliceWith hash) handle password account := by
  rintro ⟨found, hlogin, hcheck⟩
  obtain rfl := eq_of_mem_hashes (Store.Memory.login?_sound hlogin).2
  exact Password.check_of_length hlength password hcheck

end

/-- A world in which nothing has happened. -/
def newWorld : World := ⟨.empty, 0, .standard, []⟩

/-- Whether "alice" has another password or is unknown, her attempt ends and is answered the same. -/
theorem authentication_hides_accounts_alice :
    Blind ((authenticate "r" "alice" "alice-password").run
        (plainHandler .console (Context.new "r" none))) newWorld (aliceWith bareSettings) .empty ∧
      Blind (exchange Settings.default Pace.steady.interposition aliceClaims) newWorld
        (aliceWith bareSettings) .empty := by
  have hlive : (Context.new "r" none : Context String).isDone newWorld.clock = false := rfl
  have hroute : route aliceClaims.method aliceClaims.path = .ok .addEmail := by decide +kernel
  -- the two stores
  have hreached := aliceWith_reached bareSettings
  have hhashed : (aliceWith bareSettings).Hashed := by
    intro account hash hmem
    rw [eq_of_mem_hashes hmem]
    decide +kernel
  have hbare : bareSettings.length ≠ 60 := by decide +kernel
  have hrefuses := aliceWith_refuses hbare
  have hempty : Reached .empty := .empty
  have hunhashed : State.empty.Hashed := fun account hash hmem => nomatch hmem
  have hnobody (handle password : String) (account : Uuid) :
      ¬ Accepts .empty handle password account := fun ⟨_, hlogin, _⟩ => nomatch hlogin
  generalize aliceWith bareSettings = s at hreached hhashed hrefuses ⊢
  generalize State.empty = s' at hempty hunhashed hnobody ⊢
  have hunidentified {s : State} (hreached : Reached s)
      (h : ∀ handle password account, ¬ Accepts s handle password account) (account : Uuid) :
      ¬ Identifies s aliceClaims account := by
    rw [identifies_iff hreached.linked]
    rintro ⟨credentials, -, haccepts⟩
    exact h _ _ _ haccepts
  have hunfound {s : State} (hreached : Reached s)
      (h : ∀ handle password account, ¬ Accepts s handle password account) (value : Value) :
      ((authenticate "r" "alice" "alice-password").run (plainHandler .console (Context.new "r" none))
        {newWorld with memory := s}).1 ≠ .ok (some value) := by
    rw [Authentication.run_login_outcome (w := {newWorld with memory := s}) hreached.linked hlive,
      ne_eq, Authentication.checkCredential_eq_found_iff]
    rintro ⟨account, -, haccepts⟩
    exact h _ _ _ haccepts
  obtain ⟨-, -, hpairs⟩ := authentication_hides_accounts hlive "r" "alice" "alice-password" .console
    hreached hhashed
  obtain ⟨-, hsilent, hserved⟩ := hpairs s' hempty
  exact ⟨hsilent hunhashed (hunfound hreached hrefuses) (hunfound hempty hnobody),
    hserved Settings.default .steady aliceClaims .addEmail hroute rfl hunhashed
      (hunidentified hreached hrefuses) (hunidentified hempty hnobody)⟩

end EmailOwnership.Api
