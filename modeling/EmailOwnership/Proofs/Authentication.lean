import EmailOwnership.Proofs.Memory.Credentials
import EmailOwnership.Proofs.Registry.Outcome

/-! What authentication comes to.

The store is asked for the credential of the handle, and everything follows from its answer
(`authenticate_eq`): a caller who is not found leaves a line in the log, and nothing else is done.
Where the stored hash can be read, a password that does not fit it ends like any password before an
unknown handle (`checkCredential_refused`). A password that is too long and a hash that cannot be read
make the check itself fail, and this failure is nobody's to classify (`Escapes`). -/
namespace EmailOwnership.Authentication
open Rehearsal
open Store (Fault Reply Value)
open Store.Memory (State)

/-! ### Outcomes -/

/-- What authentication comes to, given what the store says of the handle. -/
def outcome (requestId password : String) :
    Except Fault Reply → Except Failure (Option Value)
  | .error fault =>
    if fault.isStorage then
      .error (.registry ⟨.internal, fault.message,
        Table.ofList [("request_id", .text requestId), ("operation", .text "authenticate")],
        some fault⟩)
    else .error (.store fault)
  | .ok credential => checkCredential credential password

/-- **All that authentication does**, besides coming to its outcome, is to look the credential up and
to log that nobody was found. -/
theorem authenticate_eq (requestId handle password : String) :
    authenticate requestId handle password =
      .ask (.store (.passwordCredential handle)) fun found =>
        match outcome requestId password found with
        | .ok none => do
          Program.log (.authenticationFailed handle)
          pure none
        | o => .done o := by
  refine congrArg (Program.ask _) (funext fun found => ?_)
  cases found with
  | error fault =>
    cases h : fault.isStorage <;> simp [outcome, Program.bind, Program.fail, h]
  | ok credential =>
    simp only [outcome, Program.bind]
    cases checkCredential credential password with
    | error failure => rfl
    | ok account => cases account <;> rfl

/-- In whatever surroundings, authentication ends with its outcome. -/
theorem run_authenticate {σ : Type} (handler : Program.Handler σ)
    (requestId handle password : String) (s : σ) :
    let found := handler (.store (.passwordCredential handle)) s
    (authenticate requestId handle password).run handler s =
      match outcome requestId password found.1 with
      | .ok none => (.ok none, (handler (.log (.authenticationFailed handle)) found.2).2)
      | o => (o, found.2) := by
  rw [authenticate_eq]
  simp only [Program.run_ask]
  cases outcome requestId password (handler (.store (.passwordCredential handle)) s).1 with
  | error failure => rfl
  | ok account => cases account <;> rfl

theorem run_authenticate_outcome {σ : Type} (handler : Program.Handler σ)
    (requestId handle password : String) (s : σ) :
    ((authenticate requestId handle password).run handler s).1 =
      outcome requestId password (handler (.store (.passwordCredential handle)) s).1 := by
  rw [run_authenticate]
  cases outcome requestId password (handler (.store (.passwordCredential handle)) s).1 with
  | error failure => rfl
  | ok account => cases account <;> rfl

/-! ### Passwords that find no account -/

/-- The hash that stands in for those of unknown handles can be read. -/
theorem dummyHash_readable : ∃ hash, dummyHash = .ok hash ∧ Password.Readable hash := by
  have hsalt : Password.newSalt Password.defaultCost dummySalt = .ok ("$2b$10$" ++ dummySalt) := rfl
  have hshort : ¬ Password.maxPasswordBytes < dummyPassword.utf8ByteSize := by decide +kernel
  have hparse : (Password.Setting.parse? ("$2b$10$" ++ dummySalt)).isSome = true := by decide +kernel
  obtain ⟨setting, hsetting⟩ := Option.isSome_iff_exists.1 hparse
  obtain ⟨hash, hhash⟩ : ∃ hash, Password.hashWith dummyPassword ("$2b$10$" ++ dummySalt) = .ok hash := by
    rw [Password.hashWith, if_neg hshort, hsetting]
    exact ⟨_, rfl⟩
  refine ⟨hash, ?_, Password.readable_of_hashWith hhash⟩
  rw [dummyHash, Password.hash, hsalt]
  exact hhash

/-- How a password ends that finds no account. -/
def rejection (password : String) : Except Failure (Option Value) := checkCredential .nothing password

/-- **Any readable hash could stand in for that of an unknown handle**: no account is found, whether
or not the password fits it. -/
theorem rejection_eq {dummy : String} (h : Password.Readable dummy) (password : String) :
    rejection password = (Password.check password dummy).map fun _ => none := by
  obtain ⟨hash, hhash, hreadable⟩ := dummyHash_readable
  have hrejection : rejection password = (Password.check password hash).map fun _ => none := by
    simp only [rejection, checkCredential, storedHash, hhash]
    show (Password.check password hash >>= fun _ => .ok none) = _
    cases Password.check password hash <;> rfl
  rw [hrejection]
  by_cases hlong : Password.maxPasswordBytes < password.utf8ByteSize
  · rw [Password.check_of_long hlong, Password.check_of_long hlong]
  · obtain ⟨accepted, haccepted⟩ := Password.check_of_readable hlong hreadable
    obtain ⟨accepted', haccepted'⟩ := Password.check_of_readable hlong h
    rw [haccepted, haccepted']
    rfl

/-- The dummy's own password finds no account either. -/
theorem rejection_cases (password : String) :
    rejection password = .ok none ∨ ∃ e, rejection password = .error e := by
  obtain ⟨hash, -, hreadable⟩ := dummyHash_readable
  rw [rejection_eq hreadable]
  cases Password.check password hash with
  | error failure => exact .inr ⟨failure, rfl⟩
  | ok accepted => exact .inl rfl

theorem rejection_of_long {password : String}
    (h : Password.maxPasswordBytes < password.utf8ByteSize) :
    rejection password = .error .passwordTooLong := by
  obtain ⟨hash, -, hreadable⟩ := dummyHash_readable
  rw [rejection_eq hreadable, Password.check_of_long h]
  rfl

/-- **A readable hash lets a password that does not fit it end as before an unknown handle.** -/
theorem checkCredential_refused {password hash : String} (h : Password.Readable hash)
    (hwrong : Password.check password hash ≠ .ok true) (account : Value) :
    checkCredential (.credential account (.text hash)) password = rejection password := by
  rw [checkCredential_text, rejection_eq h]
  cases hresult : Password.check password hash with
  | error failure => rfl
  | ok accepted =>
    cases accepted with
    | false => rfl
    | true => exact absurd hresult hwrong

/-! ### Over the memory store -/

/-- Only the password of the stored hash finds an account. -/
theorem checkCredential_found {found : Option (Uuid × String)} {password : String}
    {value : Value}
    (h : checkCredential (.ofCredential? found) password = .ok (some value)) :
    ∃ account hash, found = some (account, hash) ∧ value = .uuid account ∧
      Password.check password hash = .ok true := by
  cases found with
  | none =>
    change rejection password = _ at h
    rcases rejection_cases password with hnone | ⟨e, herror⟩
    · rw [hnone] at h
      cases h
    · rw [herror] at h
      cases h
  | some pair =>
    obtain ⟨account, hash⟩ := pair
    rw [Reply.ofCredential?, checkCredential_text] at h
    cases hcheck : Password.check password hash with
    | error e =>
      rw [hcheck] at h
      cases h
    | ok accepted =>
      rw [hcheck] at h
      cases accepted <;> cases h
      exact ⟨account, hash, rfl, rfl, hcheck⟩

/-- The handle stands for this account, whose hash accepts the password. -/
def Accepts (s : State) (handle password : String) (account : Uuid) : Prop :=
  ∃ hash, s.login? handle = some (account, hash) ∧ Password.check password hash = .ok true

section
variable {s : State} {handle password : String} {account : Uuid}

/-- Who is found has the handle, and a password method whose hash accepts the password. -/
theorem Accepts.sound (h : Accepts s handle password account) :
    s.Bears account handle ∧ ∃ hash ∈ s.hashes account, Password.check password hash = .ok true := by
  obtain ⟨hash, hlogin, hcheck⟩ := h
  obtain ⟨hbears, hmem⟩ := Store.Memory.login?_sound hlogin
  exact ⟨hbears, hash, hmem, hcheck⟩

theorem checkCredential_of_accepts (h : Accepts s handle password account) :
    checkCredential (.ofCredential? (s.login? handle)) password = .ok (some (.uuid account)) := by
  obtain ⟨hash, hlogin, hcheck⟩ := h
  simp [hlogin, Store.Reply.ofCredential?, checkCredential_text, hcheck, Except.map]

/-- An account is found exactly if it accepts the password. -/
theorem checkCredential_eq_found_iff {value : Value} :
    checkCredential (.ofCredential? (s.login? handle)) password = .ok (some value) ↔
      ∃ account, value = .uuid account ∧ Accepts s handle password account := by
  constructor
  · intro h
    obtain ⟨account, hash, hlogin, rfl, hcheck⟩ := checkCredential_found h
    exact ⟨account, rfl, hash, hlogin, hcheck⟩
  · rintro ⟨account, rfl, h⟩
    exact checkCredential_of_accepts h

/-- **All passwords that find no account end in one way**, whatever their handle stands for. -/
theorem checkCredential_of_not_accepts (hhashed : s.Hashed)
    (h : ∀ account, ¬ Accepts s handle password account) :
    checkCredential (.ofCredential? (s.login? handle)) password = rejection password := by
  cases hlogin : s.login? handle with
  | none => rfl
  | some login =>
    obtain ⟨account, hash⟩ := login
    have hreadable := hhashed account hash (Store.Memory.login?_sound hlogin).2
    exact checkCredential_refused hreadable (fun hcheck => h account ⟨hash, hlogin, hcheck⟩) _

end

section
variable {w : World} {context : Context String} (hlinked : Store.Memory.Linked w.memory)
  (hlive : context.isDone w.clock = false) (requestId handle password : String) (sender : Sender)
include hlinked hlive

/-- Under a live context the store says what the handle stands for. -/
theorem handler_credential :
    plainHandler sender context (.store (.passwordCredential handle)) w =
      (.ok (.ofCredential? (w.memory.login? handle)), w) := by
  show w.perform context _ = _
  rw [Registry.perform_step hlive, Store.Memory.step_credential hlinked]
  rfl

/-- What the handle stands for decides, and only the log is written to. -/
theorem run_login :
    (authenticate requestId handle password).run (plainHandler sender context) w =
      match checkCredential (.ofCredential? (w.memory.login? handle)) password with
      | .ok none => (.ok none, w.note (.authenticationFailed handle))
      | o => (o, w) := by
  rw [run_authenticate, handler_credential hlinked hlive]
  rfl

/-- An attempt that no account accepts is rejected, and only the log tells of it. -/
theorem run_login_rejected (hhashed : w.memory.Hashed)
    (h : ∀ account, ¬ Accepts w.memory handle password account) :
    (authenticate requestId handle password).run (plainHandler sender context) w =
      match rejection password with
      | .ok none => (.ok none, w.note (.authenticationFailed handle))
      | o => (o, w) := by
  rw [run_login hlinked hlive, checkCredential_of_not_accepts hhashed h]

theorem run_login_outcome :
    ((authenticate requestId handle password).run (plainHandler sender context) w).1 =
      checkCredential (.ofCredential? (w.memory.login? handle)) password := by
  rw [run_authenticate_outcome, handler_credential hlinked hlive]
  rfl

end

/-! ### Failures of the check itself -/

/-- The answer of the store with which a password makes authentication fail unclassified. -/
inductive Escapes (password : String) : Except Fault Reply → Failure → Prop
  /-- Nobody foresaw the fault of the store. -/
  | unclassified {fault : Fault} : fault.isStorage = false →
    Escapes password (.error fault) (.store fault)
  /-- No hash is looked at for a password that is too long, not even that of an unknown handle. -/
  | unknown : Password.maxPasswordBytes < password.utf8ByteSize →
    Escapes password (.ok .nothing) .passwordTooLong
  | tooLong {account : Value} {hash : String} :
    Password.maxPasswordBytes < password.utf8ByteSize →
    Escapes password (.ok (.credential account (.text hash))) .passwordTooLong
  | unreadable {account : Value} {hash : String} :
    ¬ Password.maxPasswordBytes < password.utf8ByteSize → ¬ Password.Readable hash →
    Escapes password (.ok (.credential account (.text hash))) .invalidSalt
  /-- The stored hash is no text. -/
  | untyped {account hash : Value} : (∀ text, hash ≠ .text text) →
    Escapes password (.ok (.credential account hash)) (.missingField hash.kind "encode")
  /-- The answer is neither a credential nor nothing. -/
  | misshapen {reply : Reply} : reply ≠ .nothing → (∀ account hash, reply ≠ .credential account hash) →
    Escapes password (.ok reply) (.noCredential reply.kind)

section
variable {requestId password : String} {found : Except Fault Reply} {failure : Failure}

theorem not_registry_of_escapes (h : Escapes password found failure) (e : RegistryError) :
    failure ≠ .registry e := by
  cases h <;> nofun

/-- What escapes is what authentication ends with. -/
theorem outcome_of_escapes (h : Escapes password found failure) :
    outcome requestId password found = .error failure := by
  cases h with
  | unclassified hfault => simp [outcome, hfault]
  | unknown hlong => exact rejection_of_long hlong
  | tooLong hlong => simp [outcome, checkCredential_text, Password.check_of_long hlong, Except.map]
  | unreadable hshort hhash =>
    simp [outcome, checkCredential_text, Password.check_of_unreadable hshort hhash, Except.map]
  | @untyped account hash htext =>
    cases hash with
    | text text => exact absurd rfl (htext text)
    | _ => rfl
  | @misshapen reply hsome hcredential =>
    cases reply with
    | credential account hash => exact absurd rfl (hcredential account hash)
    | value v =>
      cases v with
      | null => exact absurd rfl hsome
      | _ => rfl
    | _ => rfl

/-- **Authentication answers, is refused by the registry, or something escapes.** -/
theorem answered_or_escapes (requestId password : String) (found : Except Fault Reply) :
    ((∃ account?, outcome requestId password found = .ok account?) ∨
      ∃ e, outcome requestId password found = .error (.registry e)) ∨
      ∃ failure, Escapes password found failure := by
  cases found with
  | error fault =>
    cases hfault : fault.isStorage with
    | true => exact .inl (.inr ⟨_, by simp [outcome, hfault]; rfl⟩)
    | false => exact .inr ⟨_, .unclassified hfault⟩
  | ok reply =>
    cases reply with
    | credential account hash =>
      cases hash with
      | text hash =>
        by_cases hlong : Password.maxPasswordBytes < password.utf8ByteSize
        · exact .inr ⟨_, .tooLong hlong⟩
        · by_cases hreadable : Password.Readable hash
          · obtain ⟨accepted, haccepted⟩ := Password.check_of_readable hlong hreadable
            exact .inl (.inl ⟨_, by simp [outcome, checkCredential_text, haccepted, Except.map]; rfl⟩)
          · exact .inr ⟨_, .unreadable hlong hreadable⟩
      | _ => exact .inr ⟨_, .untyped nofun⟩
    | value v =>
      cases v with
      | null =>
        by_cases hlong : Password.maxPasswordBytes < password.utf8ByteSize
        · exact .inr ⟨_, .unknown hlong⟩
        · obtain ⟨hash, -, hreadable⟩ := dummyHash_readable
          obtain ⟨accepted, haccepted⟩ := Password.check_of_readable hlong hreadable
          exact .inl (.inl ⟨none, (rejection_eq hreadable password).trans (by rw [haccepted]; rfl)⟩)
      | _ => exact .inr ⟨_, .misshapen nofun nofun⟩
    | _ => exact .inr ⟨_, .misshapen nofun nofun⟩

end

end EmailOwnership.Authentication
