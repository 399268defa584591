import EmailOwnership.Log
import EmailOwnership.Store.Memory
import EmailOwnership.View

/-! Stores without their codes.

To redact is to blank every verification code and to leave the rest. A step of the redacted
store with the redacted call is the redaction of the step, unless the call asks for a code
(`step_redact`); and nothing that callers are shown is lost (`EmailView.ofReply?_redact`,
`AccountView.ofReply?_redact`). -/
namespace EmailOwnership

/-! ### Records and accounts -/

def EmailRecord.redact (r : EmailRecord) : EmailRecord := {r with code := ""}

def Account.redact (a : Account) : Account := {a with emails := a.emails.map EmailRecord.redact}

namespace Store

/-! ### Rows and replies -/

def Value.redact : Value → Value
  | .text _ => .text ""
  | v => v

def EmailRow.redact (row : EmailRow) : EmailRow := {row with code := row.code.redact}

def AccountRow.redact (row : AccountRow) : AccountRow :=
  {row with emails := row.emails.map EmailRow.redact}

def Reply.redact : Reply → Reply
  | .record row => .record row.redact
  | .account row => .account row.redact
  | reply => reply

/-- Replies that differ in codes alone. -/
abbrev Reply.Alike (reply reply' : Reply) : Prop := reply.redact = reply'.redact

/-- A redacted row stands for the redacted record, or for none like the row itself. -/
theorem EmailRow.record?_redact (row : EmailRow) :
    row.redact.record? = row.record?.map EmailRecord.redact := by
  obtain ⟨id, address, owner, code, verified⟩ := row
  cases id <;> cases address <;> try rfl
  cases owner <;> cases code <;> try rfl
  all_goals cases verified <;> rfl

theorem mapM_redact (rows : List EmailRow) :
    (rows.map EmailRow.redact).mapM EmailRow.record? =
      (rows.mapM EmailRow.record?).map (List.map EmailRecord.redact) := by
  induction rows with
  | nil => rfl
  | cons row rest ih =>
    rw [List.map_cons, List.mapM_cons, List.mapM_cons, ih, EmailRow.record?_redact]
    cases row.record? <;> cases rest.mapM EmailRow.record? <;> rfl

theorem AccountRow.account?_redact (row : AccountRow) :
    row.redact.account? = row.account?.map Account.redact := by
  obtain ⟨id, handle, name, emails, authentication, roles, tags⟩ := row
  cases id <;> cases handle <;> cases name <;> try rfl
  simp only [redact, account?, mapM_redact]
  cases emails.mapM EmailRow.record? <;> cases authentication.mapM AuthenticationRow.method? <;>
    cases roles.mapM RoleRow.role? <;> cases tags.mapM Value.text? <;> rfl

namespace Reply

@[simp] theorem redact_ofRecord? (r? : Option EmailRecord) :
    (ofRecord? r?).redact = ofRecord? (r?.map EmailRecord.redact) := by
  cases r? <;> rfl

@[simp] theorem redact_ofAccount? (a? : Option Account) :
    (ofAccount? a?).redact = ofAccount? (a?.map Account.redact) := by
  cases a? with
  | none => rfl
  | some a =>
    simp only [ofAccount?, redact, AccountRow.redact, AccountRow.ofAccount, Account.redact,
      Option.map_some, List.map_map]
    rfl

@[simp] theorem redact_ofCredential? (c? : Option (Uuid × String)) :
    (ofCredential? c?).redact = ofCredential? c? := by
  cases c? <;> rfl

theorem redact_eq_nothing_iff {reply : Reply} : reply.redact = .nothing ↔ reply = .nothing := by
  cases reply <;> simp [redact]

theorem kind_redact (reply : Reply) : reply.redact.kind = reply.kind := by
  cases reply <;> rfl

theorem isZero_redact (reply : Reply) : reply.redact.isZero = reply.isZero := by
  cases reply <;> rfl

/-- Redaction touches the code alone. -/
theorem field?_redact {field : Field} (h : field ≠ .code) (reply : Reply) :
    reply.redact.field? field = reply.field? field := by
  cases reply <;> cases field <;> first | rfl | exact absurd rfl h

theorem field?_code_redact (reply : Reply) :
    reply.redact.field? .code = (reply.field? .code).map Value.redact := by
  cases reply <;> rfl

/-! ### Replies that are alike -/

section
variable {reply reply' : Reply}

theorem Alike.eq_nothing_iff (h : reply.Alike reply') : reply = .nothing ↔ reply' = .nothing := by
  rw [← redact_eq_nothing_iff, h, redact_eq_nothing_iff]

theorem Alike.kind (h : reply.Alike reply') : reply.kind = reply'.kind := by
  rw [← kind_redact, h, kind_redact]

theorem Alike.isZero (h : reply.Alike reply') : reply.isZero = reply'.isZero := by
  rw [← isZero_redact, h, isZero_redact]

theorem Alike.field? (h : reply.Alike reply') {field : Field} (hfield : field ≠ .code) :
    reply.field? field = reply'.field? field := by
  rw [← field?_redact hfield, h, field?_redact hfield]

end

end Reply

end Store

/-! ### Views -/

/-- The view of a record does not show its code. -/
theorem EmailView.ofReply?_redact (reply : Store.Reply) : ofReply? reply.redact = ofReply? reply := by
  cases reply with
  | record row =>
    simp only [Store.Reply.redact, ofReply?, Store.EmailRow.record?_redact, Option.map_map]
    rfl
  | _ => rfl

/-- Nor does that of an account show the codes of its records. -/
theorem AccountView.ofReply?_redact (reply : Store.Reply) :
    ofReply? reply.redact = ofReply? reply := by
  cases reply with
  | account row =>
    have hview : ofAccount ∘ Account.redact = ofAccount := by
      funext a
      simp only [Function.comp, ofAccount, Account.redact, List.map_map]
      rfl
    simp only [Store.Reply.redact, ofReply?, Store.AccountRow.account?_redact, Option.map_map, hview]
  | _ => rfl

section
variable {reply reply' : Store.Reply} (h : reply.Alike reply')
include h

theorem EmailView.ofReply?_alike : ofReply? reply = ofReply? reply' := by
  rw [← ofReply?_redact, h, ofReply?_redact]

theorem AccountView.ofReply?_alike : ofReply? reply = ofReply? reply' := by
  rw [← ofReply?_redact, h, ofReply?_redact]

end

namespace Store

/-! ### Calls -/

/-- The call without the code that it brings to be stored. -/
def Call.redact : Call → Call
  | .createEmail address owner _ => .createEmail address owner ""
  | .claimUnowned address account _ => .claimUnowned address account ""
  | .reissueCode address account _ => .reissueCode address account ""
  | c => c

@[simp] theorem Call.method_redact (c : Call) : c.redact.method = c.method := by
  cases c <;> rfl

namespace Memory

def State.redact (s : State) : State := {s with emails := s.emails.mapValues EmailRecord.redact}

section
variable (s : State)

@[simp] theorem State.redact_accounts : s.redact.accounts = s.accounts := rfl

@[simp] theorem State.redact_authentication : s.redact.authentication = s.authentication := rfl

@[simp] theorem State.redact_roles : s.redact.roles = s.roles := rfl

@[simp] theorem State.redact_tags : s.redact.tags = s.tags := rfl

@[simp] theorem State.redact_get? (address : String) :
    s.redact.emails.get? address = (s.emails.get? address).map EmailRecord.redact :=
  Table.get?_mapValues ..

theorem State.redact_put (address : String) (r : EmailRecord) :
    State.redact {s with emails := s.emails.put address r} =
      {s.redact with emails := s.redact.emails.put address r.redact} := by
  simp only [State.redact, Table.mapValues_put]

end

/-- The records of an account are redacted with the store. -/
theorem buildAccount_redact (account : Uuid) (withRoles : Bool) (s : State) :
    buildAccount account withRoles s.redact =
      (buildAccount account withRoles s).map Account.redact := by
  have hemails : s.redact.emails.values.filter (fun r => decide (r.owner = some account)) =
      (s.emails.values.filter fun r => decide (r.owner = some account)).map EmailRecord.redact := by
    simp only [State.redact, Table.values_mapValues, List.filter_map]
    rfl
  simp only [buildAccount, hemails, State.redact_accounts, State.redact_authentication,
    State.redact_roles, State.redact_tags]
  cases s.accounts.get? account <;> cases s.authentication.get? account <;> cases withRoles <;>
    try rfl
  cases s.roles.get? account <;> cases s.tags.get? account <;> rfl

/-- Credentials do not depend on codes. -/
theorem credential_redact (handle : String) (s : State) (rows : List (Uuid × Profile)) :
    credential handle s.redact rows = credential handle s rows := by
  induction rows with
  | nil => rfl
  | cons row rest ih =>
    rw [credential, credential, ih]
    rfl

/-- The answer to a write that is granted, and the store after it. -/
theorem written_redact (s : State) (address : String) (r : EmailRecord) :
    ((.ok (.ofRecord? (some r.redact)), {s.redact with
        emails := s.redact.emails.put address r.redact}) : Except Fault Reply × State) =
      ((Except.ok (Reply.ofRecord? (some r))).map Reply.redact,
        State.redact {s with emails := s.emails.put address r}) := by
  rw [State.redact_put]
  rfl

/-- **A step is redacted with its call and its store**, unless it asks for a code. -/
theorem step_redact {c : Call} (hc : c.method ≠ .accountByCode) (s : State) :
    step c.redact s.redact = ((step c s).1.map Reply.redact, (step c s).2.redact) := by
  cases c with
  | getEmail address =>
    simp only [Call.redact, step, State.redact_get?, Except.map, Reply.redact_ofRecord?]
  | createEmail address owner code =>
    simp only [Call.redact, step, State.redact_get?]
    cases s.emails.get? address with
    | none => exact written_redact s.draw.2 address ⟨s.draw.1, address, owner, code, false⟩
    | some r => rfl
  | claimUnowned address account code =>
    simp only [Call.redact, step, State.redact_get?]
    cases s.emails.get? address with
    | none => rfl
    | some r =>
      by_cases ho : r.owner.isNone
      · simp only [Option.map_some, EmailRecord.redact, if_pos ho]
        exact written_redact s address {r with owner := some account, code, verified := false}
      · simp only [Option.map_some, EmailRecord.redact, if_neg ho]
        rfl
  | reissueCode address account code =>
    simp only [Call.redact, step, State.redact_get?]
    cases s.emails.get? address with
    | none => rfl
    | some r =>
      by_cases hown : r.owner = some account ∧ r.verified = false
      · simp only [Option.map_some, EmailRecord.redact, if_pos hown]
        exact written_redact s address {r with code}
      · simp only [Option.map_some, EmailRecord.redact, if_neg hown]
        rfl
  | markVerified address account =>
    simp only [Call.redact, step, State.redact_get?]
    cases s.emails.get? address with
    | none => rfl
    | some r =>
      by_cases ho : r.owner = some account
      · simp only [Option.map_some, EmailRecord.redact, if_pos ho]
        exact congrArg (Prod.mk _) (State.redact_put s address {r with verified := true}).symm
      · simp only [Option.map_some, EmailRecord.redact, if_neg ho]
        rfl
  | deleteEmail email account =>
    have hfind :
        s.redact.emails.rows.find? (fun r => decide (r.2.id = email ∧ r.2.owner = some account)) =
          (s.emails.rows.find? fun r => decide (r.2.id = email ∧ r.2.owner = some account)).map
            fun r => (r.1, r.2.redact) := List.find?_map ..
    simp only [Call.redact, step, hfind]
    cases s.emails.rows.find? fun r => decide (r.2.id = email ∧ r.2.owner = some account) with
    | none => rfl
    | some row =>
      simp only [Option.map_some, State.redact, Table.mapValues_erase]
      rfl
  | accountByCode address code => exact absurd rfl hc
  | accountByEmail address =>
    simp only [Call.redact, step, State.redact_get?]
    cases s.emails.get? address with
    | none => rfl
    | some r =>
      obtain ⟨id, address, owner, code, verified⟩ := r
      cases owner with
      | none => rfl
      | some owner =>
        simp only [Option.map_some, EmailRecord.redact, buildAccount_redact]
        cases buildAccount owner true s with
        | error fault => rfl
        | ok a => simp only [Except.map, Reply.redact_ofAccount?, Option.map_some]
  | passwordCredential handle =>
    simp only [Call.redact, step, State.redact_accounts, credential_redact]
    cases credential handle s s.accounts.rows with
    | error fault => rfl
    | ok c? => simp only [Except.map, Reply.redact_ofCredential?]
  | ping => rfl

/-- Whether a request may proceed does not depend on codes either. -/
theorem perform_redact {κ : Type} (context : Context κ) (now : Float) {c : Call}
    (hc : c.method ≠ .accountByCode) (s : State) :
    perform context now c.redact s.redact =
      ((perform context now c s).1.map Reply.redact, (perform context now c s).2.redact) := by
  unfold perform
  cases context.check now with
  | error interruption => rfl
  | ok _ => exact step_redact hc s

end Memory
end Store

/-! ### Log lines -/

/-- The line without the code that it hands out. -/
def Log.Entry.redact : Log.Entry → Log.Entry
  | .codeDelivered address _ => .codeDelivered address ""
  | entry => entry

end EmailOwnership
