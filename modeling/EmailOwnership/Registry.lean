import EmailOwnership.Program

/-! The claim and verification rules of email addresses.

An address is unknown, unowned (provisioned, not yet claimed), claimed by an account,
or verified for an account. `add` decides by what the store holds:

* no record: create one, owned by the caller;
* another account's record: already claimed;
* the caller's verified record: already verified;
* the caller's unverified record: replace its code, nothing else;
* an unowned record: take it over with the new code, unverified.

Each write is one conditional store call. A write that matches nothing means that
another request got there first; that is reported as a conflict, never retried. A
storage fault of any call becomes an internal error that names request and operation. -/
namespace EmailOwnership.Registry

/-! ### Refusals -/

/-- Why the registry refuses, in its own words. -/
inductive Refusal
  /-- Another account owns the address, or took it first. -/
  | claimed
  /-- The address to provision is known already. -/
  | known
  | verified
  /-- The record changed between the read and the new code. -/
  | changed
  /-- Nothing to verify: no record of the account at this address. -/
  | notOwned
  /-- A record that was just written is not there. -/
  | missing
  deriving DecidableEq

def Refusal.kind : Refusal → ErrorKind
  | .claimed | .known | .changed => .alreadyClaimed
  | .verified => .alreadyVerified
  | .notOwned => .notFound
  | .missing => .internal

def Refusal.message : Refusal → String
  | .claimed => "email address already claimed"
  | .known => "email address already exists"
  | .verified => "email address already exists and is verified"
  | .changed => "email address changed while re-issuing code"
  | .notOwned => "email address not found for this account"
  | .missing => "email address not found"

/-! ### The frame of an operation -/

/-- The details of every error of one operation: request, operation and what it is about. -/
def details (requestId operation : String) (about : List (String × Detail)) : Details :=
  Table.ofList (("request_id", .text requestId) :: ("operation", .text operation) :: about)

def refuse {α : Type} (r : Refusal) (details : Details) : Program α :=
  .fail (.registry ⟨r.kind, r.message, details, none⟩)

/-- A store call of an operation: storage faults become internal errors, and are logged. -/
def stored (operation : String) (details : Details) (c : Store.Call) : Program Store.Reply := do
  match ← Program.call c with
  | .ok reply => pure reply
  | .error fault =>
    if fault.isStorage then
      Program.log (.storageFailed operation)
      .fail (.registry ⟨.internal, fault.message, details, some fault⟩)
    else .fail (.store fault)

/-! ### Claiming -/

def claimDetails (requestId : String) (account : Uuid) (address : String) : Details :=
  details requestId "add" [("address", .text address), ("account_id", .id account)]

/-- The first claim of an unknown address. -/
def create (details : Details) (account : Uuid) (address code : String) : Program Store.Reply := do
  match ← stored "add" details (.createEmail address (some account) code) with
  | .nothing =>
    Program.log (.creationLost address account)
    refuse .claimed details
  | created =>
    Program.log (.added address account)
    pure created

/-- The first claim of a provisioned address. -/
def takeOver (details : Details) (account : Uuid) (address code : String) :
    Program Store.Reply := do
  match ← stored "add" details (.claimUnowned address account code) with
  | .nothing =>
    Program.log (.unownedLost address)
    refuse .claimed details
  | claimed =>
    Program.log (.unownedClaimed address account)
    pure claimed

/-- Why a new code matched nothing, by another look at the record. -/
def codeLost (details : Details) (address : String) : Store.Reply → Program Store.Reply
  | .nothing => do
    Program.log (.changedWhileReissuing address)
    refuse .changed details
  | current => do
    let verified ← Program.fieldOf current .verified
    if verified.isTrue then refuse .verified details
    else
      Program.log (.changedWhileReissuing address)
      refuse .changed details

/-- A further claim of the account's own address. If the write matches nothing, one more
look at the record says whether it was verified meanwhile. -/
def reissue (details : Details) (account : Uuid) (address code : String) :
    Program Store.Reply := do
  match ← stored "add" details (.reissueCode address account code) with
  | .nothing => codeLost details address (← stored "add" details (.getEmail address))
  | updated =>
    Program.log (.codeReissued address)
    pure updated

/-- What a claim does about the record that it found. -/
def claim (details : Details) (account : Uuid) (address code : String) :
    Store.Reply → Program Store.Reply
  | .nothing => create details account address code
  | existing => do
    let owner ← Program.fieldOf existing .owner
    if owner = .null then takeOver details account address code
    else if owner ≠ .uuid account then refuse .claimed details
    else
      let verified ← Program.fieldOf existing .verified
      if verified.isTrue then refuse .verified details
      else reissue details account address code

/-- Claims an address for an account; returns what the write returned. -/
def add (requestId : String) (account : Uuid) (address code : String) : Program Store.Reply := do
  if code.isEmpty then .fail .emptyCode else
  let details := claimDetails requestId account address
  claim details account address code (← stored "add" details (.getEmail address))

/-! ### Other operations -/

/-- Creates an unowned record that awaits a claim. -/
def provision (requestId address code : String) : Program Store.Reply := do
  if code.isEmpty then .fail .emptyCode else
  let details := details requestId "provision" [("address", .text address)]
  match ← stored "provision" details (.createEmail address none code) with
  | .nothing => refuse .known details
  | created =>
    Program.log (.provisioned address)
    pure created

/-- The stored code of an address. Asked right after a claim, so no record is an inconsistency. -/
def getCode (requestId address : String) : Program Store.Value := do
  let details := details requestId "get_code" [("address", .text address)]
  match ← stored "get_code" details (.getEmail address) with
  | .nothing => refuse .missing details
  | record => Program.fieldOf record .code

/-- The account whose record has both this address and this code. -/
def lookupCode (requestId address code : String) : Program Store.Reply :=
  stored "lookup_code" (details requestId "lookup_code" [("address", .text address)])
    (.accountByCode address code)

/-- Marks the address verified; the code was checked before, by `lookupCode`. -/
def verify (requestId : String) (account : Uuid) (address : String) : Program Unit := do
  let details := details requestId "verify" [("address", .text address), ("account_id", .id account)]
  let affected ← stored "verify" details (.markVerified address account)
  if affected.isZero then refuse .notOwned details
  else Program.log (.verified address account)

/-- The account that owns the address, verified or not. -/
def lookupAccount (requestId address : String) : Program Store.Reply :=
  stored "lookup_account" (details requestId "lookup_account" [("address", .text address)])
    (.accountByEmail address)

/-- Deletes a record of the account; one that is not there or not the account's is left alone. -/
def remove (requestId : String) (account email : Uuid) : Program Unit := do
  let details := details requestId "remove" [("email_id", .id email), ("account_id", .id account)]
  let affected ← stored "remove" details (.deleteEmail email account)
  if affected.isZero then Program.log (.nothingRemoved email account)
  else Program.log (.removed email account)

end EmailOwnership.Registry
