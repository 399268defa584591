import EmailOwnership.Failure
import EmailOwnership.Password.Blowfish
import EmailOwnership.Password.Radix64
import EmailOwnership.Text.Pieces

/-! Password hashes.

A hash is `$version$cost$` followed by 22 digits of salt and 31 of checksum. Passwords
have at most 72 bytes; a longer one is refused before the salt is looked at. `check`
hashes the password again with the settings of a stored hash and compares the texts. -/
namespace EmailOwnership.Password

/-- The settings of a hash: version, cost and sixteen bytes of salt. -/
structure Setting where
  version : String
  cost : Nat
  salt : List UInt8

def maxPasswordBytes : Nat := 72

def minCost : Nat := 4

def maxCost : Nat := 31

def versions : List String := ["2a", "2b", "2x", "2y"]

/-! ### Reading settings -/

/-- Non-empty parts between dollar signs. -/
def dollarParts (s : String) : List String :=
  ((Text.pieces '$' s.toList).filter (!·.isEmpty)).map String.ofList

/-- A plus sign is allowed in front of the digits. -/
def cost? (s : String) : Option Nat :=
  let cs := match s.toList with
    | '+' :: rest => rest
    | cs => cs
  if cs.isEmpty ∨ ¬ cs.all Char.isDigit then none
  else
    let cost := cs.foldl (fun n c => 10 * n + (c.toNat - '0'.toNat)) 0
    if minCost ≤ cost ∧ cost ≤ maxCost then some cost else none

/-- The settings at the head of a salt or of a whole hash. -/
def Setting.parse? (s : String) : Option Setting :=
  match dollarParts s with
  | [version, cost, rest] =>
    if version ∈ versions ∧ 22 ≤ rest.toList.length then do
      let cost ← cost? cost
      let salt ← Radix64.decode? (rest.toList.take 22)
      pure ⟨version, cost, salt⟩
    else none
  | _ => none

/-! ### Hashing -/

/-- The text that is enciphered, and how often. -/
def plaintext : List UInt32 :=
  [0x4f727068, 0x65616e42, 0x65686f6c, 0x64657253, 0x63727944, 0x6f756274]

def encipherTimes (s : Blowfish.State) : Nat → UInt32 × UInt32 → UInt32 × UInt32
  | 0, block => block
  | n + 1, block => encipherTimes s n (Blowfish.encipher s block.1 block.2)

def wordBytes (w : UInt32) : List UInt8 :=
  [(w >>> 24).toUInt8, (w >>> 16).toUInt8, (w >>> 8).toUInt8, w.toUInt8]

def encipherBlocks (s : Blowfish.State) : List UInt32 → List UInt8
  | l :: r :: rest =>
    let (l, r) := encipherTimes s 64 (l, r)
    wordBytes l ++ wordBytes r ++ encipherBlocks s rest
  | _ => []

/-- Twenty-three bytes from the settings and the password, closed by a zero byte and cut at
the greatest length. -/
def checksum (setting : Setting) (password : ByteArray) : List UInt8 :=
  let key := ((password.toList ++ [0]).take maxPasswordBytes).toArray
  let schedule := Blowfish.schedule setting.cost setting.salt.toArray key
  (encipherBlocks schedule plaintext).take 23

def twoDigits (n : Nat) : String := if n < 10 then "0" ++ toString n else toString n

def Setting.head (setting : Setting) : String :=
  "$" ++ setting.version ++ "$" ++ twoDigits setting.cost ++ "$" ++
    String.ofList (Radix64.encode setting.salt)

/-- The hash of a password under the settings that `salt` begins with. -/
def hashWith (password salt : String) : Except Failure String :=
  if maxPasswordBytes < password.utf8ByteSize then .error .passwordTooLong
  else match Setting.parse? salt with
    | none => .error .invalidSalt
    | some setting =>
      .ok (setting.head ++ String.ofList (Radix64.encode (checksum setting password.toUTF8)))

/-- Whether the password has this hash. -/
def check (password hash : String) : Except Failure Bool :=
  (hashWith password hash).map (· == hash)

/-- The numbers of sixteen bits are below this, those of sixty-four with a sign below that. -/
def shortBound : Int := 0x10000

def longBound : Int := 0x8000000000000000

/-- The settings text of a new hash, with 22 digits of salt. -/
def newSalt (cost : Int) (salt : String) : Except Failure String :=
  if cost < -longBound ∨ longBound ≤ cost then .error .roundsTooLarge
  else if cost < 0 ∨ shortBound ≤ cost then .error .roundsOutOfRange
  else if cost < minCost ∨ (maxCost : Int) < cost then .error .invalidRounds
  else .ok ("$2b$" ++ twoDigits cost.toNat ++ "$" ++ salt)

def defaultCost : Int := 10

/-- Hashes a password with a new salt. -/
def hash (password salt : String) (cost : Int) : Except Failure String := do
  hashWith password (← newSalt cost salt)

end EmailOwnership.Password
