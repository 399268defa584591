/-! Characters as bytes, and back.

In UTF-8 decoding takes any bytes: the longest beginning of a sequence that nothing continues
counts as one replacement character, and so does a byte that begins none. In units of two or
four bytes, bytes that make no whole unit and numbers beyond the last code point are refused.
Half of a surrogate pair that stands alone is no character, but a text can have it in it. -/
namespace EmailOwnership.Text

/-! ### Surrogates -/

/-- Characters, and `none` for each half of a surrogate pair that stands alone. -/
abbrev LooseText := List (Option Char)

/-- The text of characters, if it is one. -/
def LooseText.text? (s : LooseText) : Option String := (s.mapM id).map String.ofList

/-- The text with a code point that is no character for each half. -/
def LooseText.filled (s : LooseText) : String := String.ofList (s.map (Option.getD · '\uffff'))

namespace Surrogate

def isHigh (n : Nat) : Bool := decide (0xd800 ≤ n) && decide (n < 0xdc00)

def isLow (n : Nat) : Bool := decide (0xdc00 ≤ n) && decide (n < 0xe000)

/-- The character that two halves write together. -/
def pair (high low : Nat) : Char := Char.ofNat (0x10000 + (high - 0xd800) * 0x400 + (low - 0xdc00))

/-- The character of a code point; half of a pair is none. -/
def char? (n : Nat) : Option Char := if isHigh n || isLow n then none else some (Char.ofNat n)

end Surrogate

/-! ### UTF-8 -/

/-- Stands for bytes that are no character. -/
def replacement : Char := '\ufffd'

def encodeUtf8 (cs : List Char) : List UInt8 := cs.flatMap String.utf8EncodeChar

/-- A sequence that was begun: its value so far, how many bytes it lacks, and the range of
the next one. -/
structure Pending where
  value : Nat
  lacking : Nat
  lowest : Nat
  highest : Nat

/-- What a byte at the head of a sequence says. -/
inductive Head
  | char (c : Char)
  | begins (p : Pending)
  | invalid

/-- The second byte is bounded so that no character has two encodings, and none is a
surrogate or beyond the last code point. -/
def headOf (b : Nat) : Head :=
  if b < 0x80 then .char (Char.ofNat b)
  else if b < 0xc2 then .invalid
  else if b < 0xe0 then .begins ⟨b - 0xc0, 1, 0x80, 0xbf⟩
  else if b < 0xf0 then
    .begins ⟨b - 0xe0, 2, if b = 0xe0 then 0xa0 else 0x80, if b = 0xed then 0x9f else 0xbf⟩
  else if b < 0xf5 then
    .begins ⟨b - 0xf0, 3, if b = 0xf0 then 0x90 else 0x80, if b = 0xf4 then 0x8f else 0xbf⟩
  else .invalid

/-- The sequence with one more byte, which is in its range. -/
def Pending.extend (p : Pending) (b : Nat) : Head :=
  let value := p.value * 0x40 + (b - 0x80)
  if p.lacking ≤ 1 then .char (Char.ofNat value) else .begins ⟨value, p.lacking - 1, 0x80, 0xbf⟩

def Pending.accepts (p : Pending) (b : Nat) : Bool := decide (p.lowest ≤ b) && decide (b ≤ p.highest)

/-- Decodes what follows a sequence that was begun, if one was. -/
def decodeAfter : Option Pending → List UInt8 → List Char
  | none, [] => []
  | some _, [] => [replacement]
  | pending, b :: rest =>
    let next (head : Head) : List Char :=
      match head with
      | .char c => c :: decodeAfter none rest
      | .begins p => decodeAfter (some p) rest
      | .invalid => replacement :: decodeAfter none rest
    match pending with
    | none => next (headOf b.toNat)
    | some p =>
      if p.accepts b.toNat then next (p.extend b.toNat) else replacement :: next (headOf b.toNat)

def decodeUtf8 (bytes : List UInt8) : List Char := decodeAfter none bytes

/-! ### Byte order -/

inductive ByteOrder
  | highFirst
  | lowFirst
  deriving DecidableEq

/-- The number that the bytes of a unit write. -/
def ByteOrder.number (order : ByteOrder) (bytes : List UInt8) : Nat :=
  let ordered := match order with
    | .highFirst => bytes
    | .lowFirst => bytes.reverse
  ordered.foldl (fun n b => 256 * n + b.toNat) 0

/-- The mark at the head of a text that only tells how it is encoded. -/
def byteOrderMark : Char := '\ufeff'

/-- The text without one such mark. -/
def withoutByteOrderMark (cs : List Char) : List Char :=
  match cs with
  | c :: rest => if c = byteOrderMark then rest else cs
  | [] => []

/-! ### Units of two bytes -/

def pairs? (order : ByteOrder) : List UInt8 → Option (List Nat)
  | [] => some []
  | [_] => none
  | a :: b :: rest => (pairs? order rest).map (order.number [a, b] :: ·)

def joinSurrogates : List Nat → LooseText
  | [] => []
  | [n] => [Surrogate.char? n]
  | n :: low :: rest =>
    if Surrogate.isHigh n && Surrogate.isLow low then
      some (Surrogate.pair n low) :: joinSurrogates rest
    else Surrogate.char? n :: joinSurrogates (low :: rest)

def decodeUtf16? (order : ByteOrder) (bytes : List UInt8) : Option LooseText :=
  (pairs? order bytes).map joinSurrogates

/-! ### Units of four bytes -/

def lastCodePoint : Nat := 0x10ffff

def decodeUtf32? (order : ByteOrder) : List UInt8 → Option LooseText
  | [] => some []
  | a :: b :: c :: d :: rest =>
    let n := order.number [a, b, c, d]
    if lastCodePoint < n then none
    else (decodeUtf32? order rest).map (Surrogate.char? n :: ·)
  | _ => none

end EmailOwnership.Text
