import EmailOwnership.Text.Pieces

/-! Texts of any characters in ASCII letters, digits and hyphens.

The ASCII characters of a text stand first, before a hyphen if there are any. The others
follow as numbers: each says how far on from the one before it the next character is to be
inserted, where the places of a text count once for every code point. A number is written
with its lowest digit first, to the base thirty-six; the digit that ends it is below a
threshold, and the thresholds follow the numbers that came before. -/
namespace EmailOwnership.Text.Punycode

/-! ### Digits and thresholds -/

def base : Nat := 36

def digit (n : Nat) : Char := if n < 26 then Char.ofNat (0x61 + n) else Char.ofNat (0x30 + (n - 26))

def digitValue? (c : Char) : Option Nat :=
  if 'a' ≤ c ∧ c ≤ 'z' then some (c.toNat - 'a'.toNat)
  else if 'A' ≤ c ∧ c ≤ 'Z' then some (c.toNat - 'A'.toNat)
  else if '0' ≤ c ∧ c ≤ '9' then some (c.toNat - '0'.toNat + 26)
  else none

def highestThreshold : Nat := 26

/-- The threshold of a digit, by its place in the number. -/
def threshold (bias place : Nat) : Nat :=
  min highestThreshold (max 1 (base * (place + 1) - bias))

theorem threshold_pos (bias place : Nat) : 0 < threshold bias place := by
  unfold threshold highestThreshold
  omega

/-- Divides until the rest is small, and counts the divisions. -/
def settle (delta divisions : Nat) : Nat × Nat :=
  if 455 < delta then settle (delta / 35) (divisions + 1) else (delta, divisions)
termination_by delta
decreasing_by exact Nat.div_lt_self (by omega) (by omega)

/-- The bias after a number, in a text that now has `size` characters. -/
def adapt (delta : Nat) (isFirst : Bool) (size : Nat) : Nat :=
  let delta := if isFirst then delta / 700 else delta / 2
  let (rest, divisions) := settle (delta + delta / size) 0
  base * divisions + base * rest / (rest + 38)

def firstBias : Nat := 72

/-- Below it are the characters that stand for themselves. -/
def firstCode : Nat := 0x80

/-! ### Decoding -/

/-- A text under way: the code point inserted last, the place behind it, and the number that
is being read, with the place and the weight of its next digit. -/
structure Decoder where
  text : List Char
  code : Nat
  place : Nat
  bias : Nat
  number : Nat
  digits : Nat
  weight : Nat

namespace Decoder

def start (text : List Char) : Decoder := ⟨text, firstCode, 0, firstBias, 0, 0, 1⟩

/-- Inserts the character that a number leads to; only the first goes from place zero. -/
def insert (s : Decoder) (delta : Nat) : Option Decoder :=
  let size := s.text.length + 1
  let total := s.place + delta
  let code := s.code + total / size
  let place := total % size
  if code.isValidChar then
    some ⟨s.text.take place ++ Char.ofNat code :: s.text.drop place, code, place + 1,
      adapt delta (s.place == 0) size, 0, 0, 1⟩
  else none

def step (s : Decoder) (c : Char) : Option Decoder := do
  let d ← digitValue? c
  let number := s.number + d * s.weight
  let limit := threshold s.bias s.digits
  if d < limit then s.insert number
  else pure {s with number := number, digits := s.digits + 1, weight := s.weight * (base - limit)}

/-- The text, if no number is left open. -/
def finish? (s : Decoder) : Option (List Char) := if s.digits = 0 then some s.text else none

end Decoder

/-- The text before the last hyphen, and what follows it; without one nothing stands before. -/
def cutLast (cs : List Char) : List Char × List Char :=
  match cut '-' cs.reverse with
  | (behind, some before) => (before.reverse, behind.reverse)
  | (_, none) => ([], cs)

def decode? (cs : List Char) : Option (List Char) :=
  let (before, behind) := cutLast cs
  (behind.foldlM Decoder.step (Decoder.start before)).bind Decoder.finish?

/-! ### Encoding -/

def digits (bias place n : Nat) : List Char :=
  let limit := threshold bias place
  if n < limit then [digit n]
  else digit (limit + (n - limit) % (base - limit)) ::
    digits bias (place + 1) ((n - limit) / (base - limit))
termination_by n
decreasing_by
  have := threshold_pos bias place
  exact Nat.lt_of_le_of_lt (Nat.div_le_self ..) (by omega)

/-- What was written so far, for how many characters, and the number that is growing. -/
structure Encoder where
  code : Nat
  handled : Nat
  bias : Nat
  delta : Nat
  written : List Char

/-- Passes a character on the way through the text for the code point `m`. -/
def Encoder.pass (m : Nat) (isFirst : Nat → Bool) (s : Encoder) (c : Char) : Encoder :=
  if c.toNat < m then {s with delta := s.delta + 1}
  else if c.toNat = m then
    ⟨s.code, s.handled + 1, adapt s.delta (isFirst s.handled) (s.handled + 1), 0,
      s.written ++ digits s.bias 0 s.delta⟩
  else s

/-- Writes the characters of the code point `m`, which is above those before. -/
def Encoder.write (text : List Char) (isFirst : Nat → Bool) (s : Encoder) (m : Nat) : Encoder :=
  let s := {s with delta := s.delta + (m - s.code) * (s.handled + 1)}
  let s := text.foldl (Encoder.pass m isFirst) s
  {s with code := m + 1, delta := s.delta + 1}

def encode (cs : List Char) : List Char :=
  let plain := cs.filter isAscii
  let codes := ((cs.filter (!isAscii ·)).map Char.toNat).mergeSort.eraseDups
  let start : Encoder := ⟨firstCode, plain.length, firstBias, 0, []⟩
  let hyphen := if plain.isEmpty then [] else ['-']
  plain ++ hyphen ++ (codes.foldl (Encoder.write cs (· == plain.length)) start).written

end EmailOwnership.Text.Punycode
