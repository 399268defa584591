/-! Numbers as they are written.

Decimal numbers with the double nearest to each, the whole part of a double, and hexadecimal
digits. A whole number of more than `maxIntegerDigits` digits is neither read nor written. -/
namespace EmailOwnership

/-! ### Whole numbers -/

def maxIntegerDigits : Nat := 4300

/-- The decimal digits of a whole number, unless there are too many. -/
def integerText? (n : Int) : Option String :=
  if n.natAbs < Nat.pow 10 maxIntegerDigits then some (toString n) else none

theorem integerText?_eq_none_iff {n : Int} :
    integerText? n = none ↔ ¬ n.natAbs < Nat.pow 10 maxIntegerDigits := by
  unfold integerText?
  split
  · exact ⟨nofun, fun hlong => absurd ‹_› hlong⟩
  · exact ⟨fun _ => ‹_›, fun _ => rfl⟩

/-! ### Decimal numbers -/

/-- `mantissa · 10 ^ exponent`, negated if `negative` is set. -/
structure Decimal where
  negative : Bool
  mantissa : Nat
  exponent : Int
  deriving DecidableEq

namespace Decimal

def digitCount (n : Nat) : Nat := (Nat.toDigits 10 n).length

/-- From this power of ten on, a number is beyond every finite double. -/
def overflowExponent : Int := 310

/-- A number below this power of ten is nearer to zero than to any other double. -/
def underflowExponent : Int := -326

/-- The double nearest to the absolute value. -/
def magnitude (d : Decimal) : Float :=
  let top := d.exponent + digitCount d.mantissa
  if d.mantissa = 0 then 0
  else if overflowExponent < top then 1 / 0
  else if top < underflowExponent then 0
  else Float.ofScientific d.mantissa (decide (d.exponent < 0)) d.exponent.natAbs

def toFloat (d : Decimal) : Float := if d.negative then -d.magnitude else d.magnitude

/-- The number of consecutive digits that `cs` begins with. -/
def digitsValue (cs : List Char) : Nat := cs.foldl (fun n c => 10 * n + (c.toNat - '0'.toNat)) 0

end Decimal

/-! ### Doubles -/

/-- The bit of a significand above those that are stored. -/
def leadingBit : Nat := 0x10000000000000

/-- The whole part of a finite number that is not negative, from its binary form. -/
def wholePart (x : Float) : Nat :=
  let bits := x.toBits.toNat
  let biased := bits / leadingBit % 0x800
  let significand := if biased = 0 then bits % leadingBit else bits % leadingBit + leadingBit
  let exponent := max biased 1
  if 1075 ≤ exponent then significand <<< (exponent - 1075) else significand >>> (1075 - exponent)

/-! ### Hexadecimal digits -/

namespace Text.Hexadecimal

/-- The `width` lowest digits of `n`, highest first. -/
def digits (width n : Nat) : List Char :=
  (List.range width).reverse.map (fun i => Nat.digitChar (n / Nat.pow 16 i % 16))

def digitValue? (c : Char) : Option Nat :=
  if '0' ≤ c ∧ c ≤ '9' then some (c.toNat - '0'.toNat)
  else if 'a' ≤ c ∧ c ≤ 'f' then some (c.toNat - 'a'.toNat + 10)
  else if 'A' ≤ c ∧ c ≤ 'F' then some (c.toNat - 'A'.toNat + 10)
  else none

end Text.Hexadecimal
end EmailOwnership
