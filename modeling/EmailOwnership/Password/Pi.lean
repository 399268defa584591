/-! The binary digits of π behind the point, by Machin's formula
π = 16 arctan(1/5) − 4 arctan(1/239), in integers scaled by a power of two. -/
namespace EmailOwnership.Password

/-- The terms of `scale · arctan(1/x)` from `power = scale / x^n` on, with alternating sign. -/
def arctanTerms (x : Nat) : (fuel : Nat) → (power n : Nat) → (positive : Bool) → Int
  | 0, _, _, _ => 0
  | fuel + 1, power, n, positive =>
    if power = 0 then 0
    else
      let term : Int := power / n
      (if positive then term else -term) + arctanTerms x fuel (power / (x * x)) (n + 2) !positive

/-- `scale · arctan(1/x)`, up to one unit for each of at most `terms` terms. -/
def arctanInverse (x scale terms : Nat) : Int := arctanTerms x terms (scale / x) 1 true

/-- Bits kept beyond those asked for, so that the rounding of the terms stays below them. -/
def guardBits : Nat := 64

/-- The first `count` bits of the fraction of π, as one number. A term of either series has
at least four bits fewer than the one before. -/
def piFraction (count : Nat) : Nat :=
  let bits := count + guardBits
  let scale := Nat.pow 2 bits
  let pi := 16 * arctanInverse 5 scale bits - 4 * arctanInverse 239 scale bits
  (pi - 3 * scale).toNat / Nat.pow 2 guardBits

/-- The fraction of π cut into `count` words of 32 bits, first digits first. -/
def piWords (count : Nat) : Array UInt32 :=
  let fraction := piFraction (32 * count)
  (Array.range count).map (fun i => UInt32.ofNat (fraction >>> (32 * (count - 1 - i))))

end EmailOwnership.Password
