/-! Sixty-four printable digits for bytes, as password hashes write them.

Three bytes become four digits; one or two left over become two or three, and the unused
bits of the last digit are zero. `decode?` accepts exactly such text. -/
namespace EmailOwnership.Password.Radix64

def digits : List Char :=
  "./ABCDEFGHIJKLMNOPQRSTUVWXYZabcdefghijklmnopqrstuvwxyz0123456789".toList

def digit (n : Nat) : Char := digits.getD (n % 64) '.'

def value? (c : Char) : Option Nat := digits.idxOf? c

def encode : List UInt8 → List Char
  | [] => []
  | [a] => let n := a.toNat * 16; [digit (n / 64), digit n]
  | [a, b] => let n := (a.toNat * 256 + b.toNat) * 4; [digit (n / 4096), digit (n / 64), digit n]
  | a :: b :: c :: rest =>
    let n := (a.toNat * 256 + b.toNat) * 256 + c.toNat
    digit (n / 262144) :: digit (n / 4096) :: digit (n / 64) :: digit n :: encode rest

/-- Bytes of digit values; no value for a single digit left over or for stray bits. -/
def ofValues? : List Nat → Option (List UInt8)
  | [] => some []
  | [_] => none
  | [a, b] =>
    let n := a * 64 + b
    if n % 16 = 0 then some [UInt8.ofNat (n / 16)] else none
  | [a, b, c] =>
    let n := (a * 64 + b) * 64 + c
    if n % 4 = 0 then some [UInt8.ofNat (n / 1024), UInt8.ofNat (n / 4)] else none
  | a :: b :: c :: d :: rest =>
    let n := ((a * 64 + b) * 64 + c) * 64 + d
    (ofValues? rest).map
      ([UInt8.ofNat (n / 65536), UInt8.ofNat (n / 256), UInt8.ofNat n] ++ ·)

def decode? (cs : List Char) : Option (List UInt8) := (cs.mapM value?).bind ofValues?

end EmailOwnership.Password.Radix64
