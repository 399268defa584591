import EmailOwnership.Numeral

/-! Identifiers.

A `Uuid` is the number that its thirty-two hexadecimal digits write. `text` is the
usual form in five groups; `parse?` also accepts the digits alone, the form in
braces and the `urn:uuid:` form. -/
namespace EmailOwnership

structure Uuid where
  number : Nat
  deriving DecidableEq, Inhabited

namespace Uuid

/-- The identifier drawn at position `n`: version four, with the position in its last group. -/
def drawn (n : Nat) : Uuid := ⟨0x40008000000000000000 + n⟩

theorem drawn_injective {m n : Nat} (h : drawn m = drawn n) : m = n := by
  have := congrArg number h
  simp only [drawn] at this
  omega

/-! ### Writing -/

def text (u : Uuid) : String :=
  let group (width shift : Nat) : String :=
    String.ofList (Text.Hexadecimal.digits width (u.number / Nat.pow 16 shift))
  "-".intercalate [group 8 24, group 4 20, group 4 16, group 4 12, group 12 0]

/-! ### Reading -/

/-- The number written by hexadecimal digits, `none` if another character is among them. -/
def hexNumber? (cs : List Char) : Option Nat :=
  cs.foldl (fun acc c => acc.bind fun n => (Text.Hexadecimal.digitValue? c).map (16 * n + ·)) (some 0)

def ofDigits? (cs : List Char) : Option Uuid :=
  if cs.length = 32 then (hexNumber? cs).map Uuid.mk else none

/-- Thirty-six characters with hyphens after digits 8, 12, 16 and 20. -/
def ofGroups? (cs : List Char) : Option Uuid :=
  let hyphens := [8, 13, 18, 23].all fun i => cs[i]? == some '-'
  if cs.length = 36 ∧ hyphens then
    ofDigits? (cs.take 8 ++ (cs.drop 9).take 4 ++ (cs.drop 14).take 4 ++ (cs.drop 19).take 4 ++
      cs.drop 24)
  else none

def parse? (s : String) : Option Uuid :=
  let cs := s.toList
  let urn := "urn:uuid:".toList
  if cs.length = 32 then ofDigits? cs
  else if cs.length = 38 ∧ cs.head? = some '\x7b' ∧ cs.getLast? = some '\x7d' then
    ofGroups? (cs.drop 1).dropLast
  else if cs.length = 45 ∧ urn.isPrefixOf cs then ofGroups? (cs.drop urn.length)
  else ofGroups? cs

end Uuid
end EmailOwnership
