/-! Characters by ranges of code points.

A set of characters is a list of ranges, and so is a mapping that moves them, as runs of
characters that move by the same distance. The blanks are such a set; texts are stripped of
them at both ends. -/
namespace EmailOwnership.Text

/-- The first and the last code point of a run. -/
abbrev CodeRange := Nat × Nat

def inRanges (ranges : List CodeRange) (n : Nat) : Bool :=
  ranges.any (fun r => decide (r.1 ≤ n) && decide (n ≤ r.2))

/-! ### Moves -/

/-- Every `step`-th code point from `first` to `last` moves by `offset`. -/
structure Shift where
  first : Nat
  last : Nat
  step : Nat
  offset : Int

def Shift.covers (s : Shift) (n : Nat) : Bool :=
  decide (s.first ≤ n) && decide (n ≤ s.last) && (n - s.first) % s.step == 0

def shiftChar (shifts : List Shift) (c : Char) : Char :=
  match shifts.find? (fun s => s.covers c.toNat) with
  | some s => Char.ofNat (c.toNat + s.offset).toNat
  | none => c

/-! ### Blanks -/

/-- The space characters of Unicode and the controls that separate text: tabs, line and
page ends, the four information separators and the next line. -/
def blankRanges : List CodeRange := [
  (0x9, 0xd), (0x1c, 0x20), (0x85, 0x85), (0xa0, 0xa0), (0x1680, 0x1680), (0x2000, 0x200a),
  (0x2028, 0x2029), (0x202f, 0x202f), (0x205f, 0x205f), (0x3000, 0x3000)]

def isBlank (c : Char) : Bool := inRanges blankRanges c.toNat

/-- Drops what `p` holds of from the end. -/
def dropEndWhile (p : Char → Bool) (cs : List Char) : List Char :=
  (cs.reverse.dropWhile p).reverse

def strip (cs : List Char) : List Char := dropEndWhile isBlank (cs.dropWhile isBlank)

end EmailOwnership.Text
