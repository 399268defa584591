import EmailOwnership.Text.Composition.Data

/-! Canonical composition of text.

`compose` brings text into its composed normal form in three steps: every character is
taken apart (`decompose`), marks on one character are put in the order of their classes
(`reorder`), and a character is joined with each following mark that nothing blocks
(`recompose`). -/
namespace EmailOwnership.Text

/-! ### Hangul syllables -/

def hangulBase : Nat := 0xac00
def leadBase : Nat := 0x1100
def vowelBase : Nat := 0x1161
def trailBase : Nat := 0x11a7
def leadCount : Nat := 19
def vowelCount : Nat := 21
def trailCount : Nat := 28

def isHangul (n : Nat) : Bool :=
  decide (hangulBase ≤ n) && decide (n < hangulBase + leadCount * vowelCount * trailCount)

/-- Lead and vowel, and the trailing consonant if there is one. -/
def hangulParts (n : Nat) : List Nat :=
  let i := n - hangulBase
  let lead := leadBase + i / (vowelCount * trailCount)
  let vowel := vowelBase + i % (vowelCount * trailCount) / trailCount
  if i % trailCount = 0 then [lead, vowel] else [lead, vowel, trailBase + i % trailCount]

/-- A lead with a vowel, or a syllable without a trailing consonant with one. -/
def hangulPair? (a b : Nat) : Option Nat :=
  if leadBase ≤ a ∧ a < leadBase + leadCount ∧ vowelBase ≤ b ∧ b < vowelBase + vowelCount then
    some (hangulBase + ((a - leadBase) * vowelCount + (b - vowelBase)) * trailCount)
  else if isHangul a ∧ (a - hangulBase) % trailCount = 0 ∧
      trailBase < b ∧ b < trailBase + trailCount then
    some (a + (b - trailBase))
  else none

/-! ### The three steps -/

/-- The first code point that has a canonical decomposition. -/
def firstDecomposable : Nat := 0xc0

def decomposeChar (c : Char) : List Char :=
  let n := c.toNat
  if n < firstDecomposable then [c]
  else if isHangul n then (hangulParts n).map Char.ofNat
  else match decompositions.find? (fun entry => entry.1 == n) with
    | some (_, parts) => parts.map Char.ofNat
    | none => [c]

def decompose (cs : List Char) : List Char := cs.flatMap decomposeChar

/-- Zero for a character that starts anew, the class of its position for a mark. -/
def combiningClass (c : Char) : Nat :=
  match combiningClasses.find? (fun r => decide (r.1 ≤ c.toNat) && decide (c.toNat ≤ r.2.1)) with
  | some (_, _, k) => k
  | none => 0

/-- A run of marks by class; marks of equal class keep their order. -/
def sortMarks (run : List Char) : List Char :=
  run.mergeSort (fun a b => decide (combiningClass a ≤ combiningClass b))

/-- Sorts each run of marks; `run` holds the current one, last mark first. -/
def reorderAfter (run : List Char) : List Char → List Char
  | [] => sortMarks run.reverse
  | c :: rest =>
    if combiningClass c = 0 then sortMarks run.reverse ++ c :: reorderAfter [] rest
    else reorderAfter (c :: run) rest

def reorder (cs : List Char) : List Char := reorderAfter [] cs

/-- The single character that two adjacent ones compose to. -/
def pair? (a b : Char) : Option Char :=
  match hangulPair? a.toNat b.toNat with
  | some n => some (Char.ofNat n)
  | none =>
    (compositions.find? (fun t => t.1 == a.toNat && t.2.1 == b.toNat)).map (Char.ofNat ·.2.2)

/-- Composes what follows `starter`; `marks` are those on it that did not compose, last
first. A mark is blocked by one of the same or a higher class before it. -/
def recomposeAfter (starter : Char) (marks : List Char) : List Char → List Char
  | [] => starter :: marks.reverse
  | c :: rest =>
    let free := match marks with
      | [] => true
      | last :: _ => decide (combiningClass last < combiningClass c)
    match if free then pair? starter c else none with
    | some joined => recomposeAfter joined marks rest
    | none =>
      if combiningClass c = 0 then starter :: marks.reverse ++ recomposeAfter c [] rest
      else recomposeAfter starter (c :: marks) rest

/-- Marks before the first starting character stay as they are. -/
def recompose : List Char → List Char
  | [] => []
  | c :: rest => if combiningClass c = 0 then recomposeAfter c [] rest else c :: recompose rest

def compose (cs : List Char) : List Char := recompose (reorder (decompose cs))

end EmailOwnership.Text
