import EmailOwnership.Password.Pi

/-! The Blowfish cipher with the expensive key schedule of password hashing.

The state is eighteen subkeys and four substitution boxes of 256 words, all in one array;
it starts as the digits of π. -/
namespace EmailOwnership.Password.Blowfish

def subkeyCount : Nat := 18

def boxSize : Nat := 256

def wordCount : Nat := subkeyCount + 4 * boxSize

abbrev State := Array UInt32

def initial : State := piWords wordCount

/-! ### Enciphering -/

/-- The word of substitution box `box` at the low byte of `x`. -/
@[inline] def substitute (s : State) (box : Nat) (x : UInt32) : UInt32 :=
  s.getD (subkeyCount + box * boxSize + (x &&& 0xff).toNat) 0

@[inline] def mix (s : State) (x : UInt32) : UInt32 :=
  ((substitute s 0 (x >>> 24) + substitute s 1 (x >>> 16)) ^^^ substitute s 2 (x >>> 8)) +
    substitute s 3 x

/-- Sixteen rounds from `i` on, the halves changing places after each. -/
def rounds (s : State) : (remaining i : Nat) → UInt32 → UInt32 → UInt32 × UInt32
  | 0, _, l, r => (l, r)
  | remaining + 1, i, l, r =>
    let l := l ^^^ s.getD i 0
    rounds s remaining (i + 1) (r ^^^ mix s l) l

def encipher (s : State) (l r : UInt32) : UInt32 × UInt32 :=
  let (l, r) := rounds s 16 0 l r
  (r ^^^ s.getD 17 0, l ^^^ s.getD 16 0)

/-! ### Key schedule -/

/-- The `i`-th word of the bytes repeated without end. -/
def cyclicWord (bytes : Array UInt8) (i : Nat) : UInt32 :=
  (List.range 4).foldl
    (fun w j => (w <<< 8) ||| (bytes.getD ((4 * i + j) % bytes.size) 0).toUInt32) 0

/-- Adds the key to the subkeys. -/
def mixKey (key : Array UInt8) (s : State) : State :=
  (List.range subkeyCount).foldl (fun s i => s.setIfInBounds i (s.getD i 0 ^^^ cyclicWord key i)) s

/-- Replaces the whole state, two words at a time, by enciphering the words before them,
to which the salt's words are added in turn. -/
def refill (salt : Nat → UInt32) : (remaining i : Nat) → (l r : UInt32) → State → State
  | 0, _, _, _, s => s
  | remaining + 1, i, l, r, s =>
    let (l, r) := encipher s (l ^^^ salt i) (r ^^^ salt (i + 1))
    refill salt remaining (i + 2) l r ((s.setIfInBounds i l).setIfInBounds (i + 1) r)

def expand (salt : Nat → UInt32) (key : Array UInt8) (s : State) : State :=
  refill salt (wordCount / 2) 0 0 0 (mixKey key s)

/-- Expands with key and salt alternately, `count` times. -/
def strengthen (salt key : Array UInt8) : (count : Nat) → State → State
  | 0, s => s
  | count + 1, s =>
    strengthen salt key count (expand (fun _ => 0) salt (expand (fun _ => 0) key s))

/-- The schedule of the given cost: one expansion with both, then `2 ^ cost` alternations. -/
def schedule (cost : Nat) (salt key : Array UInt8) : State :=
  strengthen salt key (Nat.pow 2 cost) (expand (fun i => cyclicWord salt (i % 4)) key initial)

end EmailOwnership.Password.Blowfish
