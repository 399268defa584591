import Mathlib

/-! Order and difference of doubles.

A double that is a number is a whole multiple of the least positive one (`units?`; an infinity
counts as more than every other number), and doubles compare as these multiples do (`lt_iff`,
`le_iff`). A difference is rounded, but never to zero or past it: it is positive exactly if the
first double is the greater one (`sub_pos_iff`). -/
namespace EmailOwnership.Double
open Float.Model
open Float.Model.UnpackedFloat

/-! ### Doubles as integers -/

/-- A finite double without its sign, in units of the least positive double. -/
def magnitude (m : Nat) (e : Int) : Nat := m * 2 ^ (e + 1074).toNat

/-- More than the magnitude of any finite double. -/
@[irreducible] def boundless : Nat := magnitude (2 ^ 53) 971

/-- A double in these units, if it is a number. -/
def units? : UnpackedFloat → Option Int
  | .notANumber => none
  | .infinity s => some (s.apply boundless)
  | .zero _ => some 0
  | .finite s m e _ => some (s.apply (magnitude m e))

/-- The mantissas and exponents of finite doubles. -/
structure Canonical (m : Nat) (e : Int) : Prop where
  lt : m < 2 ^ 53
  low : -1074 ≤ e
  high : e ≤ 971
  normal : e = -1074 ∨ 2 ^ 52 ≤ m

/-- What a double may be unpacked to. -/
def Fits : UnpackedFloat → Prop
  | .finite _ m e _ => Canonical m e
  | _ => True

theorem fits_unpack (f : Float.Model) : Fits f.unpack := by
  unfold Float.Model.unpack UnpackedFloat.unpack
  dsimp only
  have hmantissa := (@unpackMantissa .binary64 f.toBits.toBitVec).isLt
  have hexponent := (@unpackExponent .binary64 f.toBits.toBitVec).isLt
  change _ < 2 ^ 52 at hmantissa
  change _ < 2 ^ 11 at hexponent
  split
  · split <;> trivial
  · rename_i hfinite
    split
    · rename_i hzero
      split
      · trivial
      · refine ⟨by omega, ?_, ?_, .inl ?_⟩ <;> simp [hzero, Format.exponentBias]
    · rename_i hnormal
      have hpos : (@unpackExponent .binary64 f.toBits.toBitVec).toNat ≠ 0 :=
        fun h => hnormal (BitVec.eq_of_toNat_eq h)
      have htop : (@unpackExponent .binary64 f.toBits.toBitVec).toNat ≠ 2047 :=
        fun h => hfinite (BitVec.eq_of_toNat_eq h)
      have hm : (1#1 ++ @unpackMantissa .binary64 f.toBits.toBitVec).toNat =
          2 ^ 52 + (@unpackMantissa .binary64 f.toBits.toBitVec).toNat := by
        rw [BitVec.toNat_append, ← Nat.shiftLeft_add_eq_or_of_lt hmantissa]
        rfl
      simp only [Format.exponentBias]
      exact ⟨by rw [hm]; omega, by omega, by omega, .inr (by rw [hm]; omega)⟩

/-! ### Order -/

section Magnitudes
variable {m m' : Nat} {e e' : Int}

theorem magnitude_pos (hm : 0 < m) (e : Int) : 0 < magnitude m e :=
  Nat.mul_pos hm (Nat.two_pow_pos _)

theorem magnitude_lt_boundless (h : Canonical m e) : magnitude m e < boundless := by
  have hexponent : (e + 1074).toNat ≤ ((971 : Int) + 1074).toNat := by
    have := h.high
    omega
  unfold boundless
  exact Nat.mul_lt_mul_of_lt_of_le h.lt (Nat.pow_le_pow_right (by decide) hexponent)
    (Nat.two_pow_pos _)

/-- Above the least exponent the mantissas have their full length. -/
theorem magnitude_lt_of_exponent (h : Canonical m e) (h' : Canonical m' e') (he : e < e') :
    magnitude m e < magnitude m' e' := by
  have hlow := h.low
  have hnormal : 2 ^ 52 ≤ m' := h'.normal.resolve_left (by omega)
  have hexponent : (e + 1074).toNat + 1 ≤ (e' + 1074).toNat := by omega
  calc m * 2 ^ (e + 1074).toNat
      < 2 ^ 53 * 2 ^ (e + 1074).toNat := Nat.mul_lt_mul_of_pos_right h.lt (Nat.two_pow_pos _)
    _ = 2 ^ 52 * 2 ^ ((e + 1074).toNat + 1) := by ring
    _ ≤ m' * 2 ^ (e' + 1074).toNat :=
      Nat.mul_le_mul hnormal (Nat.pow_le_pow_right (by decide) hexponent)

/-- Doubles of one sign compare by exponent, then by mantissa. -/
theorem compare_magnitude (h : Canonical m e) (h' : Canonical m' e') :
    (compare e e').then (compare m m') = compare (magnitude m e : Int) (magnitude m' e') := by
  rcases lt_trichotomy e e' with he | rfl | he
  · have hlt := magnitude_lt_of_exponent h h' he
    rw [compare_lt_iff_lt.2 he, compare_lt_iff_lt.2 (Int.ofNat_lt.2 hlt)]
    rfl
  · have hpos := Nat.two_pow_pos (e + 1074).toNat
    rw [compare_eq_iff_eq.2 rfl, Ordering.eq_then]
    rcases lt_trichotomy m m' with hm | rfl | hm
    · have hlt : magnitude m e < magnitude m' e := Nat.mul_lt_mul_of_pos_right hm hpos
      rw [compare_lt_iff_lt.2 hm, compare_lt_iff_lt.2 (Int.ofNat_lt.2 hlt)]
    · rw [compare_eq_iff_eq.2 rfl, compare_eq_iff_eq.2 rfl]
    · have hlt : magnitude m' e < magnitude m e := Nat.mul_lt_mul_of_pos_right hm hpos
      rw [compare_gt_iff_gt.2 hm, compare_gt_iff_gt.2 (Int.ofNat_lt.2 hlt)]
  · have hlt := magnitude_lt_of_exponent h' h he
    rw [compare_gt_iff_gt.2 he, compare_gt_iff_gt.2 (Int.ofNat_lt.2 hlt)]
    rfl

end Magnitudes

theorem compare_neg (a b : Int) : compare (-a) (-b) = (compare a b).swap := by
  rcases lt_trichotomy a b with h | rfl | h
  · rw [compare_lt_iff_lt.2 h, compare_gt_iff_gt.2 (Int.neg_lt_neg h)]
    rfl
  · rw [compare_eq_iff_eq.2 rfl, compare_eq_iff_eq.2 rfl]
    rfl
  · rw [compare_gt_iff_gt.2 h, compare_lt_iff_lt.2 (Int.neg_lt_neg h)]
    rfl

theorem boundless_pos : 0 < boundless := by
  unfold boundless
  exact magnitude_pos (by decide) _

theorem finite_bounds {s : Sign} {m : Nat} {e : Int} {hm : 0 < m} (h : Fits (.finite s m e hm)) :
    0 < magnitude m e ∧ magnitude m e < boundless :=
  ⟨magnitude_pos hm e, magnitude_lt_boundless h⟩

/-- **Doubles compare as their units do**, and what is no number compares with nothing. -/
theorem compare_eq {x y : UnpackedFloat} (hx : Fits x) (hy : Fits y) :
    x.compare y = (units? x).bind fun a => (units? y).map fun b => compare a b := by
  have hb := boundless_pos
  have hlt {a b : Int} (h : a < b) : some Ordering.lt = some (compare a b) :=
    congrArg some (compare_lt_iff_lt.2 h).symm
  have hgt {a b : Int} (h : b < a) : some Ordering.gt = some (compare a b) :=
    congrArg some (compare_gt_iff_gt.2 h).symm
  have heq (a : Int) : some Ordering.eq = some (compare a a) :=
    congrArg some (compare_eq_iff_eq.2 rfl).symm
  cases x with
  | notANumber => rfl
  | infinity s =>
    cases y with
    | notANumber => cases s <;> rfl
    | infinity s' =>
      cases s <;> cases s'
      · exact heq _
      · exact hlt (by simp only [Sign.apply]; omega)
      · exact hgt (by simp only [Sign.apply]; omega)
      · exact heq _
    | zero s' =>
      cases s
      · exact hlt (by simp only [Sign.apply]; omega)
      · exact hgt (by simp only [Sign.apply]; omega)
    | finite s' m' e' hm' =>
      have hbounds := finite_bounds hy
      cases s
      · exact hlt (by cases s' <;> simp only [Sign.apply] <;> omega)
      · exact hgt (by cases s' <;> simp only [Sign.apply] <;> omega)
  | zero s =>
    cases y with
    | notANumber => rfl
    | infinity s' =>
      cases s'
      · exact hgt (by simp only [Sign.apply]; omega)
      · exact hlt (by simp only [Sign.apply]; omega)
    | zero s' => exact heq 0
    | finite s' m' e' hm' =>
      have hbounds := finite_bounds hy
      cases s'
      · exact hgt (by simp only [Sign.apply]; omega)
      · exact hlt (by simp only [Sign.apply]; omega)
  | finite s m e hm =>
    have hbounds := finite_bounds hx
    cases y with
    | notANumber => cases s <;> rfl
    | infinity s' =>
      cases s'
      · cases s <;> exact hgt (by simp only [Sign.apply]; omega)
      · cases s <;> exact hlt (by simp only [Sign.apply]; omega)
    | zero s' =>
      cases s
      · exact hlt (by simp only [Sign.apply]; omega)
      · exact hgt (by simp only [Sign.apply]; omega)
    | finite s' m' e' hm' =>
      have hbounds' := finite_bounds hy
      have hcompare := compare_magnitude hx hy
      cases s <;> cases s'
      · refine congrArg some ?_
        rw [hcompare]
        exact (compare_neg _ _).symm
      · exact hlt (by simp only [Sign.apply]; omega)
      · exact hgt (by simp only [Sign.apply]; omega)
      · exact congrArg some hcompare

theorem lt_eq {x y : UnpackedFloat} (hx : Fits x) (hy : Fits y) :
    x.lt y = (units? x).any fun a => (units? y).any fun b => decide (a < b) := by
  rw [UnpackedFloat.lt, compare_eq hx hy]
  cases units? x with
  | none => rfl
  | some a =>
    cases units? y with
    | none => rfl
    | some b =>
      show (some (compare a b) == some .lt) = decide (a < b)
      rw [Bool.eq_iff_iff, beq_iff_eq, Option.some.injEq, compare_lt_iff_lt, decide_eq_true_iff]

theorem le_eq {x y : UnpackedFloat} (hx : Fits x) (hy : Fits y) :
    x.le y = (units? x).any fun a => (units? y).any fun b => decide (a ≤ b) := by
  rw [UnpackedFloat.le, compare_eq hx hy]
  cases units? x with
  | none => rfl
  | some a =>
    cases units? y with
    | none => rfl
    | some b =>
      show (compare a b).isLE = decide (a ≤ b)
      rw [Bool.eq_iff_iff, decide_eq_true_iff, Std.isLE_compare]

/-! ### Differences -/

def isPositive : UnpackedFloat → Bool
  | .infinity .positive | .finite .positive .. => true
  | _ => false

theorem isPositive_iff (x : UnpackedFloat) :
    isPositive x = true ↔ ∃ a, units? x = some a ∧ 0 < a := by
  have hb := boundless_pos
  cases x with
  | notANumber => simp [isPositive, units?]
  | infinity s => cases s <;> simp [isPositive, units?, Sign.apply, hb]
  | zero s => simp [isPositive, units?]
  | finite s m e hm =>
    have hpos := magnitude_pos hm e
    cases s <;> simp [isPositive, units?, Sign.apply, hpos]

/-- What rounding leaves: a mantissa and an exponent that can be packed. -/
def Rounded : UnpackedFloat → Prop
  | .finite _ m e _ => m < 2 ^ 53 ∧ -1074 ≤ e
  | _ => True

theorem shift_mantissa (em : ExtendedMantissa) (k : Nat) :
    (em >>> k).mantissa = em.mantissa / 2 ^ k := by
  induction k with
  | zero => exact (Nat.div_one _).symm
  | succ k ih =>
    show (em >>> k).mantissa / 2 = _
    rw [ih, Nat.div_div_eq_div_mul, Nat.pow_succ]

/-- Shifted to its exponent, a positive mantissa stays positive and is short enough. -/
theorem shift_bounds {m : Nat} {e : Int} (hm : 0 < m) (he : -1074 ≤ e) :
    let shifted := shiftToTargetExponent Format.binary64 m e .exact
    0 < shifted.1.mantissa ∧ shifted.1.mantissa < 2 ^ 53 ∧ -1074 ≤ shifted.2 := by
  obtain ⟨k, hk⟩ : ∃ k, k = (Format.binary64.targetExponent (totalExponent m e) - e).toNat :=
    ⟨_, rfl⟩
  have hshift : k = m.log2 - 52 := by
    rw [hk]
    simp only [Format.targetExponent, totalExponent, Format.mantissaBits, Format.minExponent]
    norm_num
    omega
  simp only [shiftToTargetExponent, shiftToExponent, shift_mantissa,
    ExtendedMantissa.ofMantissaAndAccuracy, ← hk]
  refine ⟨?_, ?_, by omega⟩
  · have hlog := Nat.log2_self_le hm.ne'
    exact Nat.div_pos (le_trans (Nat.pow_le_pow_right (by decide) (by omega)) hlog)
      (Nat.two_pow_pos _)
  · rw [Nat.div_lt_iff_lt_mul (Nat.two_pow_pos _), ← Nat.pow_add]
    exact lt_of_lt_of_le Nat.lt_log2_self (Nat.pow_le_pow_right (by decide) (by omega))

theorem le_roundedMantissa (em : ExtendedMantissa) : em.mantissa ≤ em.roundedMantissa := by
  obtain ⟨m, _ | _, _ | _⟩ := em
  · exact Nat.le_refl m
  · exact Nat.le_refl m
  · exact Nat.le_add_right m _
  · exact Nat.le_succ m

/-- A number that is not zero is not rounded to zero. -/
theorem round_eq {m : Nat} {e : Int} (s : Sign) (hm : 0 < m) (he : -1074 ≤ e) :
    ∃ m' e' hm',
      round Format.binary64 s m e = .finite s m' e' hm' ∧ m' < 2 ^ 53 ∧ -1074 ≤ e' := by
  let target := Format.binary64.targetExponent (totalExponent m e)
  have htarget : -1074 ≤ target := le_max_right ..
  -- the mantissa is widened, shifted, rounded, and shifted again
  have hwide : 0 < m <<< (e - target).toNat := by
    rw [Nat.shiftLeft_eq]
    exact Nat.mul_pos hm (Nat.two_pow_pos _)
  have hlow : -1074 ≤ e - (e - target).toNat := by omega
  obtain ⟨hpos, -, hlow⟩ := shift_bounds hwide hlow
  have hrounded := lt_of_lt_of_le hpos (le_roundedMantissa _)
  obtain ⟨hpos', hlt', hlow'⟩ := shift_bounds hrounded hlow
  exact ⟨_, _, hpos', dif_neg hpos'.ne', hlt', hlow'⟩

/-- Rounded, a number keeps its sign. -/
theorem isPositive_normalize (m : Int) {e : Int} (he : -1074 ≤ e) (zero : Sign) :
    Rounded (UnpackedFloat.normalize Format.binary64 m e zero) ∧
      isPositive (UnpackedFloat.normalize Format.binary64 m e zero) = decide (0 < m) := by
  unfold UnpackedFloat.normalize
  rcases lt_trichotomy m 0 with hm | rfl | hm
  · obtain ⟨m', e', hm', heq, hbounds⟩ :=
      round_eq .negative (show 0 < (-m).toNat by omega) he
    rw [compare_lt_iff_lt.2 hm]
    dsimp only
    rw [heq]
    exact ⟨hbounds, (decide_eq_false (by omega)).symm⟩
  · exact ⟨trivial, rfl⟩
  · obtain ⟨m', e', hm', heq, hbounds⟩ :=
      round_eq .positive (show 0 < m.toNat by omega) he
    rw [compare_gt_iff_gt.2 hm]
    dsimp only
    rw [heq]
    exact ⟨hbounds, (decide_eq_true hm).symm⟩

theorem unpackSign_packComponents {spec : Format} {s : Sign} {e : BitVec spec.exponentBits}
    {m : BitVec spec.mantissaBitsWithoutImplicit} :
    unpackSign (packComponents spec s e m) = s.toBitVec := by
  ext i hi
  obtain rfl : i = 0 := by omega
  simp [unpackSign, packComponents, BitVec.getLsbD_append, BitVec.getElem_append]

/-- Packed, a number keeps its sign, unless its bits are those of zero. -/
theorem isPositive_packComponents (s : Sign) (e : BitVec 11) (m : BitVec 52)
    (hnumber : e = -1#11 → m = 0#52) (hnonzero : e = 0#11 → m ≠ 0#52) :
    isPositive (unpack Format.binary64 (packComponents Format.binary64 s e m)) =
      isPositive (.infinity s) := by
  simp only [UnpackedFloat.unpack, unpackExponent_packComponents, unpackMantissa_packComponents,
    unpackSign_packComponents]
  have hsign : Sign.ofBitVec s.toBitVec = s := by cases s <;> rfl
  split
  · rename_i he
    rw [if_pos (hnumber he), hsign]
  · split
    · rename_i he
      rw [dif_neg (hnonzero he), hsign]
      cases s <;> rfl
    · rw [hsign]
      cases s <;> rfl

theorem ofNat_inj {w n k : Nat} (hn : n < 2 ^ w) (hk : k < 2 ^ w)
    (h : BitVec.ofNat w n = BitVec.ofNat w k) : n = k := by
  have htoNat := congrArg BitVec.toNat h
  rwa [BitVec.toNat_ofNat, BitVec.toNat_ofNat, Nat.mod_eq_of_lt hn, Nat.mod_eq_of_lt hk] at htoNat

theorem isPositive_pack {x : UnpackedFloat} (hx : Rounded x) :
    isPositive (Float.Model.pack x).unpack = isPositive x := by
  show isPositive (unpack Format.binary64 (UnpackedFloat.pack Format.binary64 x)) = _
  cases x with
  | notANumber => decide
  | infinity s => exact isPositive_packComponents s _ _ (fun _ => rfl) (by decide)
  | zero s => cases s <;> decide
  | finite s m e hm =>
    obtain ⟨hlt, hlow⟩ := hx
    rw [show isPositive (.finite s m e hm) = isPositive (.infinity s) by cases s <;> rfl]
    simp only [UnpackedFloat.pack]
    split
    · exact isPositive_packComponents s _ _ (fun _ => rfl) (by decide)
    · rename_i hexponent
      simp only [Format.exponentBias, Format.mantissaBits] at hexponent ⊢
      norm_num at hexponent ⊢
      split
      · -- the biased exponent is neither the least nor the greatest
        refine isPositive_packComponents s _ _ (fun h => ?_) (fun h => ?_)
        · have htop := ofNat_inj (k := 2047) (by omega) (by decide) h
          omega
        · have hzero := ofNat_inj (k := 0) (by omega) (by decide) h
          omega
      · rename_i hlength
        have hlog : m.log2 < 53 := (Nat.log2_lt hm.ne').2 hlt
        have hshort : m < 2 ^ 52 := (Nat.log2_lt hm.ne').1 (by omega)
        exact isPositive_packComponents s _ _ nofun fun _ h =>
          hm.ne' (ofNat_inj hshort (by decide) h)

theorem apply_mul (s : Sign) (a b : Nat) : s.apply ↑(a * b) = s.apply a * (b : Int) := by
  cases s <;> simp [Sign.apply]

/-- Brought to a lesser exponent, a double has the same magnitude. -/
theorem magnitude_decreaseExponent {m : Nat} {e e' : Int} (h : e' ≤ e) (he' : -1074 ≤ e') :
    magnitude m e = (decreaseExponent m e e').1 * 2 ^ (e' + 1074).toNat := by
  have hexponent : (e + 1074).toNat = (e - e').toNat + (e' + 1074).toNat := by omega
  simp only [magnitude, decreaseExponent, Nat.shiftLeft_eq, hexponent, Nat.pow_add, Nat.mul_assoc]

/-- The sign of a difference says which of the two is the greater one. -/
theorem isPositive_sub {x y : UnpackedFloat} (hx : Fits x) (hy : Fits y) :
    Rounded (UnpackedFloat.sub Format.binary64 x y) ∧
      isPositive (UnpackedFloat.sub Format.binary64 x y) = y.lt x := by
  cases x with
  | notANumber => cases y <;> exact ⟨trivial, rfl⟩
  | infinity s =>
    cases y with
    | notANumber => cases s <;> exact ⟨trivial, rfl⟩
    | infinity s' | zero s' | finite s' => cases s <;> cases s' <;> exact ⟨trivial, rfl⟩
  | zero s =>
    cases y with
    | notANumber => exact ⟨trivial, rfl⟩
    | infinity s' | zero s' => cases s <;> cases s' <;> exact ⟨trivial, rfl⟩
    | finite s' => cases s' <;> exact ⟨⟨hy.lt, hy.low⟩, rfl⟩
  | finite s m e hm =>
    cases y with
    | notANumber => cases s <;> exact ⟨trivial, rfl⟩
    | infinity s' => cases s <;> cases s' <;> exact ⟨trivial, rfl⟩
    | zero s' => cases s <;> exact ⟨⟨hx.lt, hx.low⟩, rfl⟩
    | finite s' m' e' hm' =>
      -- at the lesser exponent the difference is exact
      have hlow : -1074 ≤ min e e' := le_min hx.low hy.low
      obtain ⟨hrounded, hpositive⟩ := isPositive_normalize
        (s.apply (decreaseExponent m e (min e e')).1 -
          s'.apply (decreaseExponent m' e' (min e e')).1) hlow .positive
      have hscale : (0 : Int) < ↑(2 ^ (min e e' + 1074).toNat : Nat) :=
        Int.ofNat_lt.2 (Nat.two_pow_pos _)
      refine ⟨hrounded, hpositive.trans ?_⟩
      rw [lt_eq hy hx]
      refine decide_eq_decide.2 ?_
      rw [magnitude_decreaseExponent (min_le_left e e') hlow,
        magnitude_decreaseExponent (min_le_right e e') hlow, apply_mul, apply_mul,
        Int.mul_lt_mul_right hscale, Int.sub_pos]

/-! ### Doubles -/

theorem lt_eq_lt (x y : Float) : (x < y) = (x.toModel.unpack.lt y.toModel.unpack = true) :=
  propext decide_eq_true_iff

theorem le_eq_le (x y : Float) : (x ≤ y) = (x.toModel.unpack.le y.toModel.unpack = true) :=
  propext decide_eq_true_iff

variable {x y z : Float}

theorem lt_iff : x < y ↔ ∃ a b, units? x.toModel.unpack = some a ∧
    units? y.toModel.unpack = some b ∧ a < b := by
  rw [lt_eq_lt, lt_eq (fits_unpack _) (fits_unpack _)]
  cases units? x.toModel.unpack <;> cases units? y.toModel.unpack <;> simp

theorem le_iff : x ≤ y ↔ ∃ a b, units? x.toModel.unpack = some a ∧
    units? y.toModel.unpack = some b ∧ a ≤ b := by
  rw [le_eq_le, le_eq (fits_unpack _) (fits_unpack _)]
  cases units? x.toModel.unpack <;> cases units? y.toModel.unpack <;> simp

theorem isNaN_iff : x.isNaN = true ↔ units? x.toModel.unpack = none := by
  show x.toModel.unpack.isNaN = true ↔ _
  cases x.toModel.unpack <;> simp [UnpackedFloat.isNaN, units?]

theorem lt_of_le_of_lt (h : x ≤ y) (h' : y < z) : x < z := by
  obtain ⟨a, b, ha, hb, hab⟩ := le_iff.1 h
  obtain ⟨b', c, hb', hc, hbc⟩ := lt_iff.1 h'
  obtain rfl : b = b' := Option.some.inj (hb.symm.trans hb')
  exact lt_iff.2 ⟨a, c, ha, hc, Int.lt_of_le_of_lt hab hbc⟩

theorem not_le_of_lt (h : x < y) : ¬ y ≤ x := by
  intro h'
  obtain ⟨a, b, ha, hb, hab⟩ := lt_iff.1 h
  obtain ⟨b', a', hb', ha', hba⟩ := le_iff.1 h'
  obtain rfl : a = a' := Option.some.inj (ha.symm.trans ha')
  obtain rfl : b = b' := Option.some.inj (hb.symm.trans hb')
  omega

theorem exists_units (h : x.isNaN = false) : ∃ a, units? x.toModel.unpack = some a := by
  refine Option.ne_none_iff_exists'.1 fun hnone => ?_
  rw [isNaN_iff.2 hnone] at h
  cases h

/-- Nothing else than the order, or the lack of a number, keeps a double from being greater. -/
theorem not_lt_iff (hx : x.isNaN = false) : ¬ x < y ↔ y ≤ x ∨ y.isNaN = true := by
  obtain ⟨a, ha⟩ := exists_units hx
  constructor
  · intro h
    cases hy : y.isNaN with
    | true => exact .inr rfl
    | false =>
      obtain ⟨b, hb⟩ := exists_units hy
      have hle : b ≤ a := Int.not_lt.1 fun hab => h (lt_iff.2 ⟨a, b, ha, hb, hab⟩)
      exact .inl (le_iff.2 ⟨b, a, hb, ha, hle⟩)
  · rintro (h | h) hlt
    · exact not_le_of_lt hlt h
    · obtain ⟨-, b, -, hb, -⟩ := lt_iff.1 hlt
      rw [isNaN_iff, hb] at h
      cases h

theorem units_zero : units? (0 : Float).toModel.unpack = some 0 := by decide +kernel

theorem pos_iff : 0 < x ↔ isPositive x.toModel.unpack = true := by
  rw [lt_iff, isPositive_iff, units_zero]
  simp

/-- **A difference is positive exactly if the first double is the greater one**, however close
the two are, and whether they are numbers or not. -/
theorem sub_pos_iff : 0 < x - y ↔ y < x := by
  obtain ⟨hrounded, hpositive⟩ := isPositive_sub (fits_unpack x.toModel) (fits_unpack y.toModel)
  rw [pos_iff, lt_eq_lt, ← hpositive, ← isPositive_pack hrounded]
  rfl

end EmailOwnership.Double
