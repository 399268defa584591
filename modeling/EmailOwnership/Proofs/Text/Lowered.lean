import EmailOwnership.Text.Range
import EmailOwnership.Text.LowerCase
import Mathlib

/-! What is lowered stays as it is.

A character is settled if no shift covers it and it is not the dotted capital I. What any shift
moves lands beside every shift, beside the dotted capital I and beside the blanks
(`lowerShifts_clear`): the table is gone through once, two runs at a time, and letter by letter
only where they overlap. So every character of a lowered text is settled (`settled_of_mem_lower`),
and no capital sigma is among them that its surroundings could change. Lowering again changes
nothing then (`lower_lower`), and blanks come from blanks only (`Stripped.lower`). -/
namespace EmailOwnership.Text
variable {c d : Char} {cs : List Char}

/-! ### The table -/

namespace Shift

/-- Where a shift moves a code point to. -/
def image (s : Shift) (n : Nat) : Nat := (n + s.offset).toNat

def codePoints (s : Shift) : List Nat :=
  (List.range' s.first (s.last + 1 - s.first)).filter s.covers

/-- Whether all that the shift moves lands on one side of a range. -/
def misses (s : Shift) (r : CodeRange) : Bool :=
  Nat.blt (s.image s.last) r.1 || Nat.blt r.2 (s.image s.first)

/-- Whether nothing that the shift moves lands where `t` covers it. -/
def clears (s t : Shift) : Bool :=
  s.misses (t.first, t.last) || s.codePoints.all fun n => !t.covers (s.image n)

variable {s t : Shift} {n : Nat}

theorem bounds_of_covers (h : s.covers n = true) : s.first ≤ n ∧ n ≤ s.last := by
  simp only [covers, Bool.and_eq_true, decide_eq_true_eq] at h
  exact h.1

theorem mem_codePoints (h : s.covers n = true) : n ∈ s.codePoints := by
  obtain ⟨hfirst, hlast⟩ := bounds_of_covers h
  exact List.mem_filter.2 ⟨List.mem_range'_1.2 ⟨hfirst, by omega⟩, h⟩

theorem image_mono (s : Shift) {m n : Nat} (h : m ≤ n) : s.image m ≤ s.image n := by
  unfold image
  omega

theorem not_mem_of_misses {r : CodeRange} (h : s.misses r = true) (hn : s.covers n = true) :
    ¬ (r.1 ≤ s.image n ∧ s.image n ≤ r.2) := by
  obtain ⟨hfirst, hlast⟩ := bounds_of_covers hn
  have hlow := s.image_mono hfirst
  have hhigh := s.image_mono hlast
  simp only [misses, Bool.or_eq_true, Nat.blt_eq] at h
  omega

theorem not_covers_image (h : s.clears t = true) (hn : s.covers n = true) :
    t.covers (s.image n) = false := by
  rcases Bool.or_eq_true_iff.1 h with hmisses | hall
  · exact Bool.eq_false_iff.2 fun ht => not_mem_of_misses hmisses hn (bounds_of_covers ht)
  · simpa using List.all_eq_true.1 hall n (mem_codePoints hn)

end Shift

/-- The code points that lowering leaves alone. -/
structure Settled (n : Nat) : Prop where
  uncovered : ∀ s ∈ lowerShifts, s.covers n = false
  undotted : n ≠ 0x130

theorem lowerShifts_clear :
    (lowerShifts.all fun s => lowerShifts.all s.clears &&
      ((0x130, 0x130) :: blankRanges).all s.misses) = true := by decide +kernel

section Image
variable {s : Shift} {n : Nat} (hs : s ∈ lowerShifts) (hn : s.covers n = true)
include hs hn

theorem settled_image : Settled (s.image n) := by
  have h := List.all_eq_true.1 lowerShifts_clear s hs
  simp only [Bool.and_eq_true, List.all_eq_true] at h
  refine ⟨fun t ht => Shift.not_covers_image (h.1 t ht) hn, fun hdotted => ?_⟩
  exact Shift.not_mem_of_misses (h.2 (0x130, 0x130) (List.mem_cons_self ..)) hn
    ⟨Nat.le_of_eq hdotted.symm, Nat.le_of_eq hdotted⟩

theorem not_blank_image : inRanges blankRanges (s.image n) = false := by
  have h := List.all_eq_true.1 lowerShifts_clear s hs
  simp only [Bool.and_eq_true, List.all_eq_true] at h
  refine List.any_eq_false.2 fun r hr => ?_
  simpa using Shift.not_mem_of_misses (h.2 r (List.mem_cons_of_mem _ hr)) hn

end Image

/-! ### Characters -/

theorem shiftChar_cases (shifts : List Shift) (c : Char) :
    (∃ s ∈ shifts, s.covers c.toNat = true ∧
      shiftChar shifts c = Char.ofNat (s.image c.toNat)) ∨
    (∀ s ∈ shifts, s.covers c.toNat = false) ∧ shiftChar shifts c = c := by
  unfold shiftChar
  cases hfind : shifts.find? fun s => s.covers c.toNat with
  | some s =>
    have hcovers : s.covers c.toNat = true := by simpa using List.find?_some hfind
    exact .inl ⟨s, List.mem_of_find?_eq_some hfind, hcovers, rfl⟩
  | none => exact .inr ⟨fun s hs => by simpa using List.find?_eq_none.1 hfind s hs, rfl⟩

/-- What is no character is taken for the null character. -/
theorem toNat_ofNat_cases (n : Nat) : (Char.ofNat n).toNat = n ∨ (Char.ofNat n).toNat = 0 := by
  rw [Char.toNat_ofNat]
  split
  · exact .inl rfl
  · exact .inr rfl

theorem settled_zero : Settled 0 := ⟨by decide +kernel, by decide⟩

theorem settled_of_mem_lowerChar (h : d ∈ lowerChar c) : Settled d.toNat := by
  unfold lowerChar at h
  split at h
  · rcases List.mem_pair.1 h with rfl | rfl <;> exact ⟨by decide +kernel, by decide⟩
  · rename_i hdotted
    obtain rfl := List.mem_singleton.1 h
    rcases shiftChar_cases lowerShifts c with ⟨s, hs, hcovers, hmoved⟩ | ⟨huncovered, hkept⟩
    · rw [hmoved]
      rcases toNat_ofNat_cases (s.image c.toNat) with hn | hn <;> rw [hn]
      · exact settled_image hs hcovers
      · exact settled_zero
    · rw [hkept]
      refine ⟨huncovered, fun hn => hdotted ?_⟩
      rw [← Char.ofNat_toNat c, hn]

/-- Only a blank is lowered to a blank. -/
theorem not_blank_of_mem_lowerChar (hc : isBlank c = false) (h : d ∈ lowerChar c) :
    isBlank d = false := by
  unfold lowerChar at h
  split at h
  · rcases List.mem_pair.1 h with rfl | rfl <;> decide
  · obtain rfl := List.mem_singleton.1 h
    rcases shiftChar_cases lowerShifts c with ⟨s, hs, hcovers, hmoved⟩ | ⟨-, hkept⟩
    · rw [hmoved, isBlank]
      rcases toNat_ofNat_cases (s.image c.toNat) with hn | hn <;> rw [hn]
      · exact not_blank_image hs hcovers
      · decide
    · rwa [hkept]

theorem lowerChar_ne_nil (c : Char) : lowerChar c ≠ [] := by
  unfold lowerChar
  split <;> exact List.cons_ne_nil _ _

theorem lowerChar_of_settled (h : Settled c.toNat) : lowerChar c = [c] := by
  rw [lowerChar, if_neg (by rintro rfl; exact h.undotted rfl)]
  rcases shiftChar_cases lowerShifts c with ⟨s, hs, hcovers, -⟩ | ⟨-, hkept⟩
  · rw [h.uncovered s hs] at hcovers
    cases hcovers
  · rw [hkept]

/-- The capital sigma is moved by the table, were it not for its own rule. -/
theorem ne_capitalSigma_of_settled (h : Settled c.toNat) : c ≠ capitalSigma := by
  rintro rfl
  have hcovered : ∃ s ∈ lowerShifts, s.covers capitalSigma.toNat = true := by decide +kernel
  obtain ⟨s, hs, hcovers⟩ := hcovered
  rw [h.uncovered s hs] at hcovers
  cases hcovers

/-! ### Texts -/

/-- What a character is lowered to between its neighbours. -/
def lowerAt (before : List Char) (c : Char) (rest : List Char) : List Char :=
  if c = capitalSigma then [if isFinal before rest then finalSigma else smallSigma]
  else lowerChar c

theorem lowerAfter_cons (before : List Char) (c : Char) (rest : List Char) :
    lowerAfter before (c :: rest) = lowerAt before c rest ++ lowerAfter (c :: before) rest := rfl

section Between
variable {before rest : List Char}

theorem lowerAt_ne_nil : lowerAt before c rest ≠ [] := by
  unfold lowerAt
  split
  · exact List.cons_ne_nil _ _
  · exact lowerChar_ne_nil c

theorem settled_of_mem_lowerAt (h : d ∈ lowerAt before c rest) : Settled d.toNat := by
  unfold lowerAt at h
  split at h
  · obtain rfl := List.mem_singleton.1 h
    split <;> exact ⟨by decide +kernel, by decide⟩
  · exact settled_of_mem_lowerChar h

theorem not_blank_of_mem_lowerAt (hc : isBlank c = false) (h : d ∈ lowerAt before c rest) :
    isBlank d = false := by
  unfold lowerAt at h
  split at h
  · obtain rfl := List.mem_singleton.1 h
    split <;> decide
  · exact not_blank_of_mem_lowerChar hc h

end Between

theorem settled_of_mem_lowerAfter {before : List Char} (h : d ∈ lowerAfter before cs) :
    Settled d.toNat := by
  induction cs generalizing before with
  | nil => cases h
  | cons c rest ih =>
    rcases List.mem_append.1 h with hhere | hthere
    · exact settled_of_mem_lowerAt hhere
    · exact ih hthere

theorem lowerAfter_of_settled (h : ∀ c ∈ cs, Settled c.toNat) (before : List Char) :
    lowerAfter before cs = cs := by
  induction cs generalizing before with
  | nil => rfl
  | cons c rest ih =>
    have hc := h c (List.mem_cons_self ..)
    rw [lowerAfter_cons, lowerAt, if_neg (ne_capitalSigma_of_settled hc), lowerChar_of_settled hc,
      ih (fun d hd => h d (List.mem_cons_of_mem _ hd)), List.singleton_append]

/-- **What is lowered is in lower case.** -/
theorem lower_lower (cs : List Char) : lower (lower cs) = lower cs :=
  lowerAfter_of_settled (fun _ hd => settled_of_mem_lowerAfter hd) []

/-! ### Blanks at the ends -/

/-- No blank stands at either end of the text. -/
structure Stripped (cs : List Char) : Prop where
  first : ∀ c ∈ cs.head?, isBlank c = false
  last : ∀ c ∈ cs.getLast?, isBlank c = false

theorem strip_of_stripped (h : Stripped cs) : strip cs = cs := by
  have hfirst : cs.dropWhile isBlank = cs := by
    cases cs with
    | nil => rfl
    | cons c rest => exact List.dropWhile_cons_of_neg (by simp [h.first c rfl])
  show (cs.dropWhile isBlank).rdropWhile isBlank = cs
  rw [hfirst, List.rdropWhile_eq_self_iff]
  intro hne
  simp [h.last _ (List.getLast?_eq_some_getLast hne)]

theorem stripped_strip (cs : List Char) : Stripped (strip cs) := by
  have hprefix : strip cs <+: cs.dropWhile isBlank := List.rdropWhile_prefix isBlank _
  refine ⟨fun c hc => ?_, fun c hc => ?_⟩
  · obtain ⟨rest, hstrip⟩ := List.head?_eq_some_iff.1 hc
    obtain ⟨tail, htail⟩ := hprefix
    have hnot := List.head?_dropWhile_not isBlank cs
    rwa [← htail, hstrip, List.cons_append, List.head?_cons] at hnot
  · have hne : strip cs ≠ [] := List.getLast?_isSome.1 (Option.isSome_of_mem hc)
    obtain rfl : (strip cs).getLast hne = c :=
      Option.some.inj ((List.getLast?_eq_some_getLast hne).symm.trans hc)
    exact Bool.eq_false_iff.2 (List.rdropWhile_last_not isBlank (cs.dropWhile isBlank) hne)

theorem lowerAfter_eq_nil_iff {before : List Char} : lowerAfter before cs = [] ↔ cs = [] := by
  cases cs with
  | nil => exact ⟨fun _ => rfl, fun _ => rfl⟩
  | cons c rest => simp [lowerAfter_cons, lowerAt_ne_nil]

theorem not_blank_of_mem_head?_lower (h : ∀ c ∈ cs.head?, isBlank c = false)
    (hd : d ∈ (lower cs).head?) : isBlank d = false := by
  cases cs with
  | nil => cases hd
  | cons c rest =>
    rw [lower, lowerAfter_cons, List.head?_append_of_ne_nil _ lowerAt_ne_nil] at hd
    exact not_blank_of_mem_lowerAt (h c rfl) (List.mem_of_mem_head? hd)

theorem not_blank_of_mem_getLast?_lowerAfter {before : List Char}
    (h : ∀ c ∈ cs.getLast?, isBlank c = false) (hd : d ∈ (lowerAfter before cs).getLast?) :
    isBlank d = false := by
  induction cs generalizing before with
  | nil => cases hd
  | cons c rest ih =>
    rw [lowerAfter_cons] at hd
    by_cases hrest : rest = []
    · subst hrest
      rw [lowerAfter, List.append_nil] at hd
      exact not_blank_of_mem_lowerAt (h c rfl) (List.mem_of_mem_getLast? hd)
    · -- the last character of the text is that of what is left
      rw [List.getLast?_append_of_ne_nil _ (lowerAfter_eq_nil_iff.not.2 hrest)] at hd
      refine ih (fun c' hc' => h c' ?_) hd
      rwa [List.getLast?_cons_of_ne_nil hrest]

/-- Lowering leaves no blank at an end where there was none. -/
theorem Stripped.lower (h : Stripped cs) : Stripped (lower cs) :=
  ⟨fun _ hd => not_blank_of_mem_head?_lower h.first hd,
    fun _ hd => not_blank_of_mem_getLast?_lowerAfter h.last hd⟩

end EmailOwnership.Text
