import EmailOwnership.Text.Range
import EmailOwnership.Text.LowerCase
import EmailOwnership.Text.Pieces
import EmailOwnership.Text.Punycode
import Mathlib

/-! Texts of ASCII characters.

What a table says of the first 128 characters holds of every ASCII character (`forall_ascii`).
Such texts are lowered letter by letter, and have a byte for each character. What Punycode
inserts is beyond ASCII, so a code that inserts anything does not stand for such a text
(`exists_beyond_ascii`). -/
namespace EmailOwnership.Text
variable {c : Char} {cs : List Char}

theorem forall_ascii {p : Char → Prop} (h : ∀ n < 0x80, p (Char.ofNat n))
    (hc : isAscii c = true) : p c := by
  have hn : c.toNat < 0x80 := by simpa [isAscii] using hc
  have hp := h c.toNat hn
  rwa [Char.ofNat_toNat] at hp

/-! ### Case -/

/-- What every capital shares with its small letter, every character shares with its own. -/
theorem apply_toLower {α : Type} {f : Char → α}
    (h : ∀ n < 26, f (Char.ofNat (0x61 + n)) = f (Char.ofNat (0x41 + n))) (c : Char) :
    f c.toLower = f c := by
  cases hc : c.isUpper with
  | true =>
    obtain ⟨hfirst, hlast⟩ : 0x41 ≤ c.toNat ∧ c.toNat ≤ 0x5a := by
      simpa [Char.isUpper, UInt32.le_iff_toNat_le] using hc
    have hcapital : Char.ofNat (0x41 + (c.toNat - 0x41)) = c := by
      rw [Nat.add_sub_cancel' hfirst, Char.ofNat_toNat]
    have hsmall : Char.ofNat (0x61 + (c.toNat - 0x41)) = c.toLower := by
      rw [Char.toLower_eq_of_isUpper hc, show 0x61 + (c.toNat - 0x41) = c.toNat + 32 by omega]
    have hletter := h (c.toNat - 0x41) (by omega)
    rwa [hsmall, hcapital] at hletter
  | false => rw [Char.toLower_eq_of_not_isUpper (by simp [hc])]

theorem map_toLower_toLower (cs : List Char) :
    (cs.map Char.toLower).map Char.toLower = cs.map Char.toLower := by
  simp [Function.comp_def]

theorem ascii_toLower (h : ∀ c ∈ cs, isAscii c = true) :
    ∀ c ∈ cs.map Char.toLower, isAscii c = true := by
  intro c hc
  obtain ⟨d, hd, rfl⟩ := List.mem_map.1 hc
  rw [apply_toLower (f := isAscii) (by decide +kernel)]
  exact h d hd

theorem lowerChar_of_ascii (hc : isAscii c = true) : lowerChar c = [c.toLower] :=
  forall_ascii (p := fun c => lowerChar c = [c.toLower]) (by decide +kernel) hc

theorem lowerAfter_of_ascii (h : ∀ c ∈ cs, isAscii c = true) (before : List Char) :
    lowerAfter before cs = cs.map Char.toLower := by
  induction cs generalizing before with
  | nil => rfl
  | cons c rest ih =>
    have hc : isAscii c = true := h c (List.mem_cons_self ..)
    have hsigma : c ≠ capitalSigma := by
      rintro rfl
      exact absurd hc (by decide)
    have hrest := ih (fun d hd => h d (List.mem_cons_of_mem _ hd)) (c :: before)
    simp [lowerAfter, hsigma, lowerChar_of_ascii hc, hrest]

theorem lower_of_ascii (h : ∀ c ∈ cs, isAscii c = true) : lower cs = cs.map Char.toLower :=
  lowerAfter_of_ascii h []

/-! ### Blanks and bytes -/

theorem dropEndWhile_sublist (p : Char → Bool) (cs : List Char) :
    (dropEndWhile p cs).Sublist cs := by
  simpa [dropEndWhile] using (List.dropWhile_sublist p (l := cs.reverse)).reverse

theorem strip_sublist (cs : List Char) : (strip cs).Sublist cs :=
  (dropEndWhile_sublist isBlank _).trans (List.dropWhile_sublist isBlank)

/-- A text without blanks has none to lose. -/
theorem strip_eq_self (h : ∀ c ∈ cs, isBlank c = false) : strip cs = cs := by
  have hdrop {l : List Char} (hl : ∀ c ∈ l, isBlank c = false) : l.dropWhile isBlank = l := by
    cases l with
    | nil => rfl
    | cons c rest => rw [List.dropWhile_cons_of_neg (by simp [hl c (List.mem_cons_self ..)])]
  have hback : ∀ c ∈ cs.reverse, isBlank c = false := fun c hc => h c (List.mem_reverse.1 hc)
  rw [strip, dropEndWhile, hdrop h, hdrop hback, List.reverse_reverse]

theorem byteLength_of_ascii (h : ∀ c ∈ cs, isAscii c = true) : byteLength cs = cs.length := by
  have hsize : ∀ c, isAscii c = true → c.utf8Size = 1 := fun c hc =>
    forall_ascii (p := fun c => c.utf8Size = 1) (by decide +kernel) hc
  have hsum (n : Nat) : cs.foldl (fun n c => n + c.utf8Size) n = n + cs.length := by
    induction cs generalizing n with
    | nil => rfl
    | cons c rest ih =>
      have hrest := ih (fun d hd => h d (List.mem_cons_of_mem _ hd)) (n + c.utf8Size)
      rw [List.foldl_cons, hrest, hsize c (h c (List.mem_cons_self ..)), List.length_cons]
      omega
  rw [byteLength, hsum, Nat.zero_add]

/-! ### Beyond ASCII -/

namespace Punycode

/-- A decoder between two characters: no code point that it has passed is in ASCII, and it is in
the middle of a number or has inserted a character. -/
structure Decoder.Inserted (s : Decoder) : Prop where
  code : firstCode ≤ s.code
  beyond : 0 < s.digits ∨ ∃ c ∈ s.text, isAscii c = false

theorem Decoder.inserted_of_insert {s s' : Decoder} {delta : Nat} (hcode : firstCode ≤ s.code)
    (h : s.insert delta = some s') : s'.Inserted := by
  simp only [Decoder.insert] at h
  split at h
  · rename_i hvalid
    cases h
    have hle : firstCode ≤ s.code + (s.place + delta) / (s.text.length + 1) :=
      Nat.le_trans hcode (Nat.le_add_right ..)
    refine ⟨hle, .inr ⟨_, List.mem_append_right _ (List.mem_cons_self ..), ?_⟩⟩
    rw [isAscii, Char.toNat_ofNat, if_pos hvalid]
    simpa [firstCode] using hle
  · cases h

/-- Every character of a code counts. -/
theorem Decoder.inserted_of_step {s s' : Decoder} {c : Char} (hcode : firstCode ≤ s.code)
    (h : s.step c = some s') : s'.Inserted := by
  simp only [Decoder.step, Option.bind_eq_bind, Option.bind_eq_some_iff] at h
  obtain ⟨d, -, h⟩ := h
  split at h
  · exact inserted_of_insert hcode h
  · cases h
    exact ⟨hcode, .inl (Nat.succ_pos _)⟩

theorem Decoder.inserted_of_steps {s s' : Decoder} {cs : List Char} (hne : cs ≠ [])
    (hcode : firstCode ≤ s.code) (h : cs.foldlM Decoder.step s = some s') : s'.Inserted := by
  induction cs generalizing s with
  | nil => exact absurd rfl hne
  | cons c rest ih =>
    simp only [List.foldlM_cons, Option.bind_eq_bind, Option.bind_eq_some_iff] at h
    obtain ⟨mid, hstep, h⟩ := h
    have hmid := inserted_of_step hcode hstep
    by_cases hrest : rest = []
    · subst hrest
      cases h
      exact hmid
    · exact ih hrest hmid.code h

/-- Behind the last hyphen there is something, unless the code ends with it. -/
theorem behind_ne_nil {code : List Char} (hne : code ≠ []) (hlast : code.getLast? ≠ some '-') :
    (cutLast code).2 ≠ [] := by
  obtain ⟨-, hcut⟩ := cut_eq '-' code.reverse
  unfold cutLast
  split
  · rename_i behind before heq
    rw [heq] at hcut
    intro hnil
    have hreverse : code.reverse = '-' :: before := by
      simpa [List.reverse_eq_nil_iff.1 hnil] using hcut
    exact hlast (by rw [← List.head?_reverse, hreverse, List.head?_cons])
  · exact hne

/-- **A code that goes on behind its last hyphen stands for a text beyond ASCII.** -/
theorem exists_beyond_ascii {code text : List Char} (hne : code ≠ [])
    (hlast : code.getLast? ≠ some '-') (h : decode? code = some text) :
    ∃ c ∈ text, isAscii c = false := by
  simp only [decode?, Option.bind_eq_some_iff] at h
  obtain ⟨s, hsteps, hfinish⟩ := h
  have hinserted := Decoder.inserted_of_steps (behind_ne_nil hne hlast) (Nat.le_refl _) hsteps
  simp only [Decoder.finish?] at hfinish
  split at hfinish
  · rename_i hdigits
    cases hfinish
    rcases hinserted.beyond with hpos | hbeyond
    · exact absurd hdigits (Nat.ne_of_gt hpos)
    · exact hbeyond
  · cases hfinish

end Punycode

end EmailOwnership.Text
