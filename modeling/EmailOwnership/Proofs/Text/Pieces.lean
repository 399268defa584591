import EmailOwnership.Text.Pieces

/-! Text between separators.

The pieces of a text are what the library's `splitOn` makes of it. So texts without the
separator that are joined by it come apart again as they were, and a change of characters that
keeps to the separator commutes with the taking apart (`pieces_map`). -/
namespace EmailOwnership.Text
variable {separator c : Char} {cs : List Char}

/-! ### Up to the first separator -/

theorem cut_append {before : List Char} (h : separator ∉ before) (behind : List Char) :
    cut separator (before ++ separator :: behind) = (before, some behind) := by
  induction before with
  | nil => simp [cut]
  | cons c rest ih =>
    obtain ⟨hc, hrest⟩ : c ≠ separator ∧ separator ∉ rest := by
      simpa [eq_comm] using h
    simp only [List.cons_append, cut, if_neg hc, ih hrest]

/-! ### Between all of them -/

theorem pieces_eq_splitOn (separator : Char) (cs : List Char) :
    pieces separator cs = cs.splitOn separator := by
  induction cs with
  | nil => rfl
  | cons c rest ih =>
    rw [List.splitOn_cons_eq_if_modifyHead, ← ih]
    by_cases hc : c = separator
    · simp [pieces, hc]
    · obtain ⟨piece, more, hpieces⟩ := List.exists_cons_of_ne_nil (pieces_ne_nil separator rest)
      simp [pieces, hc, hpieces]

theorem pieces_of_not_mem (h : separator ∉ cs) : pieces separator cs = [cs] := by
  rw [pieces_eq_splitOn, List.splitOn_eq_singleton h]

theorem pieces_append {before : List Char} (h : separator ∉ before) (behind : List Char) :
    pieces separator (before ++ separator :: behind) = before :: pieces separator behind := by
  rw [pieces_eq_splitOn, pieces_eq_splitOn, List.splitOn_append_cons_self_of_not_mem h]

section Joined
variable {text : List Char} {texts : List (List Char)}

theorem mem_intercalate (h : c ∈ [separator].intercalate texts) :
    c = separator ∨ ∃ text ∈ texts, c ∈ text := by
  induction texts with
  | nil => cases h
  | cons first rest ih =>
    cases rest with
    | nil =>
      rw [List.intercalate_singleton] at h
      exact .inr ⟨first, List.mem_cons_self .., h⟩
    | cons next more =>
      rw [List.intercalate_cons_cons, List.mem_append, List.mem_append, List.mem_singleton] at h
      rcases h with (hc | hc) | hc
      · exact .inr ⟨first, List.mem_cons_self .., hc⟩
      · exact .inl hc
      · rcases ih hc with hc | ⟨text, htext, hc⟩
        · exact .inl hc
        · exact .inr ⟨text, List.mem_cons_of_mem _ htext, hc⟩

theorem mem_intercalate_of_mem (htext : text ∈ texts) (hc : c ∈ text) :
    c ∈ [separator].intercalate texts := by
  induction texts with
  | nil => cases htext
  | cons first rest ih =>
    cases rest with
    | nil =>
      obtain rfl := List.mem_singleton.1 htext
      rwa [List.intercalate_singleton]
    | cons next more =>
      rw [List.intercalate_cons_cons, List.mem_append, List.mem_append]
      rcases List.mem_cons.1 htext with rfl | htext
      · exact .inl (.inl hc)
      · exact .inr (ih htext)

/-- Joined texts come apart as they were. -/
theorem pieces_intercalate (hne : texts ≠ []) (h : ∀ text ∈ texts, separator ∉ text) :
    pieces separator ([separator].intercalate texts) = texts := by
  rw [pieces_eq_splitOn, List.splitOn_intercalate separator h hne]

end Joined

/-- A character of the text is a separator or in one of the pieces. -/
theorem mem_pieces (separator : Char) (h : c ∈ cs) :
    c = separator ∨ ∃ piece ∈ pieces separator cs, c ∈ piece := by
  have hjoined : [separator].intercalate (pieces separator cs) = cs := by
    rw [pieces_eq_splitOn, List.intercalate_splitOn]
  rw [← hjoined] at h
  exact mem_intercalate h

theorem pieces_map {f : Char → Char} (hf : ∀ c, f c = separator ↔ c = separator) (cs : List Char) :
    pieces separator (cs.map f) = (pieces separator cs).map (List.map f) := by
  induction cs with
  | nil => rfl
  | cons c rest ih =>
    by_cases hc : c = separator
    · simp [pieces, hc, (hf separator).2 rfl, ih]
    · have hfc : f c ≠ separator := fun h => hc ((hf c).1 h)
      obtain ⟨piece, more, hpieces⟩ := List.exists_cons_of_ne_nil (pieces_ne_nil separator rest)
      rw [hpieces] at ih
      simp [pieces, hc, hfc, ih, hpieces]

end EmailOwnership.Text
