/-! Taking text apart at separators and at the ends of lines. -/
namespace EmailOwnership.Text

/-- The text before the first `separator`, and what follows it if there is one. -/
def cut (separator : Char) : List Char → List Char × Option (List Char)
  | [] => ([], none)
  | c :: rest =>
    if c = separator then ([], some rest)
    else (c :: (cut separator rest).1, (cut separator rest).2)

/-- Nothing is lost but the separator, which is not in the first part. -/
theorem cut_eq (separator : Char) (cs : List Char) :
    (∀ c ∈ (cut separator cs).1, c ≠ separator) ∧
      cs = (cut separator cs).1 ++
        match (cut separator cs).2 with
        | none => []
        | some behind => separator :: behind := by
  induction cs with
  | nil => exact ⟨fun _ h => absurd h List.not_mem_nil, rfl⟩
  | cons c rest ih =>
    by_cases h : c = separator
    · subst h
      simp [cut]
    · simp only [cut, if_neg h, List.mem_cons, List.cons_append]
      refine ⟨?_, congrArg (c :: ·) ih.2⟩
      rintro d (rfl | hd)
      · exact h
      · exact ih.1 d hd

/-- Every stretch between separators, empty ones too; there is always at least one. -/
def pieces (separator : Char) : List Char → List (List Char)
  | [] => [[]]
  | c :: rest =>
    if c = separator then [] :: pieces separator rest
    else match pieces separator rest with
      | [] => [[c]]
      | piece :: more => (c :: piece) :: more

theorem pieces_ne_nil (separator : Char) (cs : List Char) : pieces separator cs ≠ [] := by
  induction cs with
  | nil => exact List.cons_ne_nil _ _
  | cons c rest ih =>
    by_cases h : c = separator
    · simp [pieces, h]
    · simp only [pieces, if_neg h]
      split <;> exact List.cons_ne_nil _ _

/-- Below `U+0080`. -/
def isAscii (c : Char) : Bool := decide (c.toNat < 0x80)

/-- The length of the text in UTF-8. -/
def byteLength (cs : List Char) : Nat := cs.foldl (fun n c => n + c.utf8Size) 0

/-! ### Ends of lines -/

/-- Line ends of any system become single line feeds. -/
def unifyLineEnds : List Char → List Char
  | '\r' :: '\n' :: rest => '\n' :: unifyLineEnds rest
  | '\r' :: rest => '\n' :: unifyLineEnds rest
  | c :: rest => c :: unifyLineEnds rest
  | [] => []

theorem not_mem_unifyLineEnds (cs : List Char) : '\r' ∉ unifyLineEnds cs := by
  fun_induction unifyLineEnds cs with
  | case1 rest ih | case2 rest _ ih => simpa using ih
  | case3 c rest _ hc ih =>
    have hc : '\r' ≠ c := fun e => hc e.symm
    simpa [hc] using ih
  | case4 => exact List.not_mem_nil

theorem unifyLineEnds_of_not_mem {cs : List Char} (h : '\r' ∉ cs) : unifyLineEnds cs = cs := by
  fun_induction unifyLineEnds cs with
  | case1 | case2 => exact absurd (List.mem_cons_self ..) h
  | case3 c rest _ _ ih => rw [ih fun hmem => h (List.mem_cons_of_mem c hmem)]
  | case4 => rfl

/-- Only texts without a carriage return stay as they are. -/
theorem unifyLineEnds_eq_self_iff {cs : List Char} : unifyLineEnds cs = cs ↔ '\r' ∉ cs :=
  ⟨fun h => h ▸ not_mem_unifyLineEnds cs, unifyLineEnds_of_not_mem⟩

end EmailOwnership.Text
