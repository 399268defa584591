import EmailOwnership.Verification
import EmailOwnership.Mailbox
import EmailOwnership.Proofs.Text.Ascii
import EmailOwnership.Proofs.Text.Pieces

/-! Addresses that are read again.

What is read off a text is stored in lower case, and callers see the stored form. That form
need not read as itself: lowering can change how a text composes. In ASCII it does: an address
that was read in ASCII characters reads as its stored form from there on (`read?_normalize`).
Its domain has plain labels only, since what an encoded label stands for is beyond ASCII. -/
namespace EmailOwnership.Mailbox
open Text

/-! ### Local parts -/

section LocalParts
variable {cs localPart : List Char}

/-- Case does not matter to the form of a local part. -/
theorem isLocalPart_toLower (cs : List Char) :
    isLocalPart (cs.map Char.toLower) = isLocalPart cs := by
  have hdot (c : Char) : c.toLower = '.' ↔ c = '.' := by
    have hsame := apply_toLower (f := fun c => decide (c = '.')) (by decide +kernel) c
    exact decide_eq_decide.1 hsame
  have hatom (c : Char) : isAtomChar c.toLower = isAtomChar c := apply_toLower (by decide +kernel) c
  have hgraphic (c : Char) : isGraphic c.toLower = isGraphic c := apply_toLower (by decide +kernel) c
  have hmark (c : Char) : isMark c.toLower = isMark c := apply_toLower (by decide +kernel) c
  have hshown : isShown (cs.map Char.toLower) = isShown cs := by
    cases cs with
    | nil => rfl
    | cons c rest => simp [isShown, Function.comp_def, hgraphic, hmark]
  have hatoms (piece : List Char) : isAtom (piece.map Char.toLower) = isAtom piece := by
    simp [isAtom, Function.comp_def, hatom]
  simp [isLocalPart, pieces_map hdot, Function.comp_def, hatoms, hshown]

theorem foldShared_eq (cs : List Char) : foldShared cs = cs ∨ foldShared cs = cs.map Char.toLower := by
  unfold foldShared
  dsimp only
  split
  · exact .inr rfl
  · exact .inl rfl

theorem isLocalPart_of_localPart? (h : localPart? cs = some localPart) :
    isLocalPart localPart = true := by
  unfold localPart? at h
  split at h
  · cases h
  rename_i hform
  split at h
  · cases h
    rcases foldShared_eq cs with heq | heq
    · simpa [heq] using hform
    · simpa [heq, isLocalPart_toLower] using hform
  · split at h
    · rename_i hcomposed
      cases h
      exact hcomposed
    · cases h

/-- A local part in ASCII reads as itself in lower case. -/
theorem localPart?_toLower (h : localPart? cs = some localPart)
    (hascii : ∀ c ∈ localPart, isAscii c = true) :
    localPart? (localPart.map Char.toLower) = some (localPart.map Char.toLower) := by
  have hform : isLocalPart (localPart.map Char.toLower) = true := by
    rw [isLocalPart_toLower, isLocalPart_of_localPart? h]
  have hlowered : (localPart.map Char.toLower).all isAscii = true :=
    List.all_eq_true.2 (ascii_toLower hascii)
  have hfolded : foldShared (localPart.map Char.toLower) = localPart.map Char.toLower := by
    rcases foldShared_eq (localPart.map Char.toLower) with heq | heq
    · exact heq
    · rw [heq, map_toLower_toLower]
  rw [localPart?, hform, if_neg (by decide), if_pos hlowered, hfolded]

theorem char_of_localPart? (h : localPart? cs = some localPart) {c : Char} (hc : c ∈ localPart) :
    c = '.' ∨ isAtomChar c = true := by
  have hform := isLocalPart_of_localPart? h
  simp only [isLocalPart, Bool.and_eq_true, List.all_eq_true, isAtom] at hform
  rcases mem_pieces '.' hc with hdot | ⟨piece, hpiece, hc⟩
  · exact .inl hdot
  · exact .inr ((hform.1 piece hpiece).2 c hc)

end LocalParts

/-! ### Domains -/

section Domains
variable {cs : List Char}

/-- A label that shows in ASCII is a plain one. -/
theorem plain_of_ascii {l : Label} (h : label? cs = some l)
    (hascii : ∀ c ∈ l.shown, isAscii c = true) : l = ⟨cs, cs⟩ ∧ isPlainLabel cs = true := by
  simp only [label?, Option.filter_eq_some_iff] at h
  obtain ⟨h, -⟩ := h
  split at h
  · -- an international label that is read as it is
    rename_i hbeyond
    split at h
    · cases h
      rw [List.all_eq_true.2 hascii] at hbeyond
      cases hbeyond
    · cases h
  · split at h
    · -- an encoded label
      simp only [decoded?] at h
      split at h
      · cases h
      rename_i hcode
      split at h
      · cases h
      rename_i shown hshown
      split at h
      · cases h
        simp only [Bool.or_eq_true, not_or] at hcode
        obtain ⟨c, hc, hbeyond⟩ := Punycode.exists_beyond_ascii (by simpa using hcode.1.1)
          (by simpa using hcode.1.2) hshown
        rw [hascii c hc] at hbeyond
        cases hbeyond
      · cases h
    · split at h
      · rename_i hplain
        cases h
        exact ⟨rfl, hplain⟩
      · cases h

theorem exists_of_mapM {α β : Type} {f : α → Option β} {xs : List α} {ys : List β}
    (h : xs.mapM f = some ys) : ∀ y ∈ ys, ∃ x, f x = some y := by
  induction xs generalizing ys with
  | nil =>
    cases h
    exact fun y hy => absurd hy List.not_mem_nil
  | cons x rest ih =>
    simp only [List.mapM_cons, Option.bind_eq_bind, Option.bind_eq_some_iff] at h
    obtain ⟨y, hy, tail, htail, h⟩ := h
    cases h
    rintro z hz
    rcases List.mem_cons.1 hz with rfl | hz
    · exact ⟨x, hy⟩
    · exact ih htail z hz

theorem mapM_map_eq_some {α β : Type} {f : α → Option β} {g : β → α} {ys : List β}
    (h : ∀ y ∈ ys, f (g y) = some y) : (ys.map g).mapM f = some ys := by
  induction ys with
  | nil => rfl
  | cons y rest ih =>
    have hy := h y (List.mem_cons_self ..)
    have hrest := ih fun z hz => h z (List.mem_cons_of_mem _ hz)
    simp [hy, hrest]

/-- A label of plain characters reads as itself. -/
theorem label?_shown {l : Label} (h : label? cs = some l)
    (hascii : ∀ c ∈ l.shown, isAscii c = true) :
    label? l.shown = some l ∧ l.sent = l.shown ∧ ∀ c ∈ l.shown, isHostChar c = true := by
  obtain ⟨rfl, hplain⟩ := plain_of_ascii h hascii
  simp only [isPlainLabel, Bool.and_eq_true, List.all_eq_true] at hplain
  exact ⟨h, rfl, hplain.1.2⟩

theorem toLower_host {c : Char} (hc : c = '.' ∨ isHostChar c = true) : c.toLower = c := by
  refine Char.toLower_eq_of_not_isUpper ?_
  rcases hc with rfl | hc
  · decide
  · simp only [isHostChar, Bool.or_eq_true, beq_iff_eq] at hc
    rcases hc with (hlower | hdigit) | rfl
    · exact Char.not_isUpper_of_isLower hlower
    · simp [Char.isDigit, Char.isUpper, UInt32.le_iff_toNat_le] at hdigit ⊢
      omega
    · decide

theorem map_toLower_host (h : ∀ c ∈ cs, c = '.' ∨ isHostChar c = true) :
    cs.map Char.toLower = cs :=
  (List.map_congr_left fun c hc => toLower_host (h c hc)).trans (List.map_id _)

theorem shown_of_ofLabels? {labels : List Label} {domain : Domain}
    (h : Domain.ofLabels? labels = some domain) : 2 ≤ labels.length ∧
      domain.shown = joinLabels (labels.map Label.shown) ∧
      domain.sent = joinLabels (labels.map Label.sent) := by
  simp only [Domain.ofLabels?] at h
  split at h
  · rename_i hfit
    cases h
    exact ⟨hfit.1, rfl, rfl⟩
  · cases h

/-- A domain that shows in ASCII is sent as it shows, in plain characters, and reads as itself. -/
theorem domain?_shown {domain : Domain} (h : domain? cs = some domain)
    (hascii : ∀ c ∈ domain.shown, isAscii c = true) :
    domain? domain.shown = some domain ∧ domain.sent = domain.shown ∧
      ∀ c ∈ domain.shown, c = '.' ∨ isHostChar c = true := by
  obtain ⟨labels, hlabels, hdomain⟩ := Option.bind_eq_some_iff.1 h
  obtain ⟨hmany, hshown, hsent⟩ := shown_of_ofLabels? hdomain
  have hplain : ∀ l ∈ labels, label? l.shown = some l ∧ l.sent = l.shown ∧
      ∀ c ∈ l.shown, isHostChar c = true := by
    intro l hl
    obtain ⟨piece, hpiece⟩ := exists_of_mapM hlabels l hl
    refine label?_shown hpiece fun c hc => hascii c ?_
    rw [hshown]
    exact mem_intercalate_of_mem (List.mem_map_of_mem hl) hc
  have hsame : labels.map Label.sent = labels.map Label.shown :=
    List.map_congr_left fun l hl => (hplain l hl).2.1
  have hchars : ∀ c ∈ domain.shown, c = '.' ∨ isHostChar c = true := by
    intro c hc
    rw [hshown] at hc
    rcases mem_intercalate hc with hdot | ⟨text, htext, hc⟩
    · exact .inl hdot
    · obtain ⟨l, hl, rfl⟩ := List.mem_map.1 htext
      exact .inr ((hplain l hl).2.2 c hc)
  refine ⟨?_, by rw [hsent, hsame, hshown], hchars⟩
  -- the shown domain is canonical, and comes apart into its labels
  have hcanonical : canonical domain.shown = domain.shown := by
    rw [canonical, map_toLower_host hchars, if_pos (List.all_eq_true.2 hascii)]
  have hpieces : pieces '.' domain.shown = labels.map Label.shown := by
    rw [hshown]
    refine pieces_intercalate ?_ fun text htext hdot => ?_
    · intro hnil
      rw [List.map_eq_nil_iff.1 hnil] at hmany
      exact absurd hmany (by decide)
    · obtain ⟨l, hl, rfl⟩ := List.mem_map.1 htext
      exact absurd ((hplain l hl).2.2 '.' hdot) (by decide)
  have hreread : (labels.map Label.shown).mapM label? = some labels :=
    mapM_map_eq_some fun l hl => (hplain l hl).1
  rw [domain?, hcanonical, hpieces, hreread]
  exact hdomain

theorem map_of_mapM {α β : Type} {f : α → Option β} {g : β → α} {xs : List α} {ys : List β}
    (h : xs.mapM f = some ys) (hg : ∀ x, ∀ y ∈ ys, f x = some y → g y = x) : ys.map g = xs := by
  induction xs generalizing ys with
  | nil =>
    cases h
    rfl
  | cons x rest ih =>
    simp only [List.mapM_cons, Option.bind_eq_bind, Option.bind_eq_some_iff] at h
    obtain ⟨y, hy, tail, htail, h⟩ := h
    cases h
    rw [List.map_cons, hg x y (List.mem_cons_self ..) hy,
      ih htail fun x z hz => hg x z (List.mem_cons_of_mem _ hz)]

/-- A domain that shows in ASCII is the text that it was read off, in lower case and composed. -/
theorem shown_eq_canonical {domain : Domain} (h : domain? cs = some domain)
    (hascii : ∀ c ∈ domain.shown, isAscii c = true) : domain.shown = canonical cs := by
  obtain ⟨labels, hlabels, hdomain⟩ := Option.bind_eq_some_iff.1 h
  obtain ⟨-, hshown, -⟩ := shown_of_ofLabels? hdomain
  have hpieces : labels.map Label.shown = pieces '.' (canonical cs) := by
    refine map_of_mapM hlabels fun piece l hl hpiece => ?_
    obtain ⟨rfl, -⟩ := plain_of_ascii hpiece fun c hc => hascii c (by
      rw [hshown]
      exact mem_intercalate_of_mem (List.mem_map_of_mem hl) hc)
    rfl
  rw [hshown, hpieces, pieces_eq_splitOn, joinLabels, List.intercalate_splitOn]

end Domains

/-! ### Addresses -/

/-- The characters of an address in ASCII. -/
def isAddressChar (c : Char) : Bool := isAscii c && (isAtomChar c || c == '.' || c == '@')

section Characters
variable {c : Char}

/-- What a table says of the characters of addresses holds of each of them. -/
theorem of_isAddressChar {p : Char → Prop}
    (h : ∀ n < 0x80, isAddressChar (Char.ofNat n) = true → p (Char.ofNat n))
    (hc : isAddressChar c = true) : p c := by
  have hascii : isAscii c = true := by
    rw [isAddressChar, Bool.and_eq_true] at hc
    exact hc.1
  exact forall_ascii (p := fun c => isAddressChar c = true → p c) h hascii hc

theorem isAddressChar_toLower (c : Char) : isAddressChar c.toLower = isAddressChar c :=
  apply_toLower (by decide +kernel) c

theorem isAddressChar_of_atom (hascii : isAscii c = true) (hc : c = '.' ∨ isAtomChar c = true) :
    isAddressChar c = true :=
  forall_ascii (p := fun c => c = '.' ∨ isAtomChar c = true → isAddressChar c = true)
    (by decide +kernel) hascii hc

theorem isAddressChar_of_host (hascii : isAscii c = true) (hc : c = '.' ∨ isHostChar c = true) :
    isAddressChar c = true :=
  forall_ascii (p := fun c => c = '.' ∨ isHostChar c = true → isAddressChar c = true)
    (by decide +kernel) hascii hc

end Characters

section Addresses
variable {cs shown : List Char}

theorem fits_iff_of_ascii (h : ∀ c ∈ cs, isAscii c = true) :
    fits cs = true ↔ cs.length ≤ maxAddressBytes := by
  rw [fits, decide_eq_true_iff, byteLength_of_ascii h]

/-- Both parts of an address have been read. -/
theorem parts_of_address? (h : address? cs = some shown) :
    ∃ before behind localPart domain, cs = before ++ '@' :: behind ∧
      localPart? before = some localPart ∧ domain? behind = some domain ∧
      shown = localPart ++ '@' :: domain.shown ∧ fits shown = true := by
  simp only [address?] at h
  split at h
  case h_1 => cases h
  rename_i before behind hcut
  have hcs : cs = before ++ '@' :: behind := by
    have heq := (cut_eq '@' cs).2
    rwa [hcut] at heq
  split at h
  case h_2 => cases h
  rename_i localPart domain hlocal hdomain
  split at h
  case isFalse => cases h
  rename_i hfits
  simp only [Bool.and_eq_true] at hfits
  cases h
  exact ⟨before, behind, localPart, domain, hcs, hlocal, hdomain, rfl, hfits.1.2⟩

/-- An address in ASCII has no room for anything around it. -/
theorem char_of_address? (h : address? cs = some shown) (hascii : ∀ c ∈ shown, isAscii c = true) :
    (∀ c ∈ shown, isAddressChar c = true) ∧ shown.length ≤ maxAddressBytes := by
  obtain ⟨before, behind, localPart, domain, -, hlocal, hdomain, rfl, hfits⟩ := parts_of_address? h
  refine ⟨fun c hc => ?_, (fits_iff_of_ascii hascii).1 hfits⟩
  have hdomainAscii : ∀ c ∈ domain.shown, isAscii c = true := fun c hc => hascii c (by simp [hc])
  rcases List.mem_append.1 hc with hlocalChar | hrest
  · exact isAddressChar_of_atom (hascii c hc) (char_of_localPart? hlocal hlocalChar)
  · rcases List.mem_cons.1 hrest with rfl | hdomainChar
    · rfl
    · exact isAddressChar_of_host (hascii c hc)
        ((domain?_shown hdomain hdomainAscii).2.2 c hdomainChar)

/-- An address in ASCII reads as itself in lower case. -/
theorem address?_toLower (h : address? cs = some shown) (hascii : ∀ c ∈ shown, isAscii c = true) :
    address? (shown.map Char.toLower) = some (shown.map Char.toLower) := by
  obtain ⟨before, behind, localPart, domain, -, hlocal, hdomain, rfl, hfits⟩ := parts_of_address? h
  have hlocalAscii : ∀ c ∈ localPart, isAscii c = true := fun c hc => hascii c (by simp [hc])
  have hdomainAscii : ∀ c ∈ domain.shown, isAscii c = true := fun c hc => hascii c (by simp [hc])
  have hlocalAgain := localPart?_toLower hlocal hlocalAscii
  obtain ⟨hdomainAgain, hsent, hhost⟩ := domain?_shown hdomain hdomainAscii
  have hlowered : (localPart ++ '@' :: domain.shown).map Char.toLower =
      localPart.map Char.toLower ++ '@' :: domain.shown := by
    rw [List.map_append, List.map_cons, map_toLower_host hhost]
    rfl
  have hat : '@' ∉ localPart.map Char.toLower := fun hmem =>
    absurd (char_of_localPart? hlocalAgain hmem) (by decide)
  have hfitsAgain : fits ((localPart ++ '@' :: domain.shown).map Char.toLower) = true := by
    rw [fits_iff_of_ascii (ascii_toLower hascii), List.length_map]
    exact (fits_iff_of_ascii hascii).1 hfits
  rw [hlowered] at hfitsAgain ⊢
  rw [address?, cut_append hat]
  simp [hlocalAgain, hdomainAgain, hsent, hfitsAgain]

theorem enclosed?_eq_none (h : '<' ∉ cs) : enclosed? cs = none := by
  unfold enclosed?
  split
  · rename_i rest hdrop
    have hmem : '<' ∈ cs.dropWhile isBlank := hdrop ▸ List.mem_cons_self ..
    exact absurd ((List.dropWhile_sublist _).mem hmem) h
  · rfl

theorem behindQuote?_eq_none (h : '<' ∉ cs) : behindQuote? cs = none := by
  induction cs with
  | nil => rfl
  | cons c rest ih =>
    have hrest : '<' ∉ rest := fun hmem => h (List.mem_cons_of_mem _ hmem)
    simp [behindQuote?, ih hrest, enclosed?_eq_none hrest]

/-- Without a bracket there is nothing in brackets. -/
theorem bracketed?_eq_none (h : '<' ∉ cs) : bracketed? cs = none := by
  have hinner : '<' ∉ cs.dropWhile isNameChar := fun hmem => h ((List.dropWhile_sublist _).mem hmem)
  rw [bracketed?, enclosed?_eq_none hinner]
  dsimp only
  split
  · rename_i c more hdrop
    refine behindQuote?_eq_none fun hmem => h ((List.dropWhile_sublist isBlank).mem ?_)
    rw [hdrop]
    exact List.mem_cons_of_mem _ (List.mem_cons_of_mem _ hmem)
  · rfl

/-- A text that is all address is read as one. -/
theorem read?_ofList (hchars : ∀ c ∈ cs, isAddressChar c = true)
    (hlength : cs.length ≤ maxAddressBytes) :
    read? (String.ofList cs) = (address? cs).map String.ofList := by
  have hlong : ¬ maxTextLength < cs.length :=
    Nat.not_lt.2 (Nat.le_trans hlength (by decide))
  have hlines : cs.any isLineEnd = false := by
    refine List.any_eq_false.2 fun c hc => ?_
    exact of_isAddressChar (p := fun c => ¬ isLineEnd c = true) (by decide +kernel) (hchars c hc)
  have hbracket : '<' ∉ cs := fun hmem => absurd (hchars _ hmem) (by decide)
  have hblank : ∀ c ∈ cs, isBlank c = false := fun c hc =>
    of_isAddressChar (p := fun c => isBlank c = false) (by decide +kernel) (hchars c hc)
  simp [read?, hlong, hlines, bracketed?_eq_none hbracket, strip_eq_self hblank]

end Addresses

/-- The stored form of an address in ASCII is the address in lower case. -/
theorem normalize_of_chars {t : String} (h : ∀ c ∈ t.toList, isAddressChar c = true) :
    Address.normalize t = String.ofList (t.toList.map Char.toLower) := by
  have hblank : ∀ c ∈ t.toList, isBlank c = false := fun c hc =>
    of_isAddressChar (p := fun c => isBlank c = false) (by decide +kernel) (h c hc)
  have hascii : ∀ c ∈ t.toList, isAscii c = true := fun c hc =>
    of_isAddressChar (p := fun c => isAscii c = true) (by decide +kernel) (h c hc)
  rw [Address.normalize, strip_eq_self hblank, lower_of_ascii hascii]

/-- **An address that was read in ASCII reads as its stored form from there on**, and is stored
under it again. -/
theorem read?_normalize {s t : String} (h : read? s = some t)
    (hascii : ∀ c ∈ t.toList, isAscii c = true) :
    read? (Address.normalize t) = some (Address.normalize t) ∧
      Address.normalize (Address.normalize t) = Address.normalize t := by
  obtain ⟨cs, haddress⟩ : ∃ cs, address? cs = some t.toList := by
    simp only [read?] at h
    split at h
    · cases h
    · obtain ⟨shown, hshown, rfl⟩ := Option.map_eq_some_iff.1 h
      exact ⟨_, by rw [String.toList_ofList]; exact hshown⟩
  obtain ⟨hchars, hlength⟩ := char_of_address? haddress hascii
  have hlowered : ∀ c ∈ t.toList.map Char.toLower, isAddressChar c = true := by
    intro c hc
    obtain ⟨d, hd, rfl⟩ := List.mem_map.1 hc
    rw [isAddressChar_toLower]
    exact hchars d hd
  have hstored := normalize_of_chars hchars
  constructor
  · rw [hstored, read?_ofList hlowered (by rwa [List.length_map]), address?_toLower haddress hascii]
    rfl
  · rw [hstored, normalize_of_chars (by rwa [String.toList_ofList]), String.toList_ofList,
      map_toLower_toLower]

/-! ### Texts that are stored as they are written -/

section Texts
variable {cs shown : List Char}

/-- In ASCII, reading an address changes the case of its letters at most. -/
theorem toLower_of_address? (h : address? cs = some shown) (hcs : ∀ c ∈ cs, isAscii c = true)
    (hascii : ∀ c ∈ shown, isAscii c = true) : shown.map Char.toLower = cs.map Char.toLower := by
  obtain ⟨before, behind, localPart, domain, rfl, hlocal, hdomain, rfl, -⟩ := parts_of_address? h
  have hbefore : ∀ c ∈ before, isAscii c = true := fun c hc => hcs c (by simp [hc])
  have hbehind : ∀ c ∈ behind, isAscii c = true := fun c hc => hcs c (by simp [hc])
  have hlocalPart : localPart.map Char.toLower = before.map Char.toLower := by
    unfold localPart? at hlocal
    rw [if_pos (List.all_eq_true.2 hbefore)] at hlocal
    split at hlocal
    · cases hlocal
    · cases hlocal
      rcases foldShared_eq before with heq | heq
      · rw [heq]
      · rw [heq, map_toLower_toLower]
  have hdomainPart : domain.shown.map Char.toLower = behind.map Char.toLower := by
    rw [shown_eq_canonical hdomain fun c hc => hascii c (by simp [hc]), canonical,
      if_pos (List.all_eq_true.2 (ascii_toLower hbehind)), map_toLower_toLower]
  rw [List.map_append, List.map_append, List.map_cons, List.map_cons, hlocalPart, hdomainPart]

theorem enclosed?_sublist {inner : List Char} (h : enclosed? cs = some inner) : inner.Sublist cs := by
  unfold enclosed? at h
  split at h
  · rename_i rest hdrop
    split at h
    · rename_i c most hends
      cases h
      have hrest : dropEndWhile isBlank rest = (c :: most).reverse ++ ['>'] := by
        rw [← List.reverse_reverse (dropEndWhile isBlank rest), hends]
        simp
      have hinner : ((c :: most).reverse).Sublist rest :=
        (List.sublist_append_left _ _).trans (hrest ▸ dropEndWhile_sublist isBlank rest)
      have hbehind : ('<' :: rest).Sublist cs := hdrop ▸ List.dropWhile_sublist isBlank
      exact hinner.trans ((List.sublist_cons_self _ _).trans hbehind)
    · cases h
  · cases h

theorem behindQuote?_sublist {inner : List Char} (h : behindQuote? cs = some inner) :
    inner.Sublist cs := by
  induction cs with
  | nil => cases h
  | cons c rest ih =>
    refine List.Sublist.trans ?_ (List.sublist_cons_self c rest)
    simp only [behindQuote?] at h
    split at h
    · rename_i hfound
      cases h
      exact ih hfound
    · split at h
      · exact enclosed?_sublist h
      · cases h

/-- What counts of a text is part of it. -/
theorem bracketed?_sublist {inner : List Char} (h : bracketed? cs = some inner) :
    inner.Sublist cs := by
  unfold bracketed? at h
  split at h
  · rename_i hfound
    cases h
    exact (enclosed?_sublist hfound).trans (List.dropWhile_sublist _)
  · split at h
    · rename_i c more hdrop
      have hmore : ('"' :: c :: more).Sublist cs := hdrop ▸ List.dropWhile_sublist isBlank
      exact (behindQuote?_sublist h).trans
        (((List.sublist_cons_self _ _).trans (List.sublist_cons_self _ _)).trans hmore)
    · cases h

/-- A text that is read has room for both parts and the sign between them. -/
theorem length_of_read? {text read : String} (h : read? text = some read) : 3 ≤ text.length := by
  obtain ⟨cs, hcs, shown, hshown⟩ : ∃ cs : List Char, cs.Sublist text.toList ∧
      ∃ shown, address? cs = some shown := by
    simp only [read?] at h
    split at h
    · cases h
    · obtain ⟨shown, hshown, -⟩ := Option.map_eq_some_iff.1 h
      refine ⟨_, (strip_sublist _).trans ?_, shown, hshown⟩
      cases hinner : bracketed? text.toList with
      | none => exact List.Sublist.refl _
      | some inner => exact bracketed?_sublist hinner
  obtain ⟨before, behind, localPart, domain, rfl, hlocal, hdomain, -, -⟩ := parts_of_address? hshown
  have hbefore : 0 < before.length := by
    refine List.length_pos_iff.2 fun hnil => ?_
    rw [hnil, show localPart? [] = none by decide +kernel] at hlocal
    cases hlocal
  have hbehind : 0 < behind.length := by
    refine List.length_pos_iff.2 fun hnil => ?_
    have hnone : (domain? []).isSome = false := by decide +kernel
    rw [← hnil, hdomain] at hnone
    cases hnone
  have hlength := hcs.length_le
  rw [List.length_append, List.length_cons, String.length_toList] at hlength
  omega

/-- **An ASCII text that is read in ASCII is stored as it is written**, unless it is in brackets. -/
theorem normalize_eq_of_ascii {text read : String} (h : read? text = some read)
    (hbare : '<' ∉ text.toList) (htext : ∀ c ∈ text.toList, isAscii c = true)
    (hread : ∀ c ∈ read.toList, isAscii c = true) :
    Address.normalize text = Address.normalize read := by
  have haddress : address? (strip text.toList) = some read.toList := by
    simp only [read?, bracketed?_eq_none hbare] at h
    split at h
    · cases h
    · obtain ⟨shown, hshown, rfl⟩ := Option.map_eq_some_iff.1 h
      rw [String.toList_ofList]
      exact hshown
  have hstripped : ∀ c ∈ strip text.toList, isAscii c = true := fun c hc =>
    htext c ((strip_sublist _).mem hc)
  rw [normalize_of_chars (char_of_address? haddress hread).1,
    toLower_of_address? haddress hstripped hread, Address.normalize, lower_of_ascii hstripped]

end Texts

/-- What is read off the address is stored under the address itself. -/
def ReadsBack (address : String) : Prop := (read? address).map Address.normalize = some address

instance (address : String) : Decidable (ReadsBack address) :=
  inferInstanceAs (Decidable (_ = _))

theorem readsBack_iff {address : String} :
    ReadsBack address ↔ ∃ read, read? address = some read ∧ Address.normalize read = address :=
  Option.map_eq_some_iff

theorem readsBack_normalize {s t : String} (h : read? s = some t)
    (hascii : ∀ c ∈ t.toList, isAscii c = true) : ReadsBack (Address.normalize t) := by
  obtain ⟨hread, hstored⟩ := read?_normalize h hascii
  exact readsBack_iff.2 ⟨_, hread, hstored⟩

/-- Small j with a caron is one character, capital J with a caron is two. -/
example : read? "J\u030c@x.com" = some "J\u030c@x.com" ∧ ¬ ReadsBack "j\u030c@x.com" := by
  decide +kernel

end EmailOwnership.Mailbox
