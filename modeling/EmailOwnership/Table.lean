/-! Tables that keep the order in which their keys came.

A `Table` holds at most one row per key. Storing under a known key replaces the
row where it stands; storing under a new key appends; erasing and storing again
moves the row to the end. `get?_put`, `get?_erase` and `keys_put` say so. -/
namespace EmailOwnership

/-- Rows under pairwise distinct keys, oldest key first. -/
structure Table (κ α : Type) where
  rows : List (κ × α)
  keys_nodup : (rows.map Prod.fst).Nodup
  deriving DecidableEq

namespace Table
variable {κ α : Type}

def empty : Table κ α := ⟨[], List.nodup_nil⟩

instance : Inhabited (Table κ α) := ⟨empty⟩

def keys (t : Table κ α) : List κ := t.rows.map Prod.fst

def values (t : Table κ α) : List α := t.rows.map Prod.snd

@[ext] theorem ext {s t : Table κ α} (h : s.rows = t.rows) : s = t := by
  cases s; cases t; cases h; rfl

/-! ### Rows as an association list -/

section Rows
variable [DecidableEq κ]

def find (k : κ) : List (κ × α) → Option α
  | [] => none
  | (k', a) :: rest => if k' = k then some a else find k rest

/-- Replaces the row of `k` in place, or appends one. -/
def assign (k : κ) (a : α) : List (κ × α) → List (κ × α)
  | [] => [(k, a)]
  | (k', b) :: rest => if k' = k then (k, a) :: rest else (k', b) :: assign k a rest

def discard (k : κ) (rows : List (κ × α)) : List (κ × α) :=
  rows.filter (fun r => decide (r.1 ≠ k))

theorem find_eq_none_iff {k : κ} {rows : List (κ × α)} :
    find k rows = none ↔ k ∉ rows.map Prod.fst := by
  induction rows with
  | nil => simp [find]
  | cons r rest ih =>
    obtain ⟨k', b⟩ := r
    by_cases h : k' = k
    · subst h
      simp [find]
    · have h' : k ≠ k' := fun e => h e.symm
      rw [find, if_neg h, ih]
      simp [h']

theorem find_eq_some_iff {k : κ} {a : α} {rows : List (κ × α)} (h : (rows.map Prod.fst).Nodup) :
    find k rows = some a ↔ (k, a) ∈ rows := by
  induction rows with
  | nil => simp [find]
  | cons r rest ih =>
    obtain ⟨q, b⟩ := r
    obtain ⟨hq, hrest⟩ := List.nodup_cons.1 h
    by_cases hk : q = k
    · subst hk
      have hmem : (q, a) ∉ rest := fun hm => hq (List.mem_map.2 ⟨_, hm, rfl⟩)
      simp [find, hmem, eq_comm]
    · have hk' : ¬ k = q := fun e => hk e.symm
      simp [find, hk, hk', ih hrest]

theorem find_assign (k k' : κ) (a : α) (rows : List (κ × α)) :
    find k (assign k' a rows) = if k' = k then some a else find k rows := by
  induction rows with
  | nil => simp [find, assign]
  | cons r rest ih =>
    obtain ⟨q, b⟩ := r
    by_cases hq : q = k'
    · subst hq
      simp only [assign, if_pos, find]
      split <;> rfl
    · simp only [assign, if_neg hq, find, ih]
      by_cases hk : q = k
      · have hne : ¬ k' = k := fun e => hq (hk.trans e.symm)
        rw [if_pos hk, if_neg hne, if_pos hk]
      · rw [if_neg hk, if_neg hk]

/-- Assigning what is there changes nothing. -/
theorem assign_of_find {k : κ} {a : α} {rows : List (κ × α)} (h : find k rows = some a) :
    assign k a rows = rows := by
  induction rows with
  | nil => cases h
  | cons r rest ih =>
    obtain ⟨q, b⟩ := r
    rw [find] at h
    by_cases hq : q = k
    · rw [if_pos hq] at h
      cases h
      rw [assign, if_pos hq, hq]
    · rw [if_neg hq] at h
      rw [assign, if_neg hq, ih h]

theorem assign_of_not_mem {k : κ} {rows : List (κ × α)} (h : k ∉ rows.map Prod.fst) (a : α) :
    assign k a rows = rows ++ [(k, a)] := by
  induction rows with
  | nil => rfl
  | cons r rest ih =>
    rw [List.map_cons, List.mem_cons, not_or] at h
    rw [assign, if_neg fun e => h.1 e.symm, ih h.2, List.cons_append]

/-- A row that is there is replaced in its place. -/
theorem assign_in_place {k : κ} {b : α} {rows : List (κ × α)} (h : find k rows = some b) (a : α) :
    ∃ before after, rows = before ++ (k, b) :: after ∧
      assign k a rows = before ++ (k, a) :: after := by
  induction rows with
  | nil => cases h
  | cons r rest ih =>
    obtain ⟨q, c⟩ := r
    rw [find] at h
    by_cases hq : q = k
    · rw [if_pos hq] at h
      cases h
      exact ⟨[], rest, by rw [hq]; rfl, by rw [assign, if_pos hq]; rfl⟩
    · rw [if_neg hq] at h
      obtain ⟨before, after, hrows, hassign⟩ := ih h
      exact ⟨(q, c) :: before, after, by rw [hrows]; rfl, by rw [assign, if_neg hq, hassign]; rfl⟩

/-- The rows of other keys stay in their places, and none is added to them. -/
theorem getElem?_assign {k x : κ} (hx : x ≠ k) (a b : α) (rows : List (κ × α)) (i : Nat) :
    (assign k a rows)[i]? = some (x, b) ↔ rows[i]? = some (x, b) := by
  induction rows generalizing i with
  | nil => cases i <;> simp [assign, Ne.symm hx]
  | cons r rest ih =>
    obtain ⟨q, c⟩ := r
    by_cases hq : q = k
    · subst hq
      cases i <;> simp [assign, Ne.symm hx]
    · cases i with
      | zero => simp [assign, hq]
      | succ i => simpa [assign, hq] using ih i

theorem map_assign {β : Type} {k : κ} {a a' : α} {F : α → β} {g : β → β} {rows : List (κ × α)}
    (hnodup : (rows.map Prod.fst).Nodup) (h : find k rows = some a) (hk : g (F a) = F a')
    (hother : ∀ q b, (q, b) ∈ rows → q ≠ k → g (F b) = F b) :
    (assign k a' rows).map (F ∘ Prod.snd) = rows.map (g ∘ F ∘ Prod.snd) := by
  induction rows with
  | nil => cases h
  | cons r rest ih =>
    obtain ⟨q, b⟩ := r
    obtain ⟨hq, hrest⟩ := List.nodup_cons.1 hnodup
    rw [find] at h
    split at h
    · rename_i heq
      cases h
      -- the other keys are not this one, as keys are distinct
      have hkeep : rest.map (F ∘ Prod.snd) = rest.map (g ∘ F ∘ Prod.snd) := by
        refine List.map_congr_left fun x hx => (hother x.1 x.2 (List.mem_cons_of_mem _ hx) ?_).symm
        rintro rfl
        exact hq (List.mem_map.2 ⟨x, hx, heq.symm⟩)
      rw [assign, if_pos heq, List.map_cons, List.map_cons, hkeep]
      simp [hk]
    · rename_i hne
      rw [assign, if_neg hne, List.map_cons, List.map_cons,
        ih hrest h fun x y hx => hother x y (List.mem_cons_of_mem _ hx)]
      simp [hother q b (List.mem_cons_self ..) hne]

/-- A test that only the row of one key can pass. -/
theorem filter_map_snd {k : κ} {p : α → Bool} {rows : List (κ × α)}
    (hnodup : (rows.map Prod.fst).Nodup) (hp : ∀ q b, (q, b) ∈ rows → p b = true → q = k) :
    (rows.map Prod.snd).filter p = (find k rows).toList.filter p := by
  induction rows with
  | nil => rfl
  | cons r rest ih =>
    obtain ⟨q, b⟩ := r
    obtain ⟨hq, hrest⟩ := List.nodup_cons.1 hnodup
    have ih := ih hrest fun x y hx => hp x y (List.mem_cons_of_mem _ hx)
    rw [List.map_cons, List.filter_cons, ih, find]
    by_cases hk : q = k
    · subst hk
      rw [find_eq_none_iff.2 hq, if_pos rfl]
      simp [List.filter_cons]
    · have hpb : p b = false :=
        Bool.eq_false_iff.2 fun hb => hk (hp q b (List.mem_cons_self ..) hb)
      simp [hpb, hk]

theorem map_fst_assign (k : κ) (a : α) (rows : List (κ × α)) :
    (assign k a rows).map Prod.fst =
      if k ∈ rows.map Prod.fst then rows.map Prod.fst else rows.map Prod.fst ++ [k] := by
  induction rows with
  | nil => simp [assign]
  | cons r rest ih =>
    obtain ⟨q, b⟩ := r
    by_cases hq : q = k
    · subst hq
      simp [assign]
    · have hk : k ≠ q := fun e => hq e.symm
      simp only [assign, if_neg hq, List.map_cons, ih, List.mem_cons, hk, false_or]
      split <;> simp_all

theorem nodup_assign (k : κ) (a : α) {rows : List (κ × α)} (h : (rows.map Prod.fst).Nodup) :
    ((assign k a rows).map Prod.fst).Nodup := by
  rw [map_fst_assign]
  split
  · exact h
  · rename_i hk
    rw [List.nodup_append]
    refine ⟨h, List.nodup_cons.2 ⟨List.not_mem_nil, List.nodup_nil⟩, ?_⟩
    intro x hx y hy e
    rw [List.mem_singleton] at hy
    exact hk (hy ▸ e ▸ hx)

theorem map_fst_discard (k : κ) (rows : List (κ × α)) :
    (discard k rows).map Prod.fst = (rows.map Prod.fst).filter (fun q => decide (q ≠ k)) := by
  rw [discard, List.filter_map]
  rfl

theorem nodup_discard (k : κ) {rows : List (κ × α)} (h : (rows.map Prod.fst).Nodup) :
    ((discard k rows).map Prod.fst).Nodup := by
  rw [map_fst_discard]
  exact h.filter _

theorem find_discard (k k' : κ) (rows : List (κ × α)) :
    find k (discard k' rows) = if k' = k then none else find k rows := by
  induction rows with
  | nil => simp [find, discard]
  | cons r rest ih =>
    obtain ⟨q, b⟩ := r
    by_cases hq : q = k'
    · have hd : discard k' ((q, b) :: rest) = discard k' rest := by simp [discard, hq]
      rw [hd, ih]
      by_cases hk : k' = k
      · rw [if_pos hk, if_pos hk]
      · have hqk : ¬ q = k := fun e => hk (hq.symm.trans e)
        rw [if_neg hk, if_neg hk, find, if_neg hqk]
    · have hd : discard k' ((q, b) :: rest) = (q, b) :: discard k' rest := by
        simp [discard, hq]
      rw [hd, find, ih, find]
      by_cases hk : q = k
      · have hkk : ¬ k' = k := fun e => hq (hk.trans e.symm)
        rw [if_pos hk, if_neg hkk, if_pos hk]
      · rw [if_neg hk, if_neg hk]

end Rows

/-! ### Operations -/

section Operations
variable [DecidableEq κ]

def get? (t : Table κ α) (k : κ) : Option α := find k t.rows

def contains (t : Table κ α) (k : κ) : Bool := (t.get? k).isSome

def put (t : Table κ α) (k : κ) (a : α) : Table κ α :=
  ⟨assign k a t.rows, nodup_assign k a t.keys_nodup⟩

def erase (t : Table κ α) (k : κ) : Table κ α :=
  ⟨discard k t.rows, nodup_discard k t.keys_nodup⟩

/-- Stores `a` only where the key is still free. -/
def putIfAbsent (t : Table κ α) (k : κ) (a : α) : Table κ α :=
  if t.contains k then t else t.put k a

/-- Stores in order; a later row of the same key wins and keeps the earlier place. -/
def ofList (rows : List (κ × α)) : Table κ α :=
  rows.foldl (fun t r => t.put r.1 r.2) empty

theorem get?_eq_none_iff {t : Table κ α} {k : κ} : t.get? k = none ↔ k ∉ t.keys :=
  find_eq_none_iff

theorem get?_eq_some_iff {t : Table κ α} {k : κ} {a : α} : t.get? k = some a ↔ (k, a) ∈ t.rows :=
  find_eq_some_iff t.keys_nodup

@[simp] theorem get?_empty (k : κ) : (empty : Table κ α).get? k = none := rfl

theorem get?_put (t : Table κ α) (k k' : κ) (a : α) :
    (t.put k' a).get? k = if k' = k then some a else t.get? k :=
  find_assign k k' a t.rows

@[simp] theorem get?_put_self (t : Table κ α) (k : κ) (a : α) : (t.put k a).get? k = some a := by
  rw [get?_put, if_pos rfl]

theorem get?_put_of_ne (t : Table κ α) {k k' : κ} (a : α) (h : k ≠ k') :
    (t.put k' a).get? k = t.get? k := by
  rw [get?_put, if_neg fun e => h e.symm]

theorem put_of_get? {t : Table κ α} {k : κ} {a : α} (h : t.get? k = some a) : t.put k a = t :=
  ext (assign_of_find h)

theorem get?_erase (t : Table κ α) (k k' : κ) :
    (t.erase k').get? k = if k' = k then none else t.get? k :=
  find_discard k k' t.rows

@[simp] theorem get?_erase_self (t : Table κ α) (k : κ) : (t.erase k).get? k = none := by
  rw [get?_erase, if_pos rfl]

theorem get?_erase_of_ne (t : Table κ α) {k k' : κ} (h : k ≠ k') :
    (t.erase k').get? k = t.get? k := by
  rw [get?_erase, if_neg fun e => h e.symm]

theorem keys_put (t : Table κ α) (k : κ) (a : α) :
    (t.put k a).keys = if k ∈ t.keys then t.keys else t.keys ++ [k] :=
  map_fst_assign k a t.rows

theorem rows_put_of_none {t : Table κ α} {k : κ} (h : t.get? k = none) (a : α) :
    (t.put k a).rows = t.rows ++ [(k, a)] :=
  assign_of_not_mem (get?_eq_none_iff.1 h) a

theorem rows_foldl_put (rows : List (κ × α)) {t : Table κ α}
    (h : ((t.rows ++ rows).map Prod.fst).Nodup) :
    (rows.foldl (fun t r => t.put r.1 r.2) t).rows = t.rows ++ rows := by
  induction rows generalizing t with
  | nil => exact (List.append_nil t.rows).symm
  | cons r rest ih =>
    have hnew : t.get? r.1 = none := by
      rw [List.map_append, List.map_cons] at h
      exact get?_eq_none_iff.2 fun hmem =>
        (List.nodup_append.1 h).2.2 _ hmem _ (List.mem_cons_self ..) rfl
    have hrows : (t.put r.1 r.2).rows ++ rest = t.rows ++ r :: rest := by
      rw [rows_put_of_none hnew, List.append_assoc, List.singleton_append]
    rw [List.foldl_cons, ih (hrows ▸ h), hrows]

/-- Rows under distinct keys are stored as they come. -/
theorem rows_ofList {rows : List (κ × α)} (h : (rows.map Prod.fst).Nodup) :
    (ofList rows).rows = rows := rows_foldl_put rows h

theorem rows_put_of_some {t : Table κ α} {k : κ} {b : α} (h : t.get? k = some b) (a : α) :
    ∃ before after, t.rows = before ++ (k, b) :: after ∧
      (t.put k a).rows = before ++ (k, a) :: after :=
  assign_in_place h a

theorem rows_put_getElem? (t : Table κ α) {k x : κ} (hx : x ≠ k) (a b : α) (i : Nat) :
    (t.put k a).rows[i]? = some (x, b) ↔ t.rows[i]? = some (x, b) :=
  getElem?_assign hx a b t.rows i

/-! ### Values -/

section Values
variable {β : Type} {t : Table κ α} {k : κ}

theorem mem_values_iff {a : α} : a ∈ t.values ↔ ∃ q, t.get? q = some a := by
  simp [values, get?_eq_some_iff]

theorem values_put_of_none (h : t.get? k = none) (a : α) : (t.put k a).values = t.values ++ [a] := by
  simp [values, put, assign_of_not_mem (get?_eq_none_iff.1 h)]

/-- A test that only the value of one key can pass finds this one. -/
theorem filter_map_values {F : α → β} {p : β → Bool}
    (hp : ∀ q b, t.get? q = some b → p (F b) = true → q = k) :
    (t.values.map F).filter p = ((t.get? k).toList.map F).filter p := by
  rw [List.filter_map, List.filter_map]
  refine congrArg (List.map F) (filter_map_snd t.keys_nodup fun q b hb hpb => ?_)
  exact hp q b (get?_eq_some_iff.2 hb) hpb

/-- An edit of all values that changes the one of a key alone is a `put`. -/
theorem map_values_put {a a' : α} (h : t.get? k = some a) {F : α → β} {g : β → β}
    (hk : g (F a) = F a') (hother : ∀ q b, t.get? q = some b → q ≠ k → g (F b) = F b) :
    (t.put k a').values.map F = (t.values.map F).map g := by
  simp only [values, put, List.map_map]
  exact map_assign t.keys_nodup h hk fun q b hb hq => hother q b (get?_eq_some_iff.2 hb) hq

/-- A selection of all values but that of a key is an erasure. -/
theorem map_values_erase {F : α → β} {p : β → Bool}
    (hp : ∀ q b, t.get? q = some b → p (F b) = decide (q ≠ k)) :
    (t.erase k).values.map F = (t.values.map F).filter p := by
  simp only [values, erase, discard, List.map_map, List.filter_map]
  refine congrArg _ (List.filter_congr fun r hr => ?_)
  exact (hp r.1 r.2 (get?_eq_some_iff.2 hr)).symm

end Values
end Operations

/-! ### Other values -/

section MapValues
variable {β : Type} (f : α → β)

/-- Other values under the same keys. -/
def mapValues (t : Table κ α) : Table κ β :=
  ⟨t.rows.map fun r => (r.1, f r.2), by
    rw [List.map_map]
    exact t.keys_nodup⟩

theorem values_mapValues (t : Table κ α) : (t.mapValues f).values = t.values.map f := by
  simp only [values, mapValues, List.map_map, Function.comp_def]

variable [DecidableEq κ]

theorem find_map (k : κ) (rows : List (κ × α)) :
    find k (rows.map fun r => (r.1, f r.2)) = (find k rows).map f := by
  induction rows with
  | nil => rfl
  | cons r rest ih =>
    rw [List.map_cons, find, find, ih]
    split <;> rfl

theorem assign_map (k : κ) (a : α) (rows : List (κ × α)) :
    (assign k a rows).map (fun r => (r.1, f r.2)) =
      assign k (f a) (rows.map fun r => (r.1, f r.2)) := by
  induction rows with
  | nil => rfl
  | cons r rest ih =>
    rw [List.map_cons, assign, assign]
    split
    · rfl
    · rw [List.map_cons, ih]

theorem get?_mapValues (t : Table κ α) (k : κ) : (t.mapValues f).get? k = (t.get? k).map f :=
  find_map f k t.rows

theorem mapValues_put (t : Table κ α) (k : κ) (a : α) :
    (t.put k a).mapValues f = (t.mapValues f).put k (f a) := ext (assign_map f k a t.rows)

theorem mapValues_erase (t : Table κ α) (k : κ) :
    (t.erase k).mapValues f = (t.mapValues f).erase k := by
  apply ext
  simp only [erase, mapValues, discard, List.filter_map, Function.comp_def]

end MapValues
end Table
end EmailOwnership
