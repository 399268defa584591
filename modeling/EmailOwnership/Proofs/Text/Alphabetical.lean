/-! Lists in the order of names.

Names are compared by their code points. Where all names are distinct, a list has one order in
which they increase, whatever the order in which it was given (`eq_of_perm`), and sorting by name
finds it (`increasing_mergeSort`). -/
namespace EmailOwnership.Text
variable {α : Type} {name : α → String} {items others : List α}

/-- The names increase, so that none comes twice. -/
def Increasing (name : α → String) (items : List α) : Prop :=
  items.Pairwise fun a b => name a < name b

theorem Increasing.eq_of_perm (h : Increasing name items) (h' : Increasing name others)
    (hperm : items.Perm others) : items = others :=
  List.Perm.eq_of_pairwise (fun _ _ _ _ hab hba => absurd hba (String.lt_asymm hab)) h h' hperm

theorem increasing_mergeSort (h : (items.map name).Nodup) :
    Increasing name (items.mergeSort fun a b => decide (name a ≤ name b)) := by
  have hle : (items.mergeSort fun a b => decide (name a ≤ name b)).Pairwise
      fun a b => name a ≤ name b := by
    refine (List.pairwise_mergeSort (fun a b c hab hbc => ?_) (fun a b => ?_) items).imp
      of_decide_eq_true
    · exact decide_eq_true (String.le_trans (of_decide_eq_true hab) (of_decide_eq_true hbc))
    · simpa using String.le_total (name a) (name b)
  have hne : (items.mergeSort fun a b => decide (name a ≤ name b)).Pairwise
      fun a b => name a ≠ name b :=
    List.pairwise_map.1 ((List.mergeSort_perm items _).map name |>.nodup_iff.2 h)
  refine (hle.and hne).imp fun {a b} hab => ?_
  exact String.not_le.1 fun hba => hab.2 (String.le_antisymm hab.1 hba)

end EmailOwnership.Text
