import Mathlib.Data.List.Sort
import Tabula.Relation.Order

/-!
# Sorting rows is a stable sort

Main statement, `sortRows_stable_sort`.
-/

namespace Tabula

/-! ### The order of cells -/

namespace Value

theorem cmpInt_eq_compare (a b : Int) : cmpInt a b = compare a b := by
  simp only [cmpInt, compare, compareOfLessAndEq]

theorem sortCmp_swap (a b : Value) : (sortCmp a b).swap = sortCmp b a := by
  cases a <;> cases b <;> simp only [sortCmp, cmpInt_eq_compare, Ordering.swap]
  all_goals exact Std.OrientedCmp.eq_swap.symm

instance orientedCmp_sortCmp : Std.OrientedCmp sortCmp where
  eq_swap {a b} := (sortCmp_swap b a).symm

/-- Cells are ordered kind by kind (nothing, numbers, texts), so transitivity is that of
integers or strings within a kind and that of the kinds across them. -/
instance transCmp_sortCmp : Std.TransCmp sortCmp where
  isLE_trans {a b c} hab hbc := by
    cases a <;> cases b <;> cases c <;> simp only [sortCmp, cmpInt_eq_compare] at hab hbc ⊢
    all_goals first
      | rfl
      | exact absurd hab (by decide)
      | exact absurd hbc (by decide)
      | exact Std.TransCmp.isLE_trans hab hbc

end Value

/-! ### The order of rows -/

/-- The comparison of rows by one key: the key's field resolved on both rows, null when
missing, compared as cells and reversed when descending. -/
def compareByKey (k : SortKey) (table : Option String) (a b : Row) : Ordering :=
  let o := (a.resolveOrNull k.field table).sortCmp (b.resolveOrNull k.field table)
  if k.asc then o else o.swap

instance transCmp_compareByKey (k : SortKey) (table : Option String) :
    Std.TransCmp (compareByKey k table) where
  eq_swap {a b} := by
    cases k with
    | mk field asc => cases asc <;> simp [compareByKey, Value.sortCmp_swap]
  isLE_trans {a b c} hab hbc := by
    cases k with
    | mk field asc =>
      cases asc
      · simp only [compareByKey, Bool.false_eq_true, if_false, Value.sortCmp_swap] at hab hbc ⊢
        exact Std.TransCmp.isLE_trans hbc hab
      · simp only [compareByKey, if_true] at hab hbc ⊢
        exact Std.TransCmp.isLE_trans hab hbc

/-- `compareRows` is the lexicographic combination of its keys' comparisons. -/
theorem compareRows_cons (k : SortKey) (ks : List SortKey) (table : Option String) :
    compareRows (k :: ks) table = compareLex (compareByKey k table) (compareRows ks table) := by
  funext a b
  simp only [compareRows, compareLex, compareByKey]
  cases (if k.asc then _ else _ : Ordering) <;> rfl

instance transCmp_compareRows (keys : List SortKey) (table : Option String) :
    Std.TransCmp (compareRows keys table) := by
  induction keys with
  | nil => exact { eq_swap := rfl, isLE_trans := fun _ _ => rfl }
  | cons k ks ih =>
    rw [compareRows_cons]
    infer_instance

/-! ### Stable sorting by a lawful comparison -/

section Stable

variable {α : Type} {cmp : α → α → Ordering} [Std.TransCmp cmp]

theorem isLE_total (a b : α) : ((cmp a b).isLE || (cmp b a).isLE) = true := by
  have hswap : cmp b a = (cmp a b).swap := Std.OrientedCmp.eq_swap
  rw [hswap, Ordering.isLE_swap]
  cases cmp a b <;> rfl

/-- Two members of one class are in order both ways. -/
theorem isLE_of_mem_class {x a b : α} (ha : cmp x a = .eq) (hb : cmp x b = .eq) :
    (cmp a b).isLE := by
  have hax : (cmp a x).isLE := by
    have hswap : cmp a x = (cmp x a).swap := Std.OrientedCmp.eq_swap
    rw [hswap, ha]
    rfl
  exact Std.TransCmp.isLE_trans hax (by rw [hb]; rfl)

/-- The class of `x` in a list, in order, is sorted. -/
theorem pairwise_filter_class (l : List α) (x : α) :
    (l.filter (cmp x · == .eq)).Pairwise fun a b => (cmp a b).isLE := by
  rw [List.pairwise_filter]
  exact List.pairwise_of_forall fun _ _ ha hb =>
    isLE_of_mem_class (beq_iff_eq.mp ha) (beq_iff_eq.mp hb)

/-- The class of the first element of a list starts with it. -/
theorem filter_class_cons_self (a : α) (l : List α) :
    (a :: l).filter (cmp a · == .eq) = a :: l.filter (cmp a · == .eq) :=
  List.filter_cons_of_pos (by simp [Std.ReflCmp.compare_self])

/-- The head of a sorted list is at most each of its members. -/
theorem isLE_head_of_mem {a b : α} {l : List α}
    (hl : (b :: l).Pairwise fun a b => (cmp a b).isLE) (ha : a ∈ b :: l) : (cmp b a).isLE := by
  rcases List.mem_cons.mp ha with rfl | ha
  · have hself : cmp a a = .eq := Std.ReflCmp.compare_self
    rw [hself]
    rfl
  · exact List.rel_of_pairwise_cons hl ha

/-- A reordering of `l` that keeps every sorted sublist of `l` keeps each class of `l` in
order. -/
theorem filter_class_eq {l l' : List α} (hperm : l'.Perm l)
    (hsub : ∀ c : List α, c.Pairwise (fun a b => (cmp a b).isLE) →
      c.Sublist l → c.Sublist l') (x : α) :
    l'.filter (cmp x · == .eq) = l.filter (cmp x · == .eq) := by
  have h : (l.filter (cmp x · == .eq)).Sublist (l'.filter (cmp x · == .eq)) := by
    have := (hsub _ (pairwise_filter_class l x) List.filter_sublist).filter (cmp x · == .eq)
    simpa only [List.filter_filter, Bool.and_self] using this
  exact (h.eq_of_length (hperm.filter _).length_eq.symm).symm

/-- A sorted list is determined by its classes, each taken in order: all stable sorts of a
list agree. -/
theorem eq_of_pairwise_of_filter_eq : ∀ {l₁ l₂ : List α},
    l₁.Pairwise (fun a b => (cmp a b).isLE) → l₂.Pairwise (fun a b => (cmp a b).isLE) →
    (∀ x, l₁.filter (cmp x · == .eq) = l₂.filter (cmp x · == .eq)) → l₁ = l₂
  | [], [], _, _, _ => rfl
  | [], b :: t, _, _, h => by
    have hb := h b
    rw [filter_class_cons_self, List.filter_nil] at hb
    exact absurd hb.symm (List.cons_ne_nil _ _)
  | a :: t, [], _, _, h => by
    have ha := h a
    rw [filter_class_cons_self, List.filter_nil] at ha
    exact absurd ha (List.cons_ne_nil _ _)
  | a :: t₁, b :: t₂, h₁, h₂, h => by
    have ha : a ∈ b :: t₂ :=
      List.mem_of_mem_filter (by rw [← h a, filter_class_cons_self]; exact List.mem_cons_self)
    have hb : b ∈ a :: t₁ :=
      List.mem_of_mem_filter (by rw [h b, filter_class_cons_self]; exact List.mem_cons_self)
    have heq : cmp a b = .eq :=
      Std.OrientedCmp.isLE_antisymm (isLE_head_of_mem h₁ hb) (isLE_head_of_mem h₂ ha)
    have hhead := h a
    rw [filter_class_cons_self, List.filter_cons_of_pos (by simpa using heq)] at hhead
    obtain ⟨rfl, -⟩ := List.cons.inj hhead
    congr 1
    refine eq_of_pairwise_of_filter_eq h₁.of_cons h₂.of_cons fun x => ?_
    have hx := h x
    by_cases hc : (cmp x a == .eq) = true
    · rw [List.filter_cons_of_pos (p := (cmp x · == .eq)) hc,
        List.filter_cons_of_pos (p := (cmp x · == .eq)) hc] at hx
      exact (List.cons.inj hx).2
    · rw [List.filter_cons_of_neg (p := (cmp x · == .eq)) hc,
        List.filter_cons_of_neg (p := (cmp x · == .eq)) hc] at hx
      exact hx

theorem pairwise_mergeSort_isLE (l : List α) :
    (l.mergeSort fun a b => (cmp a b).isLE).Pairwise fun a b => (cmp a b).isLE :=
  List.pairwise_mergeSort (fun _ _ _ => Std.TransCmp.isLE_trans) isLE_total l

theorem filter_class_mergeSort (l : List α) (x : α) :
    (l.mergeSort fun a b => (cmp a b).isLE).filter (cmp x · == .eq) =
      l.filter (cmp x · == .eq) :=
  filter_class_eq (List.mergeSort_perm _ _)
    (fun _ hc hs =>
      List.sublist_mergeSort (fun _ _ _ => Std.TransCmp.isLE_trans) isLE_total hc hs) x

theorem pairwise_insertionSort_isLE (l : List α) :
    (l.insertionSort fun a b => (cmp a b).isLE).Pairwise fun a b => (cmp a b).isLE := by
  have : Std.Total fun a b : α => (cmp a b).isLE = true :=
    ⟨fun a b => by simpa using isLE_total a b⟩
  have : IsTrans α fun a b : α => (cmp a b).isLE = true :=
    ⟨fun _ _ _ => Std.TransCmp.isLE_trans⟩
  exact List.pairwise_insertionSort _ l

theorem filter_class_insertionSort (l : List α) (x : α) :
    (l.insertionSort fun a b => (cmp a b).isLE).filter (cmp x · == .eq) =
      l.filter (cmp x · == .eq) :=
  filter_class_eq (List.perm_insertionSort _ _) (fun _ hc hs => List.sublist_insertionSort hc hs) x

/-- Merge sort and insertion sort by a lawful comparison agree, even where it calls distinct
elements equal. -/
theorem mergeSort_eq_insertionSort_of_transCmp (l : List α) :
    l.mergeSort (fun a b => (cmp a b).isLE) = l.insertionSort fun a b => (cmp a b).isLE :=
  eq_of_pairwise_of_filter_eq (pairwise_mergeSort_isLE l) (pairwise_insertionSort_isLE l)
    fun x => (filter_class_mergeSort l x).trans (filter_class_insertionSort l x).symm

end Stable

/-! ### Sorting rows -/

theorem sortRows_eq_mergeSort (keys : List SortKey) (table : Option String) (rows : List Row) :
    sortRows keys table rows = rows.mergeSort fun a b => (compareRows keys table a b).isLE := by
  unfold sortRows
  split
  · rename_i hkeys
    rw [List.isEmpty_iff.mp hkeys]
    exact (List.mergeSort_of_pairwise (List.pairwise_of_forall fun _ _ => rfl)).symm
  · congr
    funext a b
    cases compareRows keys table a b <;> rfl

/-- `sortRows` is the stable sort by `compareRows`, a total preorder for every list of keys,
and so also the insertion sort. -/
theorem sortRows_stable_sort (keys : List SortKey) (table : Option String) (rows : List Row) :
    Std.TransCmp (compareRows keys table) ∧
    (sortRows keys table rows).Perm rows ∧
    (sortRows keys table rows).Pairwise (fun a b => (compareRows keys table a b).isLE) ∧
    (∀ x, (sortRows keys table rows).filter (compareRows keys table x · == .eq) =
      rows.filter (compareRows keys table x · == .eq)) ∧
    sortRows keys table rows =
      rows.insertionSort fun a b => (compareRows keys table a b).isLE := by
  rw [sortRows_eq_mergeSort]
  exact ⟨inferInstance, List.mergeSort_perm _ _, pairwise_mergeSort_isLE rows,
    filter_class_mergeSort rows, mergeSort_eq_insertionSort_of_transCmp rows⟩

end Tabula
