import Tabula.Proofs.Answer
import Tabula.Proofs.Grouping
import Tabula.Proofs.Write

/-!
# DISTINCT keeps the first row of each list of values

Main statement, `select_distinct_keeps_first_of_each_value_list`.
-/

namespace Tabula

/-! ## The first row of each list of values -/

namespace Feed

/-- The values met after a row are those met before and the row's own. -/
theorem contains_append_singleton (seen : List (List Value)) (k x : List Value) :
    (seen ++ [k]).contains x = (seen.contains x || x == k) := by
  simp only [List.contains_append, List.contains_cons, List.contains_nil, Bool.or_false]

theorem sublist_firstOf (seen : List (List Value)) (rows : List Row) :
    (firstOf seen rows).Sublist rows := by
  induction rows generalizing seen with
  | nil => exact List.Sublist.slnil
  | cons r rs ih =>
      unfold firstOf
      split
      · exact (ih seen).cons r
      · exact (ih _).cons_cons r

/-- A kept row's values were not met before. -/
theorem not_contains_of_mem_firstOf {seen : List (List Value)} {rows : List Row} {s : Row}
    (h : s ∈ firstOf seen rows) : seen.contains s.values = false := by
  induction rows generalizing seen with
  | nil => simp [firstOf] at h
  | cons r rs ih =>
      unfold firstOf at h
      split at h
      · exact ih h
      · rename_i hr
        rcases List.mem_cons.mp h with rfl | hs
        · simpa using hr
        · have hseen := ih hs
          rw [contains_append_singleton, Bool.or_eq_false_iff] at hseen
          exact hseen.1

/-- A row kept after `r` has values other than `r`'s. -/
theorem beq_eq_false_of_mem_firstOf {seen : List (List Value)} {rows : List Row} {r s : Row}
    (h : s ∈ firstOf (seen ++ [r.values]) rows) : (r.values == s.values) = false := by
  have hseen := not_contains_of_mem_firstOf h
  rw [contains_append_singleton, Bool.or_eq_false_iff] at hseen
  rw [BEq.comm]
  exact hseen.2

theorem pairwise_firstOf (seen : List (List Value)) (rows : List Row) :
    (firstOf seen rows).Pairwise fun r s => (r.values == s.values) = false := by
  induction rows generalizing seen with
  | nil => exact List.Pairwise.nil
  | cons r rs ih =>
      unfold firstOf
      split
      · exact ih seen
      · exact List.Pairwise.cons (fun _ hs => beq_eq_false_of_mem_firstOf hs) (ih _)

/-- Every row's values were met before, or are those of a kept row. -/
theorem exists_mem_firstOf (seen : List (List Value)) {rows : List Row} {r : Row}
    (hr : r ∈ rows) :
    seen.contains r.values = true ∨ ∃ s ∈ firstOf seen rows, (r.values == s.values) = true := by
  induction rows generalizing seen with
  | nil => simp at hr
  | cons r' rs ih =>
      unfold firstOf
      rcases List.mem_cons.mp hr with rfl | hr
      · split
        · exact .inl ‹_›
        · exact .inr ⟨r, List.mem_cons_self, BEq.rfl⟩
      · split
        · exact ih seen hr
        · rcases ih (seen ++ [r'.values]) hr with h | ⟨s, hs, hrs⟩
          · rw [contains_append_singleton, Bool.or_eq_true] at h
            rcases h with h | h
            · exact .inl h
            · exact .inr ⟨r', List.mem_cons_self, h⟩
          · exact .inr ⟨s, List.mem_cons_of_mem _ hs, hrs⟩

/-- Each kept row is the first row with its values. -/
theorem find?_of_mem_firstOf {seen : List (List Value)} {rows : List Row} {s : Row}
    (h : s ∈ firstOf seen rows) : rows.find? (fun r => r.values == s.values) = some s := by
  induction rows generalizing seen with
  | nil => simp [firstOf] at h
  | cons r rs ih =>
      unfold firstOf at h
      split at h
      · rename_i hr
        have hne : (r.values == s.values) = false := by
          cases hrs : r.values == s.values
          · rfl
          · have hs := contains_of_beq (BEq.symm hrs) hr
            rw [not_contains_of_mem_firstOf h] at hs
            exact absurd hs Bool.false_ne_true
        rw [List.find?_cons_of_neg (by simp [hne]), ih h]
      · rcases List.mem_cons.mp h with rfl | hs
        · exact List.find?_cons_of_pos (by simp)
        · rw [List.find?_cons_of_neg (by simp [beq_eq_false_of_mem_firstOf hs]), ih hs]

end Feed

/-! ## Rows as maps from names to cells -/

namespace Row

/-- Equality of rows as maps from names to cells, whatever the order of their fields. -/
def sameCells (r s : Row) : Bool :=
  r.fields.length == s.fields.length && r.fields.all fun p => (s.get? p.1).any fun w => p.2 == w

/-- Over cells with the same names in the same order, looking each name up compares the
cells in place. -/
theorem all_find?_eq_beq :
    ∀ {rf sf : List (String × Value)}, rf.map (·.1) = sf.map (·.1) → (rf.map (·.1)).Nodup →
      (rf.all fun p => ((sf.find? (·.1 == p.1)).map (·.2)).any fun w => p.2 == w) =
        (rf.map (·.2) == sf.map (·.2))
  | [], [], _, _ => rfl
  | [], _ :: _, h, _ => by simp at h
  | _ :: _, [], h, _ => by simp at h
  | (k, v) :: rf, (k', w) :: sf, h, hnd => by
      simp only [List.map_cons, List.cons.injEq] at h
      obtain ⟨rfl, hrest⟩ := h
      obtain ⟨hk, hnd⟩ := List.nodup_cons.mp hnd
      have htail : (rf.all fun p => ((((k, w) :: sf).find? (·.1 == p.1)).map (·.2)).any
          fun w => p.2 == w) = rf.all fun p => ((sf.find? (·.1 == p.1)).map (·.2)).any
            fun w => p.2 == w := by
        refine Bool.eq_iff_iff.mpr ?_
        simp only [List.all_eq_true]
        refine forall_congr' fun p => imp_congr_right fun hp => ?_
        have hkp : ¬(k == p.1) = true := by
          rw [beq_iff_eq]
          intro hkp
          have hmem : p.1 ∈ rf.map (·.1) := List.mem_map_of_mem hp
          exact hk (hkp ▸ hmem)
        rw [List.find?_cons_of_neg (by simpa using hkp)]
      rw [List.all_cons, htail, all_find?_eq_beq hrest hnd, List.find?_cons_of_pos (by simp)]
      simp

/-- Rows with the same names are the same map exactly when their values are equal. -/
theorem sameCells_eq_beq_values {r s : Row} (h : r.names = s.names) :
    r.sameCells s = (r.values == s.values) := by
  have hlen : r.fields.length = s.fields.length := by
    simpa [names] using congrArg List.length h
  simp only [sameCells, hlen, beq_self_eq_true, Bool.true_and, get?, values]
  exact all_find?_eq_beq h r.nodup

end Row

/-- Folds whose steps make rows of equal names from rows of equal names end in rows of
equal names. -/
theorem names_foldl_congr {items : List SelectItem} {f g : Row → SelectItem → Row}
    (h : ∀ item ∈ items, ∀ out out' : Row, out.names = out'.names →
      (f out item).names = (g out' item).names) :
    ∀ out out' : Row, out.names = out'.names →
      (items.foldl f out).names = (items.foldl g out').names := by
  induction items with
  | nil => exact fun _ _ hout => hout
  | cons item items ih =>
      intro out out' hout
      exact ih (fun i hi => h i (.tail item hi)) _ _ (h item (.head items) out out' hout)

/-- The names a select list without a wildcard writes do not depend on the row: each item
writes its label. -/
theorem names_projectRow_of_no_wildcard {items : List SelectItem} (hw : .wildcard ∉ items)
    (table : Option String) (tables : List String) (row row' : Row) :
    (projectRow items table tables row).names = (projectRow items table tables row').names := by
  unfold projectRow
  refine names_foldl_congr (fun item hitem out out' hout => ?_) _ _ rfl
  cases item with
  | wildcard => exact absurd hitem hw
  | column name => simp only [Row.names_insert, hout]
  | aggregate a => simp only [Row.names_insert, hout]

/-! ## DISTINCT queries -/

namespace Plan

/-- `DISTINCT` hands out the window of the first projected row of each list of values,
whatever the batch size; without a wildcard, values compare as cells by name do. -/
theorem select_distinct_keeps_first_of_each_value_list (size : Nat) (q : Query)
    (main : List Row) (joined : Option (List Row)) (rows : List Row) (hd : q.distinct = true)
    (hg : q.isGlobalAggregate = false) (hb : q.groupBy = none)
    (hk : q.kept main joined = .ok rows) :
    let projected := (q.order rows).map (projectRow q.items (some q.table) (wildcardTables q))
    let out := Feed.firstOf [] projected
    (select size q main joined).drain = .ok (q.window out) ∧ out.Sublist projected ∧
      out.Pairwise (fun r s => (r.values == s.values) = false) ∧
      (∀ r ∈ projected, ∃ s ∈ out, (r.values == s.values) = true) ∧
      (∀ s ∈ out, projected.find? (fun r => r.values == s.values) = some s) ∧
      (.wildcard ∉ q.items → ∀ r ∈ projected, ∀ s ∈ projected,
        r.sameCells s = (r.values == s.values)) := by
  intro projected out
  have hanswer : q.answer main joined = .ok (q.window out) := by
    simp [Query.answer, hk, Query.finish, hg, hb, Query.present, hd, Except.map, out, projected]
  refine ⟨(drain_select_refines_answer size q main joined).1 _ hanswer,
    Feed.sublist_firstOf [] projected, Feed.pairwise_firstOf [] projected,
    fun r hr => ?_, fun s hs => Feed.find?_of_mem_firstOf hs, fun hw r hr s hs => ?_⟩
  · simpa using Feed.exists_mem_firstOf [] hr
  · obtain ⟨r₀, -, rfl⟩ := List.mem_map.mp hr
    obtain ⟨s₀, -, rfl⟩ := List.mem_map.mp hs
    exact Row.sameCells_eq_beq_values (names_projectRow_of_no_wildcard hw _ _ r₀ s₀)

/-- Two rows of one name with the same text: `SELECT DISTINCT name` keeps the first. -/
theorem select_distinct_keeps_first_of_each_value_list_names :
    (select 1 { items := [.column "name"], table := "t", distinct := true }
        [Row.ofPairs [("name", .text "ann")], Row.ofPairs [("name", .text "ann")]] none).drain =
      .ok [Row.ofPairs [("name", .text "ann")]] :=
  (select_distinct_keeps_first_of_each_value_list 1
    { items := [.column "name"], table := "t", distinct := true }
    [Row.ofPairs [("name", .text "ann")], Row.ofPairs [("name", .text "ann")]] none
    [Row.ofPairs [("name", .text "ann")], Row.ofPairs [("name", .text "ann")]]
    rfl rfl rfl rfl).1.trans rfl

/-- Two rows with one cell each, under different names and with the same text: `SELECT
DISTINCT *` keeps only the first, though as maps from names to cells they differ. -/
theorem select_distinct_wildcard_merges_rows :
    (select 1 { items := [.wildcard], table := "t", distinct := true }
        [Row.ofPairs [("a", .text "1")], Row.ofPairs [("b", .text "1")]] none).drain =
      .ok [Row.ofPairs [("a", .text "1")]] ∧
    (Row.ofPairs [("a", .text "1")]).sameCells (Row.ofPairs [("b", .text "1")]) = false := by
  constructor <;> rfl

end Plan

end Tabula
