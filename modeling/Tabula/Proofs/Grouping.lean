import Tabula.Proofs.Where
import Tabula.Proofs.HashJoin
import Tabula.Relation.Aggregate

/-!
# Grouped aggregation

The grouping fold computes the naive grouping in first-seen order, and each accumulator
holds its aggregates (`aggregate_groups_spec`).
-/

namespace Tabula

/-! ### Keys: lists of cells -/

theorem list_beq_symm {α : Type} [BEq α] [PartialEquivBEq α] :
    ∀ {l₁ l₂ : List α}, (l₁ == l₂) = true → (l₂ == l₁) = true
  | [], [], _ => rfl
  | [], _ :: _, h => by simp at h
  | _ :: _, [], h => by simp at h
  | a :: as, b :: bs, h => by
    rw [List.cons_beq_cons, Bool.and_eq_true] at h ⊢
    exact ⟨BEq.symm h.1, list_beq_symm h.2⟩

theorem list_beq_trans {α : Type} [BEq α] [PartialEquivBEq α] :
    ∀ {l₁ l₂ l₃ : List α}, (l₁ == l₂) = true → (l₂ == l₃) = true → (l₁ == l₃) = true
  | [], [], [], _, _ => rfl
  | [], _ :: _, _, h, _ => by simp at h
  | _ :: _, [], _, h, _ => by simp at h
  | _, [], _ :: _, _, h => by simp at h
  | _, _ :: _, [], _, h => by simp at h
  | a :: as, b :: bs, c :: cs, h₁, h₂ => by
    rw [List.cons_beq_cons, Bool.and_eq_true] at h₁ h₂ ⊢
    exact ⟨BEq.trans h₁.1 h₂.1, list_beq_trans h₁.2 h₂.2⟩

instance equivBEq_list {α : Type} [BEq α] [EquivBEq α] : EquivBEq (List α) where
  symm := list_beq_symm
  trans := list_beq_trans

/-! ### The order on doubles -/

namespace Float

open Float.Model

/-- Below is transitive on unpacked doubles: NaN is below nothing, and two numbers of one
sign compare by exponent, then mantissa. -/
theorem unpacked_lt_trans {a b c : UnpackedFloat} (hab : a.compare b = some .lt)
    (hbc : b.compare c = some .lt) : a.compare c = some .lt := by
  rcases a with s | _ | s | ⟨s, m, e, h⟩ <;> rcases b with t | _ | t | ⟨t, n, f, k⟩ <;>
    (try cases s) <;> (try cases t) <;> simp [UnpackedFloat.compare] at hab <;>
    rcases c with u | _ | u | ⟨u, p, g, l⟩ <;> (try cases u) <;>
    simp [UnpackedFloat.compare] at hbc ⊢
  all_goals first
    | rfl
    | simp only [Ordering.then_eq_lt, Ordering.then_eq_gt, Int.compare_eq_lt, Int.compare_eq_gt,
        Int.compare_eq_eq, Nat.compare_eq_lt, Nat.compare_eq_gt] at hab hbc ⊢
      omega

theorem unpacked_lt_irrefl (a : UnpackedFloat) : a.compare a ≠ some .lt := by
  rcases a with s | _ | s | ⟨s, m, e, h⟩ <;> (try cases s) <;> simp [UnpackedFloat.compare]

theorem unpack_of_isNaN {x : Float} (hx : x.isNaN) : x.toModel.unpack = .notANumber := by
  change x.toModel.unpack.isNaN = true at hx
  cases h : x.toModel.unpack <;> simp_all [UnpackedFloat.isNaN]

theorem lt_of_lt_of_lt {x y z : Float} (hxy : x < y) (hyz : y < z) : x < z := by
  rw [Coerced.float_lt_iff] at hxy hyz ⊢
  exact unpacked_lt_trans hxy hyz

theorem not_lt_self (x : Float) : ¬x < x := by
  rw [Coerced.float_lt_iff]
  exact unpacked_lt_irrefl _

theorem not_lt_of_isNaN_left {x y : Float} (hx : x.isNaN) : ¬x < y := by
  rw [Coerced.float_lt_iff, unpack_of_isNaN hx]
  simp [UnpackedFloat.compare]

theorem not_lt_of_isNaN_right {x y : Float} (hy : y.isNaN) : ¬x < y := by
  rw [Coerced.float_lt_iff, unpack_of_isNaN hy]
  cases x.toModel.unpack <;> simp [UnpackedFloat.compare]

end Float

/-! ### Running extremes -/

/-- What a running extreme needs of the order it keeps the best number by: a strict order
that no NaN takes part in. -/
structure NumberOrder (better : Float → Float → Prop) : Prop where
  irrefl : ∀ x, ¬better x x
  trans : ∀ {x y z}, better x y → better y z → better x z
  nan_left : ∀ {x y}, x.isNaN → ¬better x y
  nan_right : ∀ {x y}, y.isNaN → ¬better x y

theorem numberOrder_lt : NumberOrder (· < ·) :=
  ⟨Float.not_lt_self, Float.lt_of_lt_of_lt, Float.not_lt_of_isNaN_left, Float.not_lt_of_isNaN_right⟩

theorem numberOrder_gt : NumberOrder fun x y => y < x :=
  ⟨Float.not_lt_self, fun hxy hyz => Float.lt_of_lt_of_lt hyz hxy, Float.not_lt_of_isNaN_right,
    Float.not_lt_of_isNaN_left⟩

/-- Keeps `a` unless `b` is better; a NaN gives way to anything. -/
def keepBetter (better : Float → Float → Prop) [DecidableRel better] (a b : Float) : Float :=
  if a.isNaN then b else if b.isNaN then a else if better b a then b else a

/-- `m` is a best number of `xs`: one of them, with none better, and NaN only when they all
are. -/
def IsBestOf (better : Float → Float → Prop) (xs : List Float) (m : Float) : Prop :=
  m ∈ xs ∧ (∀ x ∈ xs, ¬better x m) ∧ (m.isNaN → ∀ x ∈ xs, x.isNaN)

section Extremes

variable {better : Float → Float → Prop}

theorem isBestOf_singleton (h : NumberOrder better) (x : Float) : IsBestOf better [x] x := by
  refine ⟨List.mem_singleton_self x, fun y hy => ?_, fun hx y hy => ?_⟩
  · rw [List.mem_singleton.mp hy]
    exact h.irrefl x
  · rwa [List.mem_singleton.mp hy]

/-- Keeping the better of the best so far and the next number gives a best number of the
longer list. -/
theorem IsBestOf.keepBetter [DecidableRel better] (h : NumberOrder better) {xs : List Float}
    {m : Float}
    (hm : IsBestOf better xs m) (y : Float) :
    IsBestOf better (xs ++ [y]) (Tabula.keepBetter better m y) := by
  obtain ⟨hmem, hbest, hnan⟩ := hm
  unfold Tabula.keepBetter
  by_cases hmn : m.isNaN
  · rw [if_pos hmn]
    refine ⟨by simp, fun x hx => ?_, fun hy x hx => ?_⟩
    · rcases List.mem_append.mp hx with hx | hx
      · exact h.nan_left (hnan hmn x hx)
      · rw [List.mem_singleton.mp hx]
        exact h.irrefl y
    · rcases List.mem_append.mp hx with hx | hx
      · exact hnan hmn x hx
      · rwa [List.mem_singleton.mp hx]
  rw [if_neg hmn]
  by_cases hyn : y.isNaN
  · rw [if_pos hyn]
    refine ⟨List.mem_append_left _ hmem, fun x hx => ?_, fun hm' => absurd hm' hmn⟩
    rcases List.mem_append.mp hx with hx | hx
    · exact hbest x hx
    · rw [List.mem_singleton.mp hx]
      exact h.nan_left hyn
  rw [if_neg hyn]
  by_cases hym : better y m
  · rw [if_pos hym]
    refine ⟨by simp, fun x hx => ?_, fun hy => absurd hy hyn⟩
    rcases List.mem_append.mp hx with hx | hx
    · exact fun hxy => hbest x hx (h.trans hxy hym)
    · rw [List.mem_singleton.mp hx]
      exact h.irrefl y
  · rw [if_neg hym]
    refine ⟨List.mem_append_left _ hmem, fun x hx => ?_, fun hm' => absurd hm' hmn⟩
    rcases List.mem_append.mp hx with hx | hx
    · exact hbest x hx
    · rwa [List.mem_singleton.mp hx]

/-- What a running extreme holds after a list of numbers: nothing when there are none, else
a best of them. -/
def ExtremeOf (better : Float → Float → Prop) (xs : List Float) : Option Float → Prop
  | none => xs = []
  | some m => IsBestOf better xs m

/-- One step of a running extreme: the first number, or the better of it and the next. -/
theorem ExtremeOf.add [DecidableRel better] (h : NumberOrder better) {xs : List Float}
    {o : Option Float} (ho : ExtremeOf better xs o) (y : Float) :
    ExtremeOf better (xs ++ [y]) (some (o.elim y fun m => Tabula.keepBetter better m y)) := by
  cases o with
  | none =>
    obtain rfl : xs = [] := ho
    exact isBestOf_singleton h y
  | some m => exact IsBestOf.keepBetter h ho y

end Extremes

/-! ### The figures of a list of numbers -/

namespace Stats

/-- The figures of a list of numbers, added in order. -/
def ofNumbers (xs : List Float) : Stats :=
  xs.foldl add {}

theorem ofNumbers_append_singleton (xs : List Float) (x : Float) :
    ofNumbers (xs ++ [x]) = (ofNumbers xs).add x := by
  simp only [ofNumbers, List.foldl_append, List.foldl_cons, List.foldl_nil]

theorem min_add (s : Stats) (y : Float) :
    (s.add y).min = some (s.min.elim y fun m => least m y) := by
  unfold add
  cases s.min <;> rfl

theorem max_add (s : Stats) (y : Float) :
    (s.add y).max = some (s.max.elim y fun m => greatest m y) := by
  unfold add
  cases s.max <;> rfl

theorem sum_ofNumbers (xs : List Float) : (ofNumbers xs).sum = xs.foldl (· + ·) 0 := by
  induction xs using List.reverseRecOn with
  | nil => rfl
  | append_singleton xs x ih =>
    rw [ofNumbers_append_singleton, List.foldl_append, ← ih]
    rfl

theorem seen_ofNumbers (xs : List Float) : (ofNumbers xs).seen = xs.length := by
  induction xs using List.reverseRecOn with
  | nil => rfl
  | append_singleton xs x ih => simp [ofNumbers_append_singleton, add, ih]

theorem min_ofNumbers (xs : List Float) : ExtremeOf (· < ·) xs (ofNumbers xs).min := by
  induction xs using List.reverseRecOn with
  | nil => rfl
  | append_singleton xs y ih =>
    rw [ofNumbers_append_singleton, min_add]
    exact ih.add numberOrder_lt y

theorem max_ofNumbers (xs : List Float) : ExtremeOf (fun x y => y < x) xs (ofNumbers xs).max := by
  induction xs using List.reverseRecOn with
  | nil => rfl
  | append_singleton xs y ih =>
    rw [ofNumbers_append_singleton, max_add]
    exact ih.add numberOrder_gt y

end Stats

/-! ### Accumulators -/

/-- The numbers an aggregate reads from rows, in row order: the values of its field that
coerce to numbers. An aggregate without a field reads none. -/
def numbers (a : Aggregate) (table : Option String) (rows : List Row) : List Float :=
  match a.field? with
  | none => []
  | some f => rows.filterMap fun r => (r.resolve f table).bind numberOf?

theorem numbers_append_singleton (a : Aggregate) (table : Option String) (rows : List Row)
    (r : Row) :
    numbers a table (rows ++ [r]) =
      numbers a table rows ++
        (a.field?.bind fun f => (r.resolve f table).bind numberOf?).toList := by
  unfold numbers
  cases a.field? with
  | none => rfl
  | some f =>
    simp only [List.filterMap_append, List.filterMap_cons, List.filterMap_nil, Option.bind_some]
    cases (r.resolve f table).bind numberOf? <;> rfl

theorem length_numbers_le (a : Aggregate) (table : Option String) (rows : List Row) :
    (numbers a table rows).length ≤ rows.length := by
  unfold numbers
  cases a.field? with
  | none => exact Nat.zero_le _
  | some f => exact List.length_filterMap_le _ _

theorem zip_map_self {α β : Type} (l : List α) (g : α → β) :
    l.zip (l.map g) = l.map fun a => (a, g a) := by
  induction l with
  | nil => rfl
  | cons a l ih => simp [ih]

theorem accumulate_append_singleton (aggs : List Aggregate) (table : Option String)
    (rows : List Row) (r : Row) :
    accumulate aggs table (rows ++ [r]) = (accumulate aggs table rows).update aggs table r := by
  simp only [accumulate, List.foldl_append, List.foldl_cons, List.foldl_nil]

theorem count_accumulate (aggs : List Aggregate) (table : Option String) (rows : List Row) :
    (accumulate aggs table rows).count = rows.length := by
  induction rows using List.reverseRecOn with
  | nil => rfl
  | append_singleton rows r ih =>
    rw [accumulate_append_singleton]
    simp [Accumulator.update, ih]

/-- Each aggregate's figures are those of the numbers it reads from the rows. -/
theorem stats_accumulate (aggs : List Aggregate) (table : Option String) (rows : List Row) :
    (accumulate aggs table rows).stats =
      aggs.map fun a => Stats.ofNumbers (numbers a table rows) := by
  induction rows using List.reverseRecOn with
  | nil =>
    simp only [accumulate, List.foldl_nil, Accumulator.start]
    refine List.map_congr_left fun a _ => ?_
    unfold numbers
    cases a.field? <;> rfl
  | append_singleton rows r ih =>
    rw [accumulate_append_singleton]
    simp only [Accumulator.update, ih, zip_map_self, List.map_map]
    refine List.map_congr_left fun a _ => ?_
    rw [numbers_append_singleton]
    simp only [Function.comp_apply]
    cases a.field? with
    | none => simp
    | some f =>
      simp only [Option.bind_some]
      cases (r.resolve f table).bind numberOf? with
      | none => simp
      | some x => simp [Stats.ofNumbers_append_singleton]

/-! ### Aggregate values -/

/-- The value an aggregate may take over the rows of a group; AVG, MIN and MAX are null
without numbers. -/
def AggregateValue (table : Option String) (rows : List Row) (a : Aggregate) (v : Value) :
    Prop :=
  match a.fn with
  | .count => v = .number rows.length.toFloat
  | .sum => v = .number ((numbers a table rows).foldl (· + ·) 0)
  | .avg => v = if (numbers a table rows).isEmpty then .null
      else .number ((numbers a table rows).foldl (· + ·) 0 / rows.length.toFloat)
  | .min => (numbers a table rows = [] ∧ v = .null) ∨
      ∃ m, IsBestOf (· < ·) (numbers a table rows) m ∧ v = .number m
  | .max => (numbers a table rows = [] ∧ v = .null) ∨
      ∃ m, IsBestOf (fun x y => y < x) (numbers a table rows) m ∧ v = .number m

/-- The cell of a running extreme: null when there were no numbers, else a best one. -/
theorem extreme_value {better : Float → Float → Prop} {xs : List Float} :
    ∀ {o : Option Float}, ExtremeOf better xs o →
      (xs = [] ∧ o.elim Value.null .number = .null) ∨
        ∃ m, IsBestOf better xs m ∧ o.elim Value.null .number = .number m
  | none, h => .inl ⟨h, rfl⟩
  | some m, h => .inr ⟨m, h, rfl⟩

theorem result_accumulate (aggs : List Aggregate) (table : Option String) (rows : List Row)
    (a : Aggregate) :
    AggregateValue table rows a
      ((accumulate aggs table rows).result a (Stats.ofNumbers (numbers a table rows))) := by
  have hcount := count_accumulate aggs table rows
  unfold AggregateValue Accumulator.result
  cases a.fn with
  | count => rw [hcount]
  | sum => rw [Stats.sum_ofNumbers]
  | avg =>
    rw [Stats.seen_ofNumbers, Stats.sum_ofNumbers, hcount]
    have hle := length_numbers_le a table rows
    cases hxs : numbers a table rows with
    | nil => rfl
    | cons x xs =>
      have hrows : rows.length ≠ 0 := by
        rw [hxs, List.length_cons] at hle
        omega
      simp [hrows]
  | min =>
    have h := Stats.min_ofNumbers (numbers a table rows)
    cases hmin : (Stats.ofNumbers (numbers a table rows)).min <;> rw [hmin] at h <;>
      exact extreme_value h
  | max =>
    have h := Stats.max_ofNumbers (numbers a table rows)
    cases hmax : (Stats.ofNumbers (numbers a table rows)).max <;> rw [hmax] at h <;>
      exact extreme_value h

/-- An output row over the rows of a group: `head`, then each aggregate's label bound to a
value it may take over the rows. -/
def GroupRow (aggs : List Aggregate) (table : Option String) (rows : List Row) (head out : Row) :
    Prop :=
  ∃ vs : List Value, List.Forall₂ (AggregateValue table rows) aggs vs ∧
    out = (aggs.zip vs).foldl (fun r p => r.insert p.1.label p.2) head

theorem groupRow_writeInto (aggs : List Aggregate) (table : Option String) (rows : List Row)
    (head : Row) :
    GroupRow aggs table rows head ((accumulate aggs table rows).writeInto aggs head) := by
  refine ⟨aggs.map fun a =>
      (accumulate aggs table rows).result a (Stats.ofNumbers (numbers a table rows)), ?_, ?_⟩
  · rw [List.forall₂_map_right_iff]
    exact List.forall₂_same.mpr fun a _ => result_accumulate aggs table rows a
  · unfold Accumulator.writeInto
    rw [stats_accumulate, zip_map_self, zip_map_self, List.foldl_map, List.foldl_map]

/-! ### Distinct keys in order of first appearance -/

section FirstSeen

variable {α : Type} [BEq α] [EquivBEq α]

theorem contains_of_beq {l : List α} {a b : α} (hab : (a == b) = true)
    (hb : l.contains b = true) : l.contains a = true := by
  rw [List.contains_eq_any_beq, List.any_eq_true] at hb ⊢
  obtain ⟨x, hx, hbx⟩ := hb
  exact ⟨x, hx, BEq.trans hab hbx⟩

end FirstSeen

/-- The distinct keys of a list, in order of first appearance. -/
def firstSeen (keys : List (List Value)) : List (List Value) :=
  keys.foldl (fun acc k => if acc.contains k then acc else acc ++ [k]) []

theorem firstSeen_append_singleton (keys : List (List Value)) (k : List Value) :
    firstSeen (keys ++ [k]) =
      if (firstSeen keys).contains k then firstSeen keys else firstSeen keys ++ [k] := by
  simp only [firstSeen, List.foldl_append, List.foldl_cons, List.foldl_nil]
  rfl

/-- The distinct keys hold a key equal to each key of the list, and no other. -/
theorem contains_firstSeen (keys : List (List Value)) (k : List Value) :
    (firstSeen keys).contains k = keys.contains k := by
  induction keys using List.reverseRecOn with
  | nil => rfl
  | append_singleton keys k' ih =>
    rw [firstSeen_append_singleton, List.contains_append, ← ih]
    split
    · rename_i hk'
      cases hk : [k'].contains k
      · rw [Bool.or_false]
      · rw [contains_of_beq (by simpa using hk) hk', Bool.true_or]
    · rw [List.contains_append]

theorem pairwise_firstSeen (keys : List (List Value)) :
    (firstSeen keys).Pairwise fun a b => (a == b) = false := by
  induction keys using List.reverseRecOn with
  | nil => exact List.Pairwise.nil
  | append_singleton keys k ih =>
    rw [firstSeen_append_singleton]
    split
    · exact ih
    · rename_i hk
      refine List.pairwise_append.mpr ⟨ih, List.pairwise_singleton _ _, fun a ha b hb => ?_⟩
      rw [List.mem_singleton.mp hb]
      cases hak : a == k
      · rfl
      · exact absurd (contains_of_beq (BEq.symm hak) (List.elem_eq_true_of_mem ha)) hk

/-! ### The insertion-ordered map of groups -/

/-- On a map whose keys are distinct, `upsertGroup` updates the group of a present key in
place, and opens a group for a new key at the end. -/
theorem upsertGroup_map (keys : List (List Value)) (acc : List Value → Accumulator)
    (k : List Value) (init : Accumulator) (f : Accumulator → Accumulator)
    (hd : keys.Pairwise fun a b => (a == b) = false) :
    upsertGroup k init f (keys.map fun k' => (k', acc k')) =
      if keys.contains k then keys.map fun k' => (k', if k == k' then f (acc k') else acc k')
      else keys.map (fun k' => (k', acc k')) ++ [(k, f init)] := by
  induction keys with
  | nil => rfl
  | cons k₀ ks ih =>
    obtain ⟨hk₀, hks⟩ := List.pairwise_cons.mp hd
    simp only [List.map_cons, upsertGroup, List.contains_cons]
    by_cases h₀ : (k₀ == k) = true
    · have hrest : ∀ k' ∈ ks, (k == k') = false := fun k' hk' => by
        cases hkk : k == k'
        · rfl
        · have := hk₀ k' hk'
          rw [BEq.trans h₀ hkk] at this
          exact Bool.noConfusion this
      rw [if_pos h₀, BEq.symm h₀, Bool.true_or, if_pos rfl, if_pos rfl]
      congr 1
      exact (List.map_congr_left fun k' hk' => by rw [hrest k' hk', if_neg Bool.false_ne_true]).symm
    · have hk : (k == k₀) = false := by
        cases hk : k == k₀
        · rfl
        · exact absurd (BEq.symm hk) h₀
      rw [if_neg h₀, ih hks, hk, Bool.false_or]
      split <;> simp

/-! ### The fold computes the naive grouping -/

/-- The group keys of rows: their distinct keys, in order of first appearance. -/
def groupKeys (groupBy : List String) (table : Option String) (rows : List Row) :
    List (List Value) :=
  firstSeen (rows.map (groupKey groupBy table))

/-- The rows of the group of `k`, in order. -/
def groupRows (groupBy : List String) (table : Option String) (rows : List Row)
    (k : List Value) : List Row :=
  rows.filter fun r => groupKey groupBy table r == k

/-- The naive grouping: each group key with the accumulator of the rows of its group. -/
def naiveGroups (groupBy : List String) (aggs : List Aggregate) (table : Option String)
    (rows : List Row) : List (List Value × Accumulator) :=
  (groupKeys groupBy table rows).map fun k =>
    (k, accumulate aggs table (groupRows groupBy table rows k))

theorem groupRows_append_singleton (groupBy : List String) (table : Option String)
    (rows : List Row) (r : Row) (k : List Value) :
    groupRows groupBy table (rows ++ [r]) k =
      if groupKey groupBy table r == k then groupRows groupBy table rows k ++ [r]
      else groupRows groupBy table rows k := by
  unfold groupRows
  rw [List.filter_append]
  cases h : groupKey groupBy table r == k <;> simp [h]

/-- A key that no row has has no rows. -/
theorem groupRows_eq_nil (groupBy : List String) (table : Option String) (rows : List Row)
    (k : List Value) (hk : (groupKeys groupBy table rows).contains k = false) :
    groupRows groupBy table rows k = [] := by
  rw [groupKeys, contains_firstSeen, List.contains_eq_any_beq, List.any_eq_false] at hk
  refine List.filter_eq_nil_iff.mpr fun r hr hrk => hk _ (List.mem_map_of_mem hr) ?_
  exact BEq.symm hrk

/-- The invariant of the fold: after each row, the groups are the naive grouping of the
rows so far. -/
theorem foldl_foldGrouped (groupBy : List String) (aggs : List Aggregate)
    (table : Option String) (rows : List Row) :
    rows.foldl (foldGrouped groupBy aggs table) [] = naiveGroups groupBy aggs table rows := by
  induction rows using List.reverseRecOn with
  | nil => rfl
  | append_singleton rows r ih =>
    rw [List.foldl_append, List.foldl_cons, List.foldl_nil, ih]
    unfold foldGrouped naiveGroups groupKeys
    rw [upsertGroup_map _ _ _ _ _ (pairwise_firstSeen _)]
    simp only [List.map_append, List.map_cons, List.map_nil,
      firstSeen_append_singleton, groupRows_append_singleton]
    split
    · refine List.map_congr_left fun k' _ => ?_
      by_cases hk : (groupKey groupBy table r == k') = true
      · rw [if_pos hk, if_pos hk, accumulate_append_singleton]
      · rw [if_neg hk, if_neg hk]
    · rename_i hnew
      have hne : ∀ k' ∈ firstSeen (rows.map (groupKey groupBy table)),
          (groupKey groupBy table r == k') = false := by
        rw [Bool.not_eq_true, List.contains_eq_any_beq, List.any_eq_false] at hnew
        exact fun k' hk' => by simpa using hnew k' hk'
      have hnil := groupRows_eq_nil groupBy table rows (groupKey groupBy table r)
        (Bool.not_eq_true _ ▸ hnew)
      rw [List.map_append, List.map_singleton]
      congr 1
      · exact List.map_congr_left fun k' hk' => by rw [hne k' hk', if_neg Bool.false_ne_true]
      · rw [if_pos BEq.rfl, hnil]
        rfl

/-- Folding a row in adds one to the count of exactly one group. -/
theorem sum_count_upsertGroup (k : List Value) (init : Accumulator)
    (f : Accumulator → Accumulator) (hinit : init.count = 0)
    (hf : ∀ acc, (f acc).count = acc.count + 1) :
    ∀ groups : List (List Value × Accumulator),
      ((upsertGroup k init f groups).map (·.2.count)).sum = (groups.map (·.2.count)).sum + 1
  | [] => by simp [upsertGroup, hf, hinit]
  | (k', acc) :: rest => by
    unfold upsertGroup
    split
    · simp only [List.map_cons, List.sum_cons, hf]
      omega
    · simp only [List.map_cons, List.sum_cons, sum_count_upsertGroup k init f hinit hf rest]
      omega

theorem sum_count_foldGrouped (groupBy : List String) (aggs : List Aggregate)
    (table : Option String) (rows : List Row) :
    ((rows.foldl (foldGrouped groupBy aggs table) []).map (·.2.count)).sum = rows.length := by
  induction rows using List.reverseRecOn with
  | nil => rfl
  | append_singleton rows r ih =>
    rw [List.foldl_append, List.foldl_cons, List.foldl_nil, foldGrouped,
      sum_count_upsertGroup _ _ _ rfl (fun _ => rfl), ih, List.length_append,
      List.length_singleton]

/-- Every row is in exactly one group: the groups' sizes add up to the number of rows. -/
theorem sum_length_groupRows (groupBy : List String) (table : Option String)
    (rows : List Row) :
    ((groupKeys groupBy table rows).map fun k => (groupRows groupBy table rows k).length).sum =
      rows.length := by
  have h := sum_count_foldGrouped groupBy [] table rows
  rw [foldl_foldGrouped, naiveGroups, List.map_map] at h
  simpa only [Function.comp_def, count_accumulate] using h

/-! ### Output rows -/

/-- The start of a group's output row: the group fields bound to the key's values. -/
def groupHead (groupBy : List String) (k : List Value) : Row :=
  (groupBy.zip k).foldl (fun r (f, v) => r.insert f v) Row.empty

theorem aggregateGroups_eq_naive (groupBy : List String) (aggs : List Aggregate)
    (table : Option String) (rows : List Row) :
    aggregateGroups groupBy aggs table rows =
      (groupKeys groupBy table rows).map fun k =>
        emitGroup groupBy aggs k (accumulate aggs table (groupRows groupBy table rows k)) := by
  rw [aggregateGroups, foldl_foldGrouped, naiveGroups, List.map_map]
  rfl

/-- Grouped aggregation is the naive computation: one row per distinct key in first-seen
order, with each aggregate over the rows of its group, in order. -/
theorem aggregate_groups_spec (groupBy : List String) (aggs : List Aggregate)
    (table : Option String) (rows : List Row) :
    GroupRow aggs table rows Row.empty (aggregateAll aggs table rows) ∧
    aggregateGroups groupBy aggs table rows =
      (groupKeys groupBy table rows).map (fun k =>
        emitGroup groupBy aggs k (accumulate aggs table (groupRows groupBy table rows k))) ∧
    List.Forall₂
      (fun k out => GroupRow aggs table (groupRows groupBy table rows k) (groupHead groupBy k) out)
      (groupKeys groupBy table rows) (aggregateGroups groupBy aggs table rows) ∧
    (groupKeys groupBy table rows).Pairwise (fun a b => (a == b) = false) ∧
    (∀ r ∈ rows, (groupKeys groupBy table rows).contains (groupKey groupBy table r)) ∧
    ((groupKeys groupBy table rows).map fun k => (groupRows groupBy table rows k).length).sum =
      rows.length := by
  refine ⟨groupRow_writeInto aggs table rows Row.empty, aggregateGroups_eq_naive .., ?_,
    pairwise_firstSeen _, fun r hr => ?_, sum_length_groupRows groupBy table rows⟩
  · rw [aggregateGroups_eq_naive, List.forall₂_map_right_iff]
    exact List.forall₂_same.mpr fun k _ => groupRow_writeInto aggs table _ (groupHead groupBy k)
  · rw [groupKeys, contains_firstSeen]
    exact List.elem_eq_true_of_mem (List.mem_map_of_mem hr)

end Tabula
