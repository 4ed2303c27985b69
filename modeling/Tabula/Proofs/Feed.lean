import Tabula.Feed

/-!
# Draining feeds

Drained, each streaming operator is a function on the list of rows it reads; a limit
reads only the first batches.
-/

namespace Tabula

namespace Feed

/-- The first `k` batches of a feed, ending normally after them. -/
def upTo : Feed → Nat → Feed
  | _, 0 => .done
  | .done, _ + 1 => .done
  | .fail e, _ + 1 => .fail e
  | .batch rows rest, k + 1 => .batch rows (upTo rest k)

/-- The rows a LIMIT and OFFSET leave of a list: `skip` rows dropped, then at most `n`
kept, or all when there is no limit. -/
def slice (remaining : Option Nat) (skip : Nat) (rows : List Row) : List Row :=
  match remaining with
  | none => rows.drop skip
  | some n => (rows.drop skip).take n

/-- The rows whose values were not met before, each at its first appearance; `seen`
holds the lists of values met already. -/
def firstOf (seen : List (List Value)) : List Row → List Row
  | [] => []
  | r :: rs =>
    if seen.contains r.values then firstOf seen rs else r :: firstOf (seen ++ [r.values]) rs

/-! ## Ending normally or with an error -/

@[simp] theorem drain_done : drain .done = .ok [] := rfl

@[simp] theorem drain_fail (e : Error) : drain (.fail e) = .error e := rfl

@[simp] theorem drain_batch (rows : List Row) (rest : Feed) :
    drain (.batch rows rest) = (drain rest).map (rows ++ ·) := rfl

theorem drain_batch_eq_ok {rows rs : List Row} {rest : Feed}
    (h : drain (.batch rows rest) = .ok rs) :
    ∃ tail, drain rest = .ok tail ∧ rs = rows ++ tail := by
  rw [drain_batch] at h
  cases hrest : drain rest with
  | error e => simp [hrest, Except.map] at h
  | ok tail =>
      simp only [hrest, Except.map, Except.ok.injEq] at h
      exact ⟨tail, rfl, h.symm⟩

theorem drain_ofResult (r : Except Error (List Row)) : (ofResult r).drain = r := by
  cases r with
  | error e => rfl
  | ok rows =>
      cases rows with
      | nil => rfl
      | cons row rows => simp [ofResult, Except.map]

/-- A scan hands out every row, in order, whatever its batch size. -/
theorem drain_scan_go (size : Nat) :
    ∀ (fuel : Nat) (rows : List Row), rows.length ≤ fuel → (scan.go size fuel rows).drain = .ok rows
  | _, [], _ => by simp [scan.go]
  | 0, _ :: _, h => by simp at h
  | fuel + 1, r :: rs, h => by
      have hrest : ((r :: rs).drop (max size 1)).length ≤ fuel := by
        simp only [List.length_drop, List.length_cons] at h ⊢
        omega
      simp [scan.go, drain_scan_go size fuel _ hrest, Except.map]

@[simp] theorem drain_scan (size : Nat) (rows : List Row) : (scan size rows).drain = .ok rows :=
  drain_scan_go size rows.length rows (Nat.le_refl _)

@[simp] theorem drain_map (f : Row → Row) (feed : Feed) :
    (map f feed).drain = feed.drain.map (List.map f) := by
  induction feed with
  | done => rfl
  | fail e => rfl
  | batch rows rest ih =>
      cases hrest : drain rest with
      | error e => simp [map, hrest, ih, Except.map]
      | ok tail => simp [map, hrest, ih, Except.map]

/-! ## Filters -/

section Filter

variable (ps : List Predicate) (table : Option String) (keep : Bool)

/-- Filtering two lists in a row stops at the first error, in the first list if it has one. -/
theorem filterRows_append (xs ys : List Row) :
    filterRows ps table keep (xs ++ ys) =
      (filterRows ps table keep xs).bind fun a => (filterRows ps table keep ys).map (a ++ ·) := by
  induction xs with
  | nil =>
      cases h : filterRows ps table keep ys with
      | error e => simp [filterRows, h, Except.bind, Except.map]
      | ok b => simp [filterRows, h, Except.bind, Except.map]
  | cons r rs ih =>
      simp only [List.cons_append, filterRows]
      cases hr : Predicate.evalAll ps r table with
      | error e => rfl
      | ok b =>
          simp only [ih]
          cases hrs : filterRows ps table keep rs with
          | error e => rfl
          | ok a =>
              cases hys : filterRows ps table keep ys with
              | error e => rfl
              | ok c => by_cases hb : (b == keep) = true <;> simp [Except.bind, Except.map, hb]

/-- Without conditions every row is kept. -/
theorem filterRows_nil (rows : List Row) : filterRows [] table true rows = .ok rows := by
  induction rows with
  | nil => rfl
  | cons r rs ih => simp [filterRows, Predicate.evalAll, ih, Except.map]

/-- A filter over a feed that ends normally filters its rows. -/
theorem drain_filter_of_drain_eq_ok {f : Feed} {rs : List Row} (h : f.drain = .ok rs) :
    (filter ps table keep f).drain = filterRows ps table keep rs := by
  induction f generalizing rs with
  | done =>
      simp only [drain_done, Except.ok.injEq] at h
      subst h
      rfl
  | fail e => simp at h
  | batch rows rest ih =>
      obtain ⟨tail, hrest, rfl⟩ := drain_batch_eq_ok h
      rw [filterRows_append]
      cases hrows : filterRows ps table keep rows with
      | error e => simp [filter, hrows, Except.bind]
      | ok kept =>
          cases kept with
          | nil =>
              cases htail : filterRows ps table keep tail with
              | error e => simp [filter, hrows, ih hrest, htail, Except.bind, Except.map]
              | ok b => simp [filter, hrows, ih hrest, htail, Except.bind, Except.map]
          | cons k ks => simp [filter, hrows, ih hrest, Except.bind]

/-- A filter over a materialized result filters it. -/
theorem drain_filter_ofResult (r : Except Error (List Row)) :
    (filter ps table keep (ofResult r)).drain = r.bind (filterRows ps table keep) := by
  cases r with
  | error e => rfl
  | ok rows => exact drain_filter_of_drain_eq_ok ps table keep (drain_ofResult _)

end Filter

/-! ## Distinct rows -/

theorem foldl_firstOf (rows acc : List Row) (seen : List (List Value)) :
    rows.foldl (fun (acc : List Row × List (List Value)) r =>
        if acc.2.contains r.values then acc else (acc.1 ++ [r], acc.2 ++ [r.values])) (acc, seen) =
      (acc ++ firstOf seen rows, seen ++ (firstOf seen rows).map Row.values) := by
  induction rows generalizing acc seen with
  | nil => simp [firstOf]
  | cons r rs ih =>
      by_cases h : seen.contains r.values = true
      · simp [firstOf, h, ih]
      · simp [firstOf, h, ih, List.append_assoc]

theorem firstOf_append (seen : List (List Value)) (xs ys : List Row) :
    firstOf seen (xs ++ ys) = firstOf seen xs ++ firstOf (seen ++ (firstOf seen xs).map Row.values) ys := by
  induction xs generalizing seen with
  | nil => simp [firstOf]
  | cons r rs ih =>
      by_cases h : seen.contains r.values = true
      · simp [firstOf, h, ih]
      · simp [firstOf, h, ih, List.append_assoc]

/-- Distinct rows across batches are the first rows of each list of values. -/
theorem drain_distinct (seen : List (List Value)) (f : Feed) :
    (distinct seen f).drain = f.drain.map (firstOf seen) := by
  induction f generalizing seen with
  | done => rfl
  | fail e => rfl
  | batch rows rest ih =>
      simp only [distinct, foldl_firstOf, List.nil_append]
      have hsplit : ∀ tail, firstOf seen (rows ++ tail) =
          firstOf seen rows ++ firstOf (seen ++ (firstOf seen rows).map Row.values) tail :=
        firstOf_append seen rows
      split
      · next hnil =>
          have hempty : firstOf seen rows = [] := List.isEmpty_iff.mp hnil
          rw [ih]
          cases hrest : drain rest with
          | error e => simp [hrest, Except.map]
          | ok tail => simp [hrest, Except.map, hsplit, hempty]
      · rw [drain_batch, ih]
        cases hrest : drain rest with
        | error e => simp [hrest, Except.map]
        | ok tail => simp [hrest, Except.map, hsplit]

/-! ## Limits -/

section Limit

variable (remaining : Option Nat) (skip : Nat)

@[simp] theorem slice_nil : slice remaining skip [] = [] := by
  cases remaining <;> simp [slice]

@[simp] theorem slice_some_zero (rows : List Row) : slice (some 0) skip rows = [] := by
  simp [slice]

theorem length_slice_le (n : Nat) (rows : List Row) : (slice (some n) skip rows).length ≤ n := by
  simp only [slice, List.length_take]
  omega

/-- Rows that all fall under the offset only shorten it. -/
theorem slice_append_of_length_le {rows : List Row} (h : rows.length ≤ skip) (tail : List Row) :
    slice remaining skip (rows ++ tail) = slice remaining (skip - rows.length) tail := by
  have hdrop : (rows ++ tail).drop skip = tail.drop (skip - rows.length) := by
    rw [List.drop_append, List.drop_eq_nil_of_le h, List.nil_append]
  cases remaining <;> simp [slice, hdrop]

/-- Past the offset, the window of a longer list goes on where the window of its first
rows stopped, with the limit reduced by what they gave. -/
theorem slice_append {rows : List Row} (h : skip ≤ rows.length) (tail : List Row) :
    slice remaining skip (rows ++ tail) =
      slice remaining skip rows ++
        slice (remaining.map (· - (slice remaining skip rows).length)) 0 tail := by
  have hdrop : (rows ++ tail).drop skip = rows.drop skip ++ tail := List.drop_append_of_le_length h
  cases remaining with
  | none => simp [slice, hdrop]
  | some n =>
      have hleft : n - ((rows.drop skip).take n).length = n - (rows.drop skip).length := by
        simp only [List.length_take]
        omega
      simp only [slice, hdrop, List.take_append, Option.map_some, List.drop_zero, hleft]

theorem limit_fail_of_ne (e : Error) (h : remaining ≠ some 0) :
    limit remaining skip (.fail e) = .fail e := by
  simp [limit, h]

/-- The batch a limit hands out is the window of the batch it pulled. -/
theorem limit_batch_of_lt (rows : List Row) (rest : Feed) (h0 : remaining ≠ some 0)
    (hs : ¬ (0 < skip ∧ rows.length ≤ skip)) :
    limit remaining skip (.batch rows rest) =
      .batch (slice remaining skip rows)
        (limit (remaining.map (· - (slice remaining skip rows).length)) 0 rest) := by
  have hzero : skip - min skip rows.length = 0 := by omega
  cases remaining with
  | none => simp [limit, slice, hs, hzero]
  | some n =>
      have hn : n ≠ 0 := fun h => h0 (by rw [h])
      simp [limit, slice, hs, hzero, hn]

theorem limit_batch_of_le (rows : List Row) (rest : Feed) (h0 : remaining ≠ some 0)
    (hs : 0 < skip ∧ rows.length ≤ skip) :
    limit remaining skip (.batch rows rest) = limit remaining (skip - rows.length) rest := by
  cases remaining with
  | none => simp [limit, hs]
  | some n =>
      have hn : n ≠ 0 := fun h => h0 (by rw [h])
      simp [limit, hs, hn]

@[simp] theorem upTo_zero (f : Feed) : f.upTo 0 = .done := by
  cases f <;> rfl

/-- A limit with nothing left to hand out reads no batch. -/
theorem limit_some_zero (f : Feed) : limit (some 0) skip f = .done := by
  cases f <;> simp [limit]

/-- Over a feed that ends normally, a limit hands out the window of its rows. -/
theorem drain_limit_of_drain_eq_ok {f : Feed} {rs : List Row} (h : f.drain = .ok rs) :
    (limit remaining skip f).drain = .ok (slice remaining skip rs) := by
  induction f generalizing remaining skip rs with
  | done =>
      simp only [drain_done, Except.ok.injEq] at h
      subst h
      cases remaining <;> simp [limit]
  | fail e => simp at h
  | batch rows rest ih =>
      obtain ⟨tail, hrest, rfl⟩ := drain_batch_eq_ok h
      by_cases h0 : remaining = some 0
      · subst h0
        simp [limit]
      by_cases hs : 0 < skip ∧ rows.length ≤ skip
      · rw [limit_batch_of_le remaining skip rows rest h0 hs, ih _ _ hrest,
          slice_append_of_length_le remaining skip hs.2]
      · rw [limit_batch_of_lt remaining skip rows rest h0 hs, drain_batch, ih _ _ hrest,
          slice_append remaining skip (by omega)]
        rfl

/-- Under a limit of zero, nothing is read: the run stops before the first batch. -/
theorem stopped_of_some_zero (f : Feed) :
    ∃ n k rs, some 0 = some n ∧ (f.upTo k).drain = .ok rs ∧
      (slice (some 0) skip rs).length = n ∧
      (limit (some 0) skip f).drain = .ok (slice (some 0) skip rs) :=
  ⟨0, 0, [], rfl, by simp, by simp, by simp [limit_some_zero]⟩

/-- A limit hands out the window of all its rows, or it stopped pulling after the window of
the rows of its first batches. -/
theorem drain_limit (f : Feed) :
    (limit remaining skip f).drain = f.drain.map (slice remaining skip) ∨
      ∃ n k rs, remaining = some n ∧ (f.upTo k).drain = .ok rs ∧
        (slice remaining skip rs).length = n ∧
        (limit remaining skip f).drain = .ok (slice remaining skip rs) := by
  induction f generalizing remaining skip with
  | done => left; cases remaining <;> simp [limit, Except.map]
  | fail e =>
      by_cases h0 : remaining = some 0
      · subst h0
        exact .inr (stopped_of_some_zero skip _)
      · left
        rw [limit_fail_of_ne remaining skip e h0]
        rfl
  | batch rows rest ih =>
      by_cases h0 : remaining = some 0
      · subst h0
        exact .inr (stopped_of_some_zero skip _)
      by_cases hs : 0 < skip ∧ rows.length ≤ skip
      · rw [limit_batch_of_le remaining skip rows rest h0 hs]
        rcases ih remaining (skip - rows.length) with hall | ⟨n, k, rs, hn, hk, hlen, hout⟩
        · left
          rw [hall, drain_batch]
          cases drain rest <;> simp [Except.map, slice_append_of_length_le remaining skip hs.2]
        · right
          refine ⟨n, k + 1, rows ++ rs, hn, by simp [upTo, hk, Except.map], ?_, ?_⟩
          · rw [slice_append_of_length_le remaining skip hs.2, hlen]
          · rw [hout, slice_append_of_length_le remaining skip hs.2]
      · have hle : skip ≤ rows.length := by omega
        rw [limit_batch_of_lt remaining skip rows rest h0 hs, drain_batch]
        rcases ih (remaining.map (· - (slice remaining skip rows).length)) 0 with
          hall | ⟨n', k, rs, hn', hk, hlen, hout⟩
        · left
          rw [hall, drain_batch]
          cases drain rest <;> simp [Except.map, slice_append remaining skip hle]
        · right
          obtain ⟨n, rfl⟩ : ∃ n, remaining = some n := by
            cases remaining with
            | none => simp at hn'
            | some n => exact ⟨n, rfl⟩
          simp only [Option.map_some, Option.some.injEq] at hn'
          have hfirst := length_slice_le skip n rows
          refine ⟨n, k + 1, rows ++ rs, rfl, by simp [upTo, hk, Except.map], ?_, ?_⟩
          · rw [slice_append _ skip hle, List.length_append, hlen, ← hn']
            omega
          · rw [hout, slice_append _ skip hle]
            rfl

end Limit

/-! ## The first batches of a feed -/

/-- The first batches of a feed that ends normally hand out a prefix of its rows. -/
theorem drain_upTo_of_drain_eq_ok {f : Feed} {rs : List Row} (h : f.drain = .ok rs) (k : Nat) :
    ∃ pre, pre <+: rs ∧ (f.upTo k).drain = .ok pre := by
  induction f generalizing rs k with
  | done => exact ⟨[], List.nil_prefix, by cases k <;> rfl⟩
  | fail e => simp at h
  | batch rows rest ih =>
      obtain ⟨tail, hrest, rfl⟩ := drain_batch_eq_ok h
      cases k with
      | zero => exact ⟨[], List.nil_prefix, rfl⟩
      | succ k =>
          obtain ⟨pre, hpre, hk⟩ := ih hrest k
          exact ⟨rows ++ pre, List.prefix_append_right_inj rows |>.mpr hpre,
            by simp [upTo, hk, Except.map]⟩

/-- A materialized result is one batch: cut, it is all of it or nothing. -/
theorem upTo_ofResult (r : Except Error (List Row)) (k : Nat) :
    (ofResult r).upTo k = .done ∨ (ofResult r).upTo k = ofResult r := by
  cases k with
  | zero => exact .inl (upTo_zero _)
  | succ k =>
      right
      cases r with
      | error e => rfl
      | ok rows =>
          cases rows with
          | nil => rfl
          | cons row rows => cases k <;> rfl

theorem upTo_map (g : Row → Row) (f : Feed) (k : Nat) : (map g f).upTo k = map g (f.upTo k) := by
  induction f generalizing k with
  | done => cases k <;> rfl
  | fail e => cases k <;> rfl
  | batch rows rest ih =>
      cases k with
      | zero => rfl
      | succ k => simp [map, upTo, ih]

/-- The first batches a filter hands out are the filter of the first batches it read. -/
theorem upTo_filter (ps : List Predicate) (table : Option String) (keep : Bool) (f : Feed) (k : Nat) :
    ∃ k', (filter ps table keep f).upTo k = filter ps table keep (f.upTo k') := by
  induction f generalizing k with
  | done => exact ⟨0, by cases k <;> rfl⟩
  | fail e =>
      cases k with
      | zero => exact ⟨0, rfl⟩
      | succ k => exact ⟨1, rfl⟩
  | batch rows rest ih =>
      cases hrows : filterRows ps table keep rows with
      | error e =>
          cases k with
          | zero => exact ⟨0, by simp [filter]⟩
          | succ k => exact ⟨1, by simp [filter, upTo, hrows]⟩
      | ok kept =>
          cases kept with
          | nil =>
              obtain ⟨k', hk'⟩ := ih k
              exact ⟨k' + 1, by simp [filter, upTo, hrows, hk']⟩
          | cons row kept =>
              cases k with
              | zero => exact ⟨0, by simp [filter]⟩
              | succ k =>
                  obtain ⟨k', hk'⟩ := ih k
                  exact ⟨k' + 1, by simp [filter, upTo, hrows, hk']⟩

/-- The first batches distinct hands out are distinct over the first batches it read. -/
theorem upTo_distinct (seen : List (List Value)) (f : Feed) (k : Nat) :
    ∃ k', (distinct seen f).upTo k = distinct seen (f.upTo k') := by
  induction f generalizing seen k with
  | done => exact ⟨0, by cases k <;> rfl⟩
  | fail e =>
      cases k with
      | zero => exact ⟨0, rfl⟩
      | succ k => exact ⟨1, rfl⟩
  | batch rows rest ih =>
      simp only [distinct, foldl_firstOf, List.nil_append]
      split
      · next hnil =>
          obtain ⟨k', hk'⟩ := ih (seen ++ (firstOf seen rows).map Row.values) k
          exact ⟨k' + 1, by simp [upTo, distinct, foldl_firstOf, hnil, hk']⟩
      · next hne =>
          cases k with
          | zero => exact ⟨0, by simp [distinct]⟩
          | succ k =>
              obtain ⟨k', hk'⟩ := ih (seen ++ (firstOf seen rows).map Row.values) k
              exact ⟨k' + 1, by simp [upTo, distinct, foldl_firstOf, hne, hk']⟩

/-! ## Feeds handed out at once -/

/-- A feed that hands out all its rows at its first pull: cut anywhere, it is whole or
nothing. Materialized results are such feeds, and streaming operators keep them so. -/
def Whole (f : Feed) : Prop := ∀ k, f.upTo k = .done ∨ f.upTo k = f

theorem whole_ofResult (r : Except Error (List Row)) : Whole (ofResult r) :=
  upTo_ofResult r

theorem Whole.map {f : Feed} (h : Whole f) (g : Row → Row) : Whole (map g f) := by
  intro k
  rw [upTo_map]
  rcases h k with hk | hk
  · exact .inl (by rw [hk]; rfl)
  · exact .inr (by rw [hk])

theorem Whole.filter {f : Feed} (h : Whole f) (ps : List Predicate) (table : Option String)
    (keep : Bool) : Whole (filter ps table keep f) := by
  intro k
  obtain ⟨k', hk'⟩ := upTo_filter ps table keep f k
  rw [hk']
  rcases h k' with hk | hk
  · exact .inl (by rw [hk]; rfl)
  · exact .inr (by rw [hk])

theorem Whole.distinct {f : Feed} (h : Whole f) (seen : List (List Value)) :
    Whole (distinct seen f) := by
  intro k
  obtain ⟨k', hk'⟩ := upTo_distinct seen f k
  rw [hk']
  rcases h k' with hk | hk
  · exact .inl (by rw [hk]; rfl)
  · exact .inr (by rw [hk])

/-- A cut of a whole feed that fails hands out no rows. -/
theorem Whole.drain_upTo {f : Feed} (h : Whole f) {e : Error} (he : f.drain = .error e)
    {k : Nat} {rs : List Row} (hk : (f.upTo k).drain = .ok rs) : rs = [] := by
  rcases h k with hcut | hcut
  · rw [hcut] at hk
    simpa using hk.symm
  · rw [hcut, he] at hk
    cases hk

end Feed

end Tabula
