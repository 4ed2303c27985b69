import Tabula.Proofs.Feed

/-!
# LIMIT and OFFSET across batches

A limit hands out its window of the rows and pulls no batch after the one that fills it
(`Feed.limit_window_stops_at_count`).
-/

namespace Tabula

namespace Feed

/-- The batches `bs`, handed out one per pull, then whatever `tail` hands out. Every feed
that ends normally is `ofBatches bs .done` for the list `bs` of its batches. -/
def ofBatches (bs : List (List Row)) (tail : Feed) : Feed :=
  bs.foldr .batch tail

@[simp] theorem ofBatches_nil (tail : Feed) : ofBatches [] tail = tail := rfl

@[simp] theorem ofBatches_cons (rows : List Row) (bs : List (List Row)) (tail : Feed) :
    ofBatches (rows :: bs) tail = .batch rows (ofBatches bs tail) := rfl

theorem ofBatches_append (pre post : List (List Row)) (tail : Feed) :
    ofBatches (pre ++ post) tail = ofBatches pre (ofBatches post tail) := by
  simp [ofBatches, List.foldr_append]

/-- Batches that end normally hand out their rows, in order. -/
@[simp] theorem drain_ofBatches_done (bs : List (List Row)) :
    (ofBatches bs .done).drain = .ok bs.flatten := by
  induction bs with
  | nil => rfl
  | cons rows bs ih => simp [ih, Except.map]

theorem length_slice_some (n skip : Nat) (rows : List Row) :
    (slice (some n) skip rows).length = min n (rows.length - skip) := by
  simp [slice]

/-- Once the batches it pulls hold the offset and the whole count, a limit pulls no
further batch: what follows them is never read. -/
theorem limit_ofBatches_tail (c skip : Nat) (pre : List (List Row)) (tail tail' : Feed)
    (hfull : skip + c ≤ pre.flatten.length) :
    limit (some c) skip (ofBatches pre tail) = limit (some c) skip (ofBatches pre tail') := by
  induction pre generalizing c skip with
  | nil =>
      have hc : c = 0 := by
        simp only [List.flatten_nil, List.length_nil] at hfull
        omega
      subst hc
      rw [limit_some_zero, limit_some_zero]
  | cons rows pre ih =>
      by_cases hc : c = 0
      · subst hc
        rw [limit_some_zero, limit_some_zero]
      have h0 : some c ≠ some 0 := by simpa using hc
      have hlen : skip + c ≤ rows.length + pre.flatten.length := by
        simpa using hfull
      by_cases hs : 0 < skip ∧ rows.length ≤ skip
      · rw [ofBatches_cons, ofBatches_cons, limit_batch_of_le _ skip rows _ h0 hs,
          limit_batch_of_le _ skip rows _ h0 hs]
        exact ih c (skip - rows.length) (by omega)
      · rw [ofBatches_cons, ofBatches_cons, limit_batch_of_lt _ skip rows _ h0 hs,
          limit_batch_of_lt _ skip rows _ h0 hs, Option.map_some]
        have hrest : 0 + (c - (slice (some c) skip rows).length) ≤ pre.flatten.length := by
          rw [length_slice_some]
          omega
        rw [ih _ 0 hrest]

/-- A limit over the batches `bs` hands out `take count (drop offset rows)`, reads no batch
past the first `j` once they fill the window, and none under a count of zero. -/
theorem limit_window_stops_at_count (count : Option Nat) (offset : Nat)
    (bs : List (List Row)) :
    (limit count offset (ofBatches bs .done)).drain = .ok (slice count offset bs.flatten) ∧
      (∀ c j, count = some c → offset + c ≤ (bs.take j).flatten.length → ∀ tail,
        limit count offset (ofBatches (bs.take j) tail) = limit count offset (ofBatches bs .done)) ∧
      (count = some 0 → ∀ input, limit count offset input = .done) := by
  refine ⟨drain_limit_of_drain_eq_ok count offset (drain_ofBatches_done bs), ?_, ?_⟩
  · rintro c j rfl hfull tail
    have hsplit : ofBatches bs .done = ofBatches (bs.take j) (ofBatches (bs.drop j) .done) := by
      rw [← ofBatches_append, List.take_append_drop]
    rw [hsplit]
    exact limit_ofBatches_tail c offset _ tail _ hfull
  · rintro rfl input
    exact limit_some_zero offset input

/-- Five rows in batches of two, one and two, with an empty batch, under LIMIT 2 OFFSET 1:
the first two batches fill the window, so a failure in place of the rest is never raised. -/
theorem limit_window_stops_at_count_failing_tail :
    1 + 2 ≤ ([[Row.ofPairs [("n", .text "0")], Row.ofPairs [("n", .text "1")]],
        [Row.ofPairs [("n", .text "2")]], [],
        [Row.ofPairs [("n", .text "3")], Row.ofPairs [("n", .text "4")]]].take 2).flatten.length ∧
      limit (some 2) 1 (ofBatches
        ([[Row.ofPairs [("n", .text "0")], Row.ofPairs [("n", .text "1")]],
          [Row.ofPairs [("n", .text "2")]], [],
          [Row.ofPairs [("n", .text "3")], Row.ofPairs [("n", .text "4")]]].take 2)
        (.fail (.invalidField "n"))) =
        limit (some 2) 1 (ofBatches
          [[Row.ofPairs [("n", .text "0")], Row.ofPairs [("n", .text "1")]],
            [Row.ofPairs [("n", .text "2")]], [],
            [Row.ofPairs [("n", .text "3")], Row.ofPairs [("n", .text "4")]]] .done) :=
  ⟨by decide, (limit_window_stops_at_count (some 2) 1 _).2.1 2 2 rfl (by decide) _⟩

end Feed

end Tabula
