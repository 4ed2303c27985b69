import Tabula.Engine
import Tabula.Proofs.Answer

/-!
# Batch sizes

Two runs of a query at two batch sizes agree whenever both succeed or both fail
(`executeQuery_batchSize`).
-/

namespace Tabula

namespace Feed

/-- Once a window is full, more rows after it change nothing. -/
theorem slice_append_of_length_eq {n skip : Nat} {rows : List Row}
    (h : (slice (some n) skip rows).length = n) (tail : List Row) :
    slice (some n) skip (rows ++ tail) = slice (some n) skip rows := by
  simp only [slice, List.drop_append, List.take_append] at h ⊢
  have hlen : n - (List.drop skip rows).length = 0 := by
    simp only [List.length_take] at h
    omega
  rw [hlen, List.take_zero, List.append_nil]

end Feed

namespace Query

variable (q : Query) (joined : Option (List Row))

theorem present_append (rows tail : List Row) :
    ∃ more, q.present (rows ++ tail) = q.present rows ++ more := by
  let project := projectRow q.items (some q.table) (Plan.wildcardTables q)
  unfold present
  cases q.distinct with
  | false => exact ⟨tail.map project, by simp [project]⟩
  | true =>
      exact ⟨Feed.firstOf ((Feed.firstOf [] (rows.map project)).map Row.values) (tail.map project),
        by simp [project, Feed.firstOf_append]⟩

/-- On a streaming query the answer windows the presented rows the conditions keep. -/
theorem answer_of_streams (hs : q.Streams) (main : List Row) :
    q.answer main joined =
      (Feed.filterRows (q.conditions.map Predicate.compile) (some q.table) true main).map
        fun rows => q.window (q.present rows) := by
  obtain ⟨hj, hg, hb, hkeys⟩ := hs
  have horder : ∀ rows, q.order rows = rows := fun rows => by simp [order, hkeys, sortRows]
  cases h : Feed.filterRows (q.conditions.map Predicate.compile) (some q.table) true main <;>
    simp [answer, kept, source, hj, h, finish, hg, hb, horder, Except.bind, Except.map]

/-- On a streaming query, the answers over two prefixes of a table agree once the shorter
one fills the limit. -/
theorem answer_eq_of_prefix (hs : q.Streams) {n : Nat} (hn : q.limit = some n)
    {pre₁ pre₂ : List Row} (hpre : pre₁ <+: pre₂) {rs₁ rs₂ : List Row}
    (h₁ : q.answer pre₁ joined = .ok rs₁) (hlen : rs₁.length = n)
    (h₂ : q.answer pre₂ joined = .ok rs₂) : rs₁ = rs₂ := by
  obtain ⟨more, rfl⟩ := hpre
  rw [answer_of_streams q joined hs] at h₁ h₂
  rw [Feed.filterRows_append] at h₂
  cases hk₁ : Feed.filterRows (q.conditions.map Predicate.compile) (some q.table) true pre₁ with
  | error e => rw [hk₁] at h₁; cases h₁
  | ok kept₁ =>
      cases hk : Feed.filterRows (q.conditions.map Predicate.compile) (some q.table) true more with
      | error e => rw [hk₁, hk] at h₂; cases h₂
      | ok kept =>
          rw [hk₁] at h₁
          rw [hk₁, hk] at h₂
          simp only [Except.map, Except.ok.injEq, window, hn] at h₁
          simp only [Except.bind, Except.map, Except.ok.injEq, window, hn] at h₂
          obtain ⟨extra, hextra⟩ := q.present_append kept₁ kept
          have hfull : (Feed.slice (some n) q.offset (q.present kept₁)).length = n := by
            rw [h₁]
            exact hlen
          rw [← h₁, ← h₂, hextra, Feed.slice_append_of_length_eq hfull]

/-- Two sets of rows at which a plan's limit stopped are the same rows. -/
theorem StoppedAtLimit.eq {main rs₁ rs₂ : List Row} (h₁ : q.StoppedAtLimit main joined rs₁)
    (h₂ : q.StoppedAtLimit main joined rs₂) : rs₁ = rs₂ := by
  have hlen : rs₁.length = rs₂.length := by
    have h := h₁.limit_eq.symm.trans h₂.limit_eq
    simpa using h
  rcases h₁.answer_prefix with rfl | ⟨hs, pre₁, hpre₁, ha₁⟩
  · exact (List.eq_nil_of_length_eq_zero hlen.symm).symm
  rcases h₂.answer_prefix with rfl | ⟨-, pre₂, hpre₂, ha₂⟩
  · exact List.eq_nil_of_length_eq_zero hlen
  rcases List.prefix_or_prefix_of_prefix hpre₁ hpre₂ with hle | hle
  · exact q.answer_eq_of_prefix joined hs h₁.limit_eq hle ha₁ rfl ha₂
  · exact (q.answer_eq_of_prefix joined hs h₂.limit_eq hle ha₂ rfl ha₁).symm

end Query

namespace Plan

variable (q : Query) (main : List Row) (joined : Option (List Row))

theorem select_eq_limitFeed (size : Nat) (hg : q.isGlobalAggregate = false) :
    ∃ f, select size q main joined = limitFeed q f := by
  cases hb : q.groupBy with
  | some groupBy =>
      exact ⟨sortFeed q (Feed.ofResult ((filtered size q main joined).drain.map fun rows =>
          if groupBy.isEmpty then [aggregateAll q.aggregates (some q.table) rows]
          else aggregateGroups groupBy q.aggregates (some q.table) rows)),
        by simp [select, hg, hb]⟩
  | none => exact ⟨project q (sortFeed q (filtered size q main joined)), by simp [select, hg, hb]⟩

/-- Under `LIMIT 0` a plan reads nothing and hands out nothing. -/
theorem drain_select_of_limit_zero (size : Nat) (hz : q.limit = some 0)
    (hg : q.isGlobalAggregate = false) : (select size q main joined).drain = .ok [] := by
  obtain ⟨f, hf⟩ := select_eq_limitFeed q main joined size hg
  simp [hf, limitFeed, hz, Feed.limit_some_zero]

/-- A plan stopped by its limit while a run at another batch size fails streams its rows
to a positive limit. -/
theorem streams_of_stopped {rs : List Row} (hst : q.StoppedAtLimit main joined rs)
    {size : Nat} {e : Error} (he : (select size q main joined).drain = .error e) :
    q.Streams ∧ ∃ n, q.limit = some (n + 1) := by
  have hne : rs ≠ [] := by
    rintro rfl
    rw [drain_select_of_limit_zero q main joined size hst.limit_eq hst.not_global] at he
    cases he
  rcases hst.answer_prefix with hnil | ⟨hs, -⟩
  · exact absurd hnil hne
  · obtain ⟨n, hn⟩ := Nat.exists_eq_succ_of_ne_zero (mt List.eq_nil_of_length_eq_zero hne)
    exact ⟨hs, n, by rw [hst.limit_eq, hn]⟩

/-- Runs of a plan at two batch sizes give the same result, unless one succeeds and the
other fails, on a plan that streams to a positive limit. -/
theorem select_drains_eq_or_stopped (size₁ size₂ : Nat) :
    (select size₁ q main joined).drain = (select size₂ q main joined).drain ∨
      (select size₁ q main joined).drain.toBool ≠ (select size₂ q main joined).drain.toBool ∧
        q.Streams ∧ ∃ n, q.limit = some (n + 1) := by
  obtain ⟨hok₁, herr₁⟩ := refinedBy_select size₁ q main joined
  obtain ⟨hok₂, herr₂⟩ := refinedBy_select size₂ q main joined
  cases ha : q.answer main joined with
  | ok rs => exact .inl ((hok₁ rs ha).trans (hok₂ rs ha).symm)
  | error e =>
      rcases herr₁ e ha with h₁ | ⟨rs₁, h₁, hst₁⟩ <;>
        rcases herr₂ e ha with h₂ | ⟨rs₂, h₂, hst₂⟩
      · exact .inl (h₁.trans h₂.symm)
      · exact .inr ⟨by simp [h₁, h₂, Except.toBool], streams_of_stopped q main joined hst₂ h₁⟩
      · exact .inr ⟨by simp [h₁, h₂, Except.toBool], streams_of_stopped q main joined hst₁ h₂⟩
      · exact .inl (by rw [h₁, h₂, hst₁.eq q joined hst₂])

/-- Runs of a plan at two batch sizes agree whenever both succeed or both fail, and
disagree only on a plan that streams to a positive limit. -/
theorem select_drains_agree (size₁ size₂ : Nat) :
    ((select size₁ q main joined).drain.toBool = (select size₂ q main joined).drain.toBool →
        (select size₁ q main joined).drain = (select size₂ q main joined).drain) ∧
      ((select size₁ q main joined).drain ≠ (select size₂ q main joined).drain →
        q.Streams ∧ ∃ n, q.limit = some (n + 1)) := by
  rcases select_drains_eq_or_stopped q main joined size₁ size₂ with hsame | ⟨hdiffer, hstreams⟩
  · exact ⟨fun _ => hsame, fun hne => absurd hsame hne⟩
  · exact ⟨fun hbool => absurd hbool hdiffer, fun _ => hstreams⟩

end Plan

namespace Database

/-- The database run with another batch size. -/
def withBatchSize (db : Database) (size : Nat) : Database :=
  { db with config := { db.config with batchSize := size } }

/-- A run of a query loads its tables the same way at every batch size. -/
theorem runQuery_withBatchSize (db : Database) (q : Query) :
    ∃ input : Except Error (List Row × Option (List Row)), ∀ size,
      (db.withBatchSize size).runQuery q = input.bind fun p => (Plan.select size q p.1 p.2).drain := by
  cases hm : db.store.load q.table with
  | error e => exact ⟨.error e, fun size => by simp [runQuery, withBatchSize, hm, bind, Except.bind]⟩
  | ok main =>
      cases hj : q.join with
      | none =>
          exact ⟨.ok (main, none), fun size => by
            simp [runQuery, withBatchSize, hm, hj, bind, Except.bind, pure, Except.pure]⟩
      | some j =>
          cases hr : db.store.load j.table with
          | error e =>
              exact ⟨.error e, fun size => by
                simp [runQuery, withBatchSize, hm, hj, hr, bind, Except.bind, Functor.map,
                  Except.map]⟩
          | ok rows =>
              exact ⟨.ok (main, some rows), fun size => by
                simp [runQuery, withBatchSize, hm, hj, hr, bind, Except.bind, Functor.map,
                  Except.map]⟩

theorem toBool_wrapped (r : Except Error (List Row)) : (wrapped r).toBool = r.toBool := by
  cases r <;> rfl

/-- Two runs of a query at two batch sizes that both succeed, or both fail, agree; they can
differ only when the plan streams from the scan to a positive limit. -/
theorem executeQuery_batchSize (db : Database) (q : Query) (size₁ size₂ : Nat) :
    (((db.withBatchSize size₁).executeQuery q).toBool =
        ((db.withBatchSize size₂).executeQuery q).toBool →
      (db.withBatchSize size₁).executeQuery q = (db.withBatchSize size₂).executeQuery q) ∧
    ((db.withBatchSize size₁).executeQuery q ≠ (db.withBatchSize size₂).executeQuery q →
      q.Streams ∧ ∃ n, q.limit = some (n + 1)) := by
  obtain ⟨input, hinput⟩ := runQuery_withBatchSize db q
  simp only [executeQuery, hinput]
  cases input with
  | error e => exact ⟨fun _ => rfl, fun hne => absurd rfl hne⟩
  | ok p =>
      obtain ⟨hagree, hdiffer⟩ := Plan.select_drains_agree q p.1 p.2 size₁ size₂
      refine ⟨fun hb => ?_, fun hne => hdiffer fun hsame => hne ?_⟩
      · simp only [Except.bind, toBool_wrapped] at hb ⊢
        rw [hagree hb]
      · simp only [Except.bind]
        rw [hsame]

/-- A limit of one over a table whose second row lacks the field the condition reads:
batches of one row succeed, batches of two fail. -/
theorem executeQuery_stops_before_invalid_row :
    let db : Database := { store := .memory [("t", [Row.ofPairs [("k", .text "x")],
      Row.ofPairs [("z", .text "y")]])], config := {} }
    let q : Query :=
      { items := [.wildcard], table := "t", conditions := [⟨"k", .eq, .text "x"⟩], limit := some 1 }
    (db.withBatchSize 1).executeQuery q = .ok [Row.ofPairs [("k", .text "x")]] ∧
      (db.withBatchSize 2).executeQuery q = .error (.queryExecution (.invalidField "k")) := by
  constructor <;> rfl

end Database

end Tabula
