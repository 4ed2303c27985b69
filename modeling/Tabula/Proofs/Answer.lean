import Tabula.Plan
import Tabula.Proofs.Feed

/-!
# The answer of a query

A plan hands out the rows of `Query.answer`, whatever the batch size, unless its limit
stopped pulling before a failing row (`drain_select_refines_answer`).
-/

namespace Tabula

/-! ## Projecting a whole row -/

namespace Row

@[simp] theorem fields_empty : Row.empty.fields = [] := rfl

theorem ext_fields {r s : Row} (h : r.fields = s.fields) : r = s := by
  cases r
  cases s
  simp only at h
  subst h
  rfl

theorem setCell_of_not_mem {name : String} (v : Value) {cells : List (String × Value)}
    (h : name ∉ cells.map (·.1)) : setCell name v cells = cells ++ [(name, v)] := by
  induction cells with
  | nil => rfl
  | cons c cells ih =>
      obtain ⟨k, w⟩ := c
      have hk : (k == name) = false := by
        simp only [List.map_cons, List.mem_cons, not_or] at h
        simpa using Ne.symm h.1
      simp only [setCell, hk, Bool.false_eq_true, ite_false, List.cons_append]
      rw [ih (by simp_all)]

/-- Writing cells of new names one by one appends them. -/
theorem fields_foldl_insert (cells : List (String × Value)) (acc : Row)
    (h : ((acc.fields ++ cells).map (·.1)).Nodup) :
    (cells.foldl (fun o p => o.insert p.1 p.2) acc).fields = acc.fields ++ cells := by
  induction cells generalizing acc with
  | nil => simp
  | cons c cells ih =>
      have hfresh : c.1 ∉ acc.fields.map (·.1) := by
        intro hmem
        simp only [List.map_append, List.map_cons, List.nodup_append, List.mem_cons] at h
        exact h.2.2 c.1 hmem c.1 (.inl rfl) rfl
      have hinsert : (acc.insert c.1 c.2).fields = acc.fields ++ [c] := by
        simp [insert, setCell_of_not_mem c.2 hfresh]
      rw [List.foldl_cons, ih _ (by rw [hinsert]; simpa using h), hinsert]
      simp

end Row

/-- A lone wildcard over all fields copies a row as it is. -/
theorem projectRow_of_projectsIdentity {items : List SelectItem} {tables : List String}
    (h : projectsIdentity items tables = true) (table : Option String) (row : Row) :
    projectRow items table tables row = row := by
  simp only [projectsIdentity, Bool.and_eq_true, List.isEmpty_iff, beq_iff_eq] at h
  obtain ⟨rfl, rfl⟩ := h
  apply Row.ext_fields
  simp only [projectRow, List.foldl_cons, List.foldl_nil, List.isEmpty_nil, Bool.true_or,
    ite_true]
  simpa using Row.fields_foldl_insert row.fields Row.empty (by simpa using row.nodup)

/-! ## What a query means on lists of rows -/

namespace Query

/-- The rows a query reads: its table's rows, or their join with the joined table's rows. -/
def source (q : Query) (main : List Row) (joined : Option (List Row)) :
    Except Error (List Row) :=
  match q.join with
  | none => .ok main
  | some j => joinRows j.kind (Plan.joinContext q j) main (joined.getD [])

/-- The rows read that meet every condition, or the error of the first row that raises one. -/
def kept (q : Query) (main : List Row) (joined : Option (List Row)) : Except Error (List Row) :=
  (q.source main joined).bind
    (Feed.filterRows (q.conditions.map Predicate.compile) (some q.table) true)

/-- Rows in the order of the query's ORDER BY; without one they stay as they are. -/
def order (q : Query) (rows : List Row) : List Row :=
  sortRows (q.orderBy.getD []) (some q.table) rows

/-- The rows of the window of LIMIT and OFFSET. -/
def window (q : Query) (rows : List Row) : List Row :=
  Feed.slice q.limit q.offset rows

/-- Rows projected onto the select list, the first of each under DISTINCT. -/
def present (q : Query) (rows : List Row) : List Row :=
  let projected := rows.map (projectRow q.items (some q.table) (Plan.wildcardTables q))
  if q.distinct then Feed.firstOf [] projected else projected

/-- What a query makes of the rows it kept: one aggregate row; or the groups, ordered and
windowed; or the rows ordered, presented and windowed. -/
def finish (q : Query) (rows : List Row) : List Row :=
  let table := some q.table
  if q.isGlobalAggregate then [aggregateAll q.aggregates table rows]
  else match q.groupBy with
    | some groupBy =>
      q.window (q.order (if groupBy.isEmpty then [aggregateAll q.aggregates table rows]
        else aggregateGroups groupBy q.aggregates table rows))
    | none => q.window (q.present (q.order rows))

/-- The answer of a query over the rows of its table and of its joined table. -/
def answer (q : Query) (main : List Row) (joined : Option (List Row)) : Except Error (List Row) :=
  (q.kept main joined).map q.finish

/-- A query whose plan streams rows from the scan of its table to its limit: no join,
aggregate, grouping or ordering gathers them on the way. -/
def Streams (q : Query) : Prop :=
  q.join = none ∧ q.isGlobalAggregate = false ∧ q.groupBy = none ∧ q.orderBy.getD [] = []

instance (q : Query) : Decidable q.Streams :=
  inferInstanceAs (Decidable
    (q.join = none ∧ q.isGlobalAggregate = false ∧ q.groupBy = none ∧ q.orderBy.getD [] = []))

/-- Rows a plan hands out after its limit stopped it: as many as the limit allows, and on a
plan that streams, the answer over the first rows of the table. -/
structure StoppedAtLimit (q : Query) (main : List Row) (joined : Option (List Row))
    (rs : List Row) : Prop where
  limit_eq : q.limit = some rs.length
  not_global : q.isGlobalAggregate = false
  answer_prefix : rs = [] ∨ q.Streams ∧ ∃ pre, pre <+: main ∧ q.answer pre joined = .ok rs

end Query

/-! ## The stages of a plan -/

namespace Plan

variable (size : Nat) (q : Query) (main : List Row) (joined : Option (List Row))

theorem drain_source : (source size q main joined).drain = q.source main joined := by
  cases hj : q.join with
  | none => simp [source, Query.source, hj]
  | some j => simp [source, Query.source, hj, Feed.drain_ofResult, bind, Except.bind]

theorem drain_filtered : (filtered size q main joined).drain = q.kept main joined := by
  by_cases hc : q.conditions.isEmpty = true
  · have hnil : q.conditions = [] := List.isEmpty_iff.mp hc
    cases hs : q.source main joined with
    | error e => simp [filtered, hc, drain_source, Query.kept, hs, Except.bind]
    | ok rows =>
        simp [filtered, drain_source, Query.kept, hs, hnil, Except.bind, Feed.filterRows_nil]
  · cases hj : q.join with
    | none =>
        have hscan : (source size q main joined).drain = .ok main := by
          simp [drain_source, Query.source, hj]
        simp only [filtered, hc, Bool.false_eq_true, ite_false,
          Feed.drain_filter_of_drain_eq_ok _ _ _ hscan]
        simp [Query.kept, Query.source, hj, Except.bind]
    | some j =>
        simp only [filtered, hc, Bool.false_eq_true, ite_false, source, hj,
          Feed.drain_filter_ofResult]
        simp [Query.kept, Query.source, hj, bind, Except.bind]

theorem drain_sortFeed (f : Feed) : (sortFeed q f).drain = f.drain.map q.order := by
  have hid : ∀ rows : List Row, sortRows [] (some q.table) rows = rows := fun _ => rfl
  cases hf : f.drain with
  | error e =>
      cases h : q.orderBy with
      | none => simp [sortFeed, h, hf, Except.map]
      | some keys =>
          cases keys with
          | nil => simp [sortFeed, h, hf, Except.map]
          | cons k ks => simp [sortFeed, h, hf, Feed.drain_ofResult, Except.map]
  | ok rows =>
      cases h : q.orderBy with
      | none => simp [sortFeed, Query.order, h, hf, hid, Except.map]
      | some keys =>
          cases keys with
          | nil => simp [sortFeed, Query.order, h, hf, hid, Except.map]
          | cons k ks => simp [sortFeed, Query.order, h, hf, Feed.drain_ofResult, Except.map]

theorem drain_project (f : Feed) : (project q f).drain = f.drain.map q.present := by
  unfold project Query.present
  by_cases hid : projectsIdentity q.items (wildcardTables q) = true
  · have hmap : ∀ rows : List Row,
        rows.map (projectRow q.items (some q.table) (wildcardTables q)) = rows := fun rows =>
      List.map_id'' (projectRow_of_projectsIdentity hid _) rows
    cases hd : q.distinct <;> cases hf : f.drain <;>
      simp [hid, hf, hmap, Feed.drain_distinct, Except.map]
  · cases hd : q.distinct <;> cases hf : f.drain <;>
      simp [hid, hf, Feed.drain_distinct, Except.map]

theorem drain_limitFeed_of_drain_eq_ok {f : Feed} {rs : List Row} (h : f.drain = .ok rs) :
    (limitFeed q f).drain = .ok (q.window rs) := by
  unfold limitFeed Query.window
  split
  · next hnone =>
      simp only [Bool.and_eq_true, Option.isNone_iff_eq_none, beq_iff_eq] at hnone
      simp [h, hnone, Feed.slice]
  · exact Feed.drain_limit_of_drain_eq_ok _ _ h

theorem drain_limitFeed (f : Feed) :
    (limitFeed q f).drain = f.drain.map q.window ∨
      ∃ n k rs, q.limit = some n ∧ (f.upTo k).drain = .ok rs ∧ (q.window rs).length = n ∧
        (limitFeed q f).drain = .ok (q.window rs) := by
  unfold limitFeed Query.window
  split
  · next hnone =>
      simp only [Bool.and_eq_true, Option.isNone_iff_eq_none, beq_iff_eq] at hnone
      left
      cases hf : f.drain <;> simp [hnone, Feed.slice, Except.map]
  · exact Feed.drain_limit _ _ f

theorem whole_filtered_of_join {j : JoinSpec} (hj : q.join = some j) :
    (filtered size q main joined).Whole := by
  have hsource : (source size q main joined).Whole := by
    simp only [source, hj]
    exact Feed.whole_ofResult _
  unfold filtered
  split
  · exact hsource
  · exact hsource.filter _ _ _

theorem whole_sortFeed_of_ordered {keys : List SortKey} (hk : q.orderBy.getD [] = keys)
    (hne : keys ≠ []) (f : Feed) : (sortFeed q f).Whole := by
  cases h : q.orderBy with
  | none => simp [h] at hk; exact absurd hk hne
  | some ks =>
      simp only [h, Option.getD_some] at hk
      subst hk
      cases ks with
      | nil => exact absurd rfl hne
      | cons k ks =>
          simp only [sortFeed, h]
          exact Feed.whole_ofResult _

theorem whole_project {f : Feed} (h : f.Whole) : (project q f).Whole := by
  by_cases hid : projectsIdentity q.items (wildcardTables q) = true <;>
    by_cases hd : q.distinct = true
  · simpa [project, hid, hd] using h.distinct []
  · simpa [project, hid, hd] using h
  · simpa [project, hid, hd] using (h.map _).distinct []
  · simpa [project, hid, hd] using h.map _

theorem sortFeed_of_unordered (h : q.orderBy.getD [] = []) (f : Feed) : sortFeed q f = f := by
  cases hq : q.orderBy with
  | none => simp [sortFeed, hq]
  | some keys =>
      simp only [hq, Option.getD_some] at h
      simp [sortFeed, hq, h]

theorem upTo_project (f : Feed) (k : Nat) : ∃ k', (project q f).upTo k = project q (f.upTo k') := by
  unfold project
  by_cases hid : projectsIdentity q.items (wildcardTables q) = true
  · by_cases hd : q.distinct = true
    · obtain ⟨k', hk'⟩ := Feed.upTo_distinct [] f k
      exact ⟨k', by simp [hid, hd, hk']⟩
    · exact ⟨k, by simp [hid, hd]⟩
  · by_cases hd : q.distinct = true
    · obtain ⟨k', hk'⟩ := Feed.upTo_distinct []
        (Feed.map (projectRow q.items (some q.table) (wildcardTables q)) f) k
      exact ⟨k', by simp [hid, hd, hk', Feed.upTo_map]⟩
    · exact ⟨k, by simp [hid, hd, Feed.upTo_map]⟩

/-- What a streaming plan reads before its limit: the rows kept of a prefix of the table,
presented. -/
theorem drain_upTo_project_filtered (hj : q.join = none) (k : Nat) :
    ∃ pre, pre <+: main ∧
      ((project q (filtered size q main joined)).upTo k).drain = (q.kept pre joined).map q.present := by
  obtain ⟨k', hk'⟩ := upTo_project q (filtered size q main joined) k
  have hscan : (source size q main joined).drain = .ok main := by
    simp [drain_source, Query.source, hj]
  have hkept : ∀ pre, q.kept pre joined =
      Feed.filterRows (q.conditions.map Predicate.compile) (some q.table) true pre := by
    intro pre
    simp [Query.kept, Query.source, hj, Except.bind]
  rw [hk', drain_project]
  unfold filtered
  split
  · next hc =>
      obtain ⟨pre, hpre, hcut⟩ := Feed.drain_upTo_of_drain_eq_ok hscan k'
      refine ⟨pre, hpre, ?_⟩
      rw [hcut, hkept, List.isEmpty_iff.mp hc, List.map_nil, Feed.filterRows_nil]
  · obtain ⟨k'', hk''⟩ := Feed.upTo_filter (q.conditions.map Predicate.compile) (some q.table) true
      (source size q main joined) k'
    obtain ⟨pre, hpre, hcut⟩ := Feed.drain_upTo_of_drain_eq_ok hscan k''
    refine ⟨pre, hpre, ?_⟩
    rw [hk'', Feed.drain_filter_of_drain_eq_ok _ _ _ hcut, hkept]

end Plan

/-! ## Plans refine answers -/

namespace Query

/-- What a plan hands out, `out`, against the answer: the answer when it succeeds; when it
fails, the same error or rows at which the limit stopped. -/
def RefinedBy (q : Query) (main : List Row) (joined : Option (List Row))
    (out : Except Error (List Row)) : Prop :=
  (∀ rs, q.answer main joined = .ok rs → out = .ok rs) ∧
    ∀ e, q.answer main joined = .error e →
      out = .error e ∨ ∃ rs, out = .ok rs ∧ q.StoppedAtLimit main joined rs

theorem refinedBy_answer (q : Query) (main : List Row) (joined : Option (List Row)) :
    q.RefinedBy main joined (q.answer main joined) :=
  ⟨fun _ h => h, fun _ h => .inl h⟩

end Query

namespace Plan

variable (size : Nat) (q : Query) (main : List Row) (joined : Option (List Row))

/-- The last step of a plan with a limit, over a feed whose rows, windowed, are the answer.
`hcut` says what a cut of the feed can hand out while the whole feed fails. -/
theorem refinedBy_limitFeed {f : Feed} (hf : f.drain.map q.window = q.answer main joined)
    (hg : q.isGlobalAggregate = false)
    (hcut : ∀ e k rs, f.drain = .error e → (f.upTo k).drain = .ok rs →
      rs = [] ∨ q.Streams ∧ ∃ pre, pre <+: main ∧ q.answer pre joined = .ok (q.window rs)) :
    q.RefinedBy main joined (limitFeed q f).drain := by
  cases hd : f.drain with
  | ok rs =>
      have hans : q.answer main joined = .ok (q.window rs) := by rw [← hf, hd]; rfl
      refine ⟨fun rs' h => ?_, fun e h => ?_⟩
      · rw [drain_limitFeed_of_drain_eq_ok q hd, ← h, hans]
      · rw [hans] at h
        cases h
  | error e =>
      have hans : q.answer main joined = .error e := by rw [← hf, hd]; rfl
      refine ⟨fun rs h => ?_, fun e' h => ?_⟩
      · rw [hans] at h
        cases h
      rw [hans] at h
      cases h
      rcases drain_limitFeed q f with hall | ⟨n, k, rs, hn, hk, hlen, hout⟩
      · left
        rw [hall, hd]
        rfl
      · right
        refine ⟨q.window rs, hout, ⟨by rw [hn, hlen], hg, ?_⟩⟩
        rcases hcut e k rs hd hk with rfl | hstream
        · exact .inl (by simp [Query.window])
        · exact .inr hstream

theorem drain_select_of_global (hg : q.isGlobalAggregate = true) :
    (select size q main joined).drain = q.answer main joined := by
  simp only [select, hg, ite_true, Feed.drain_ofResult, drain_filtered]
  cases hk : q.kept main joined <;> simp [Query.answer, Query.finish, hg, hk, Except.map]

theorem refinedBy_select_of_groupBy (hg : q.isGlobalAggregate = false) {groupBy : List String}
    (hb : q.groupBy = some groupBy) : q.RefinedBy main joined (select size q main joined).drain := by
  let grouped := Feed.ofResult ((filtered size q main joined).drain.map fun rows =>
    if groupBy.isEmpty then [aggregateAll q.aggregates (some q.table) rows]
    else aggregateGroups groupBy q.aggregates (some q.table) rows)
  have hselect : select size q main joined = limitFeed q (sortFeed q grouped) := by
    simp [select, hg, hb, grouped]
  have hwhole : (sortFeed q grouped).Whole := by
    cases h : q.orderBy with
    | none => simp only [sortFeed, h]; exact Feed.whole_ofResult _
    | some keys =>
        cases keys with
        | nil => simp only [sortFeed, h]; exact Feed.whole_ofResult _
        | cons k ks => simp only [sortFeed, h]; exact Feed.whole_ofResult _
  rw [hselect]
  refine refinedBy_limitFeed q main joined ?_ hg ?_
  · rw [drain_sortFeed, Feed.drain_ofResult, drain_filtered]
    cases hk : q.kept main joined <;> simp [Query.answer, Query.finish, hg, hb, hk, Except.map]
  · intro e k rs he hk
    exact .inl (hwhole.drain_upTo he hk)

theorem refinedBy_select_of_plain (hg : q.isGlobalAggregate = false) (hb : q.groupBy = none) :
    q.RefinedBy main joined (select size q main joined).drain := by
  have hselect : select size q main joined =
      limitFeed q (project q (sortFeed q (filtered size q main joined))) := by
    simp [select, hg, hb]
  rw [hselect]
  refine refinedBy_limitFeed q main joined ?_ hg ?_
  · rw [drain_project, drain_sortFeed, drain_filtered]
    cases hk : q.kept main joined <;> simp [Query.answer, Query.finish, hg, hb, hk, Except.map]
  · intro e k rs he hk
    by_cases hkeys : q.orderBy.getD [] = []
    · cases hj : q.join with
      | some j =>
          have hwhole : (project q (sortFeed q (filtered size q main joined))).Whole := by
            rw [sortFeed_of_unordered q hkeys]
            exact whole_project q (whole_filtered_of_join size q main joined hj)
          exact .inl (hwhole.drain_upTo he hk)
      | none =>
          rw [sortFeed_of_unordered q hkeys] at hk
          obtain ⟨pre, hpre, hcut⟩ := drain_upTo_project_filtered size q main joined hj k
          refine .inr ⟨⟨hj, hg, hb, hkeys⟩, pre, hpre, ?_⟩
          rw [hcut] at hk
          cases hkept : q.kept pre joined with
          | error e' => rw [hkept] at hk; cases hk
          | ok rows =>
              rw [hkept] at hk
              simp only [Except.map, Except.ok.injEq] at hk
              simp [Query.answer, hkept, Query.finish, hg, hb, Query.order, hkeys, hk, sortRows,
                Except.map]
    · have hwhole : (project q (sortFeed q (filtered size q main joined))).Whole :=
        whole_project q (whole_sortFeed_of_ordered q rfl hkeys _)
      exact .inl (hwhole.drain_upTo he hk)

/-- Every plan refines the answer of its query. -/
theorem refinedBy_select : q.RefinedBy main joined (select size q main joined).drain := by
  by_cases hg : q.isGlobalAggregate = true
  · rw [drain_select_of_global size q main joined hg]
    exact q.refinedBy_answer main joined
  · have hg' : q.isGlobalAggregate = false := by simpa using hg
    cases hb : q.groupBy with
    | some groupBy => exact refinedBy_select_of_groupBy size q main joined hg' hb
    | none => exact refinedBy_select_of_plain size q main joined hg' hb

/-- A plan hands out the answer of its query, whatever the batch size, or fails as it does,
unless its limit stopped before the failing row. -/
theorem drain_select_refines_answer :
    (∀ rs, q.answer main joined = .ok rs → (select size q main joined).drain = .ok rs) ∧
      ∀ e, q.answer main joined = .error e →
        (select size q main joined).drain = .error e ∨
          ∃ rs, (select size q main joined).drain = .ok rs ∧ q.StoppedAtLimit main joined rs :=
  refinedBy_select size q main joined

/-- A limit of one over batches of one row never reads the second row, which lacks the
field the condition reads. -/
theorem select_stops_before_invalid_row :
    (select 1
        { items := [.wildcard], table := "t", conditions := [⟨"a", .eq, .null⟩], limit := some 1 }
        [Row.ofPairs [("a", .null)], Row.ofPairs [("b", .null)]] none).drain =
      .ok [Row.ofPairs [("a", .null)]] ∧
    Query.answer
        { items := [.wildcard], table := "t", conditions := [⟨"a", .eq, .null⟩], limit := some 1 }
        [Row.ofPairs [("a", .null)], Row.ofPairs [("b", .null)]] none =
      .error (.invalidField "a") := by
  constructor <;> rfl

end Plan

end Tabula
