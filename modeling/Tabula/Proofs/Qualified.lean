import Tabula.Proofs.JoinRow
import Tabula.Proofs.Answer

/-!
# Names qualified by the query's table

Main statement, `qualified_reference_reads_bare_column`.
-/

namespace Tabula

namespace Row

theorem splitQualifier_of_dotless {n : String} (hn : '.' ∉ n.toList) : splitQualifier n = none := by
  have hall : ∀ c ∈ n.toList, (c != '.') = true := fun c hc => by
    have hne : c ≠ '.' := fun h => hn (h ▸ hc)
    simpa using hne
  simp [splitQualifier, List.span_eq_takeWhile_dropWhile, List.dropWhile_eq_nil_iff.mpr hall]

theorem splitQualifier_ne_none {x : String} (hx : '.' ∈ x.toList) : splitQualifier x ≠ none := by
  have hne : x.toList.dropWhile (· != '.') ≠ [] := by
    rw [Ne, List.dropWhile_eq_nil_iff]
    intro hall
    simpa using hall '.' hx
  unfold splitQualifier
  rw [List.span_eq_takeWhile_dropWhile]
  cases hd : x.toList.dropWhile (· != '.') with
  | nil => exact absurd hd hne
  | cons c rest => simp

/-- A bare name reads its own cell, then the cell qualified by the default table. -/
theorem resolve_bare (r : Row) (t : String) {n : String} (hn : '.' ∉ n.toList) :
    r.resolve n (some t) = (r.get? n).or (r.get? (t ++ "." ++ n)) :=
  resolve_of_unqualified t (splitQualifier_of_dotless hn)

/-- A name qualified by a default table without a dot reads its own cell, then the bare
one. -/
theorem resolve_qualified_of_dotless (r : Row) {t : String} (ht : '.' ∉ t.toList) (n : String) :
    r.resolve (t ++ "." ++ n) (some t) = (r.get? (t ++ "." ++ n)).or (r.get? n) := by
  rw [resolve_of_qualified t (splitQualifier_qualify ht n), if_pos rfl]

/-- A name qualified by a default table with a dot reads its own cell alone: its qualifier
ends at the table's first dot, so it is never the table. -/
theorem resolve_qualified_of_dotted (r : Row) {t : String} (ht : '.' ∈ t.toList) (n : String) :
    r.resolve (t ++ "." ++ n) (some t) = r.get? (t ++ "." ++ n) := by
  cases hs : splitQualifier (t ++ "." ++ n) with
  | none => exact absurd hs (splitQualifier_ne_none (by simp [ht]))
  | some p =>
      obtain ⟨q, b⟩ := p
      have hq : q ≠ t := fun h => (eq_qualify_of_splitQualifier hs).2 (h ▸ ht)
      rw [resolve_of_qualified t hs, if_neg hq, Option.or_none]

/-- On a row without a cell named `t.n`, the qualified and the bare name read the same. -/
theorem resolve_qualified_eq_bare {r : Row} {t n : String} (ht : '.' ∉ t.toList)
    (hn : '.' ∉ n.toList) (habsent : r.get? (t ++ "." ++ n) = none) :
    r.resolve (t ++ "." ++ n) (some t) = r.resolve n (some t) := by
  rw [resolve_qualified_of_dotless r ht, resolve_bare r t hn, habsent, Option.none_or,
    Option.or_none]

end Row

namespace Feed

/-- Filters whose conditions evaluate alike on every row keep the same rows. -/
theorem filterRows_congr {ps ps' : List Predicate} {table : Option String} {keep : Bool}
    {rows : List Row} (h : ∀ r ∈ rows, Predicate.evalAll ps r table = Predicate.evalAll ps' r table) :
    filterRows ps table keep rows = filterRows ps' table keep rows := by
  induction rows with
  | nil => rfl
  | cons r rs ih =>
      rw [filterRows, filterRows, h r (.head rs), ih fun x hx => h x (.tail r hx)]

end Feed

/-- A condition reads its field only through the cell it resolves to. -/
theorem eval_compile_of_resolve_eq (c c' : Condition) (hop : c.op = c'.op)
    (hval : c.value = c'.value) {row : Row} {table : Option String} {v : Value}
    (h : row.resolve c.field table = some v) (h' : row.resolve c'.field table = some v) :
    (Predicate.compile c).eval row table = (Predicate.compile c').eval row table := by
  obtain ⟨f, op, l⟩ := c
  obtain ⟨f', op', l'⟩ := c'
  simp only at hop hval h h'
  subst hop hval
  simp [Predicate.eval, Predicate.compile, h, h']

/-- The plain SELECT of one column: the column's cell of every row, null where missing. -/
theorem answer_select_column (t f : String) (rows : List Row) :
    ({ items := [.column f], table := t } : Query).answer rows none =
      .ok (rows.map fun r => Row.empty.insert f (r.resolveOrNull f (some t))) := by
  simp [Query.answer, Query.kept, Query.source, Feed.filterRows_nil, Query.finish,
    Query.isGlobalAggregate, Query.hasAggregates, Query.present, Query.order, Query.window,
    Feed.slice, sortRows, projectRow, SelectItem.label, Except.map, Except.bind]

/-- On a table without a dot whose rows hold `n` and no `t.n`, `t.n` selects the values of
`n`, and a condition on `t.n` keeps the rows the same condition on `n` keeps. -/
theorem qualified_reference_reads_bare_column (t n : String) (hn : '.' ∉ n.toList) :
    (∀ r : Row, r.resolve n (some t) = (r.get? n).or (r.get? (t ++ "." ++ n)) ∧
      r.resolve (t ++ "." ++ n) (some t) =
        (r.get? (t ++ "." ++ n)).or (if '.' ∈ t.toList then none else r.get? n)) ∧
    ('.' ∉ t.toList → ∀ rows : List Row,
      (∀ r ∈ rows, n ∈ r.names ∧ t ++ "." ++ n ∉ r.names) →
      (({ items := [.column (t ++ "." ++ n)], table := t } : Query).answer rows none).map
          (List.map Row.values) =
        (({ items := [.column n], table := t } : Query).answer rows none).map
          (List.map Row.values) ∧
      ∀ (q : Query) (op : CompareOp) (l : Value), q.join = none → q.table = t →
        { q with conditions := [⟨t ++ "." ++ n, op, l⟩] }.answer rows none =
          { q with conditions := [⟨n, op, l⟩] }.answer rows none) := by
  refine ⟨fun r => ⟨Row.resolve_bare r t hn, ?_⟩, fun ht rows hrows => ⟨?_, ?_⟩⟩
  · by_cases ht : '.' ∈ t.toList
    · rw [if_pos ht, Option.or_none, Row.resolve_qualified_of_dotted r ht]
    · rw [if_neg ht, Row.resolve_qualified_of_dotless r ht]
  · rw [answer_select_column, answer_select_column]
    simp only [Except.map, List.map_map, Except.ok.injEq]
    refine List.map_congr_left fun r hr => ?_
    have habsent := Row.get?_eq_none_iff.mpr (hrows r hr).2
    simp [Row.resolveOrNull, Row.resolve_qualified_eq_bare ht hn habsent, Row.insert, Row.values,
      Row.setCell]
  · intro q op l hj hq
    subst hq
    have heval : ∀ r ∈ rows,
        Predicate.evalAll [Predicate.compile ⟨q.table ++ "." ++ n, op, l⟩] r (some q.table) =
          Predicate.evalAll [Predicate.compile ⟨n, op, l⟩] r (some q.table) := fun r hr => by
      have hhas : r.get? n ≠ none := fun h => Row.get?_eq_none_iff.mp h (hrows r hr).1
      obtain ⟨v, hv⟩ := Option.ne_none_iff_exists'.mp hhas
      have hbare : r.resolve n (some q.table) = some v := by
        rw [Row.resolve_bare r q.table hn, hv, Option.some_or]
      have hqual : r.resolve (q.table ++ "." ++ n) (some q.table) = some v := by
        rw [Row.resolve_qualified_eq_bare ht hn (Row.get?_eq_none_iff.mpr (hrows r hr).2), hbare]
      simp only [Predicate.evalAll,
        eval_compile_of_resolve_eq ⟨q.table ++ "." ++ n, op, l⟩ ⟨n, op, l⟩ rfl rfl hqual hbare]
    simp only [Query.answer, Query.kept, Query.source, hj, List.map_cons, List.map_nil]
    rw [Except.bind, Except.bind, Feed.filterRows_congr heval]
    rfl

/-- A row with one cell `n`: the reference `t.n` by the table `t` reads it. -/
theorem qualified_reference_reads_bare_column_single :
    (Row.ofPairs [("n", .text "1")]).resolve ("t" ++ "." ++ "n") (some "t") = some (.text "1") := by
  rw [((qualified_reference_reads_bare_column "t" "n" (by decide)).1 _).2]
  rfl

/-- A row of `db.users` holding `n`: the reference `db.users.n` by the table `db.users` finds
no cell, so a condition on it fails where the same condition on `n` keeps the row. -/
theorem dotted_table_reference_misses_column :
    (Row.ofPairs [("n", .text "1")]).resolve ("db.users" ++ "." ++ "n") (some "db.users") = none ∧
    ((Row.ofPairs [("n", .text "1")]).get? ("db.users" ++ "." ++ "n")).or
        ((Row.ofPairs [("n", .text "1")]).get? "n") = some (.text "1") ∧
    ({ items := [.wildcard], table := "db.users", conditions := [⟨"db.users.n", .eq, .text "'1'"⟩] } :
        Query).answer [Row.ofPairs [("n", .text "1")]] none = .error (.invalidField "db.users.n") ∧
    ({ items := [.wildcard], table := "db.users", conditions := [⟨"n", .eq, .text "'1'"⟩] } :
        Query).answer [Row.ofPairs [("n", .text "1")]] none = .ok [Row.ofPairs [("n", .text "1")]] := by
  refine ⟨rfl, rfl, rfl, rfl⟩

/-- A cell named `t.n` comes first: a condition on `t.n` reads it, not `n`. -/
example :
    ({ items := [.wildcard], table := "t", conditions := [⟨"t.n", .eq, .text "'ann'"⟩] } :
        Query).answer [Row.ofPairs [("n", .text "ann"), ("t.n", .text "bob")]] none = .ok [] := by
  rfl

end Tabula
