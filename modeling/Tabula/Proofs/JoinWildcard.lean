import Mathlib.Data.List.Nodup
import Tabula.Proofs.HashJoin
import Tabula.Proofs.Distinct
import Tabula.Proofs.Sorting

/-!
# The wildcard over a join

`SELECT *` over a join shows the main columns as `t.c`, then the joined columns as `u.c`
(`Plan.select_star_join_shows_both_tables`).
-/

namespace Tabula

namespace Row

/-- Writing a name that a first part of the cells lacks writes into the rest. -/
theorem setCell_append_of_not_mem {name : String} (v : Value) {xs : List (String × Value)}
    (h : name ∉ xs.map (·.1)) (ys : List (String × Value)) :
    setCell name v (xs ++ ys) = xs ++ setCell name v ys := by
  induction xs with
  | nil => rfl
  | cons c xs ih =>
      obtain ⟨k, w⟩ := c
      simp only [List.map_cons, List.mem_cons, not_or] at h
      have hk : (k == name) = false := by simpa using Ne.symm h.1
      simp only [List.cons_append, setCell, hk, Bool.false_eq_true, ite_false, ih h.2]

/-- Writing a cell that is already there changes nothing. -/
theorem setCell_of_mem {name : String} {v : Value} {cells : List (String × Value)}
    (h : (name, v) ∈ cells) (hnd : (cells.map (·.1)).Nodup) : setCell name v cells = cells := by
  induction cells with
  | nil => cases h
  | cons c cells ih =>
      obtain ⟨k, w⟩ := c
      simp only [List.map_cons, List.nodup_cons] at hnd
      rcases List.mem_cons.mp h with hc | hc
      · simp only [Prod.mk.injEq] at hc
        obtain ⟨rfl, rfl⟩ := hc
        simp [setCell]
      · have hk : k ≠ name := by
          rintro rfl
          exact hnd.1 (List.mem_map_of_mem (f := fun x : String × Value => x.1) hc)
        simp [setCell, hk, ih hc hnd.2]

/-- A cell that a row holds under a name is one of its cells. -/
theorem mem_fields_of_get? {r : Row} {name : String} {v : Value} (h : r.get? name = some v) :
    (name, v) ∈ r.fields := by
  obtain ⟨p, hp, rfl⟩ := Option.map_eq_some_iff.mp h
  have hname : p.1 = name := by simpa using List.find?_some hp
  rw [← hname]
  exact List.mem_of_find?_eq_some hp

/-- A row projected onto a lone wildcard limited to some tables keeps, in order, the cells
qualified by one of them. -/
theorem fields_projectRow_wildcard {tables : List String} (hne : tables ≠ [])
    (table : Option String) (row : Row) :
    (projectRow [.wildcard] table tables row).fields =
      row.fields.filter fun p => qualifiedBy p.1 tables := by
  have hempty : tables.isEmpty = false := by simpa using hne
  have hnd : ((Row.empty.fields ++ row.fields.filter fun p => qualifiedBy p.1 tables).map
      (·.1)).Nodup := by
    simpa using (List.filter_sublist.map fun x : String × Value => x.1).nodup row.nodup
  have hfold := @List.foldl_filter _ _ (fun p : String × Value => qualifiedBy p.1 tables)
    (fun o p => o.insert p.1 p.2) row.fields Row.empty
  simp only [projectRow, List.foldl_cons, List.foldl_nil, hempty, Bool.false_or]
  rw [← hfold, fields_foldl_insert _ _ hnd]
  rfl

/-- Writing cells that are already among `S` or have names outside `tables` keeps `S` in
front. -/
theorem fields_foldl_insertSome_keeps {tables : List String} {S : List (String × Value)}
    (hS : ∀ p ∈ S, qualifiedBy p.1 tables = true) (g : String → Option Value)
    (hg : ∀ f v, g f = some v → (f, v) ∈ S ∨ qualifiedBy f tables = false)
    (fs : List String) {r : Row} {E : List (String × Value)} (hr : r.fields = S ++ E)
    (hE : ∀ p ∈ E, qualifiedBy p.1 tables = false) :
    ∃ E', (fs.foldl (fun r f => match g f with | some v => r.insert f v | none => r) r).fields =
        S ++ E' ∧ ∀ p ∈ E', qualifiedBy p.1 tables = false := by
  induction fs generalizing r E with
  | nil => exact ⟨E, hr, hE⟩
  | cons f fs ih =>
      rw [List.foldl_cons]
      cases hgf : g f with
      | none =>
          simp only
          exact ih hr hE
      | some v =>
          simp only
          rcases hg f v hgf with hmem | hunq
          · have hsame : (r.insert f v).fields = S ++ E := by
              rw [← hr]
              exact setCell_of_mem (hr ▸ List.mem_append_left E hmem) r.nodup
            exact ih hsame hE
          · have hnot : f ∉ S.map (·.1) := fun hf => by
              obtain ⟨p, hp, rfl⟩ := List.mem_map.mp hf
              rw [hS p hp] at hunq
              cases hunq
            refine ih (E := setCell f v E) ?_ fun p hp => ?_
            · show setCell f v r.fields = _
              rw [hr, setCell_append_of_not_mem v hnot]
            · have hkey : p.1 ∈ (setCell f v E).map (·.1) := List.mem_map_of_mem hp
              rw [map_fst_setCell] at hkey
              have hkey' : p.1 ∈ E.map (·.1) ∨ p.1 = f := by
                split at hkey
                · exact .inl hkey
                · simpa using hkey
              rcases hkey' with hk | hk
              · obtain ⟨p', hp', heq⟩ := List.mem_map.mp hk
                rw [← heq]
                exact hE p' hp'
              · rw [hk]
                exact hunq

end Row

namespace Join

/-- The cells a lone wildcard shows for a pair of rows: the main row's under the main table,
then the joined table's columns under its name. -/
def starCells (t u : String) (sh : List String) (m : Row) (jo : Option Row) :
    List (String × Value) :=
  m.fields.map (fun p => (t ++ "." ++ p.1, p.2)) ++
    sh.map fun c => (u ++ "." ++ c, (jo.bind (·.get? c)).getD .null)

theorem names_starCells (t u : String) (sh : List String) (m : Row) (jo : Option Row) :
    (starCells t u sh m jo).map (·.1) =
      m.names.map (t ++ "." ++ ·) ++ sh.map (u ++ "." ++ ·) := by
  simp [starCells, Row.names, Function.comp_def]

/-- A name not qualified by a dotless table is no name of the form `table.x`. -/
theorem ne_qualify_of_qualifiedBy {t c : String} (ht : '.' ∉ t.toList)
    (h : qualifiedBy c [t] = false) (x : String) : c ≠ t ++ "." ++ x := by
  rintro rfl
  simp [qualifiedBy, Row.splitQualifier_qualify ht] at h

/-- A requested field that has a value repeats a cell the wildcard shows or is qualified by
neither table. -/
theorem fieldValue_star {ctx : JoinContext} {sh : List String} {m : Row} {jo : Option Row}
    {f : String} {v : Value}
    (hm : ∀ c ∈ m.names, ∀ x, c ≠ ctx.mainTable ++ "." ++ x)
    (hj : ∀ r, jo = some r →
      r.names = sh ∧ ∀ c ∈ r.names, ∀ x, c ≠ ctx.joinTable ++ "." ++ x)
    (h : fieldValue ctx sh m jo f = some v) :
    (f, v) ∈ starCells ctx.mainTable ctx.joinTable sh m jo ∨
      qualifiedBy f [ctx.mainTable, ctx.joinTable] = false := by
  cases hq : Row.splitQualifier f with
  | none => exact .inr (by simp [qualifiedBy, hq])
  | some qb =>
      obtain ⟨q, b⟩ := qb
      have hf : f = q ++ "." ++ b := (Row.eq_qualify_of_splitQualifier hq).1
      by_cases hmt : q = ctx.mainTable
      · subst hmt
        have hmf : m.get? f = none := Row.get?_eq_none_iff.mpr fun hmem => hm f hmem b hf
        have hval : fieldValue ctx sh m jo f = m.resolve f (some ctx.mainTable) := by
          simp [fieldValue, hq]
        rw [hval, Row.resolve_of_qualified _ hq, if_pos rfl, hmf, Option.none_or] at h
        refine .inl (List.mem_append_left _
          (List.mem_map.mpr ⟨(b, v), Row.mem_fields_of_get? h, ?_⟩))
        rw [hf]
      · by_cases hjt : q = ctx.joinTable
        · subst hjt
          refine .inl (List.mem_append_right _ (List.mem_map.mpr ?_))
          cases jo with
          | none =>
              have hval : fieldValue ctx sh m none f = if b ∈ sh then some .null else none := by
                simp [fieldValue, hq, hmt, nullIfInShape]
              rw [hval] at h
              split at h
              · cases h
                exact ⟨b, ‹_›, by rw [hf]; rfl⟩
              · cases h
          | some r =>
              obtain ⟨hrsh, hru⟩ := hj r rfl
              have hrf : r.get? f = none := Row.get?_eq_none_iff.mpr fun hmem => hru f hmem b hf
              have hval : fieldValue ctx sh m (some r) f = r.resolve f (some ctx.joinTable) := by
                simp [fieldValue, hq, hmt]
              rw [hval, Row.resolve_of_qualified _ hq, if_pos rfl, hrf, Option.none_or] at h
              have hb : b ∈ r.names := by
                by_contra hb
                rw [Row.get?_eq_none_iff.mpr hb] at h
                cases h
              exact ⟨b, hrsh ▸ hb, by simp [h, hf]⟩
        · exact .inr (by simp [qualifiedBy, hq, hmt, hjt])

section Star

variable {ctx : JoinContext} (hsep : ctx.DistinctTables)
include hsep

/-- Names qualified by one of the two tables are told apart by their bare names. -/
theorem qualify_inj {a b : String} (h : ctx.mainTable ++ "." ++ a = ctx.mainTable ++ "." ++ b) :
    a = b :=
  (Row.eq_of_qualify_eq hsep.main_dotless (Row.splitQualifier_qualify hsep.main_dotless b) h).2

theorem qualify_join_inj {a b : String}
    (h : ctx.joinTable ++ "." ++ a = ctx.joinTable ++ "." ++ b) :
    a = b :=
  (Row.eq_of_qualify_eq hsep.join_dotless (Row.splitQualifier_qualify hsep.join_dotless b) h).2

theorem qualify_ne_join (a b : String) : ctx.mainTable ++ "." ++ a ≠ ctx.joinTable ++ "." ++ b :=
  fun h => hsep.ne
    (Row.eq_of_qualify_eq hsep.main_dotless (Row.splitQualifier_qualify hsep.join_dotless b) h).1

/-- Every name the wildcard shows is qualified by one of the two tables. -/
theorem qualifiedBy_starCells {sh : List String} {m : Row} {jo : Option Row}
    {p : String × Value} (hp : p ∈ starCells ctx.mainTable ctx.joinTable sh m jo) :
    qualifiedBy p.1 [ctx.mainTable, ctx.joinTable] = true := by
  simp only [starCells, List.mem_append, List.mem_map] at hp
  rcases hp with ⟨q, -, rfl⟩ | ⟨c, -, rfl⟩
  · simp [qualifiedBy, Row.splitQualifier_qualify hsep.main_dotless]
  · simp [qualifiedBy, Row.splitQualifier_qualify hsep.join_dotless]

theorem nodup_starCells {sh : List String} (hsh : sh.Nodup) (m : Row) (jo : Option Row) :
    ((starCells ctx.mainTable ctx.joinTable sh m jo).map (·.1)).Nodup := by
  rw [names_starCells]
  refine List.nodup_append.mpr ⟨?_, ?_, ?_⟩
  · exact List.Nodup.map (fun _ _ h => qualify_inj hsep h) m.nodup
  · exact List.Nodup.map (fun _ _ h => qualify_join_inj hsep h) hsh
  · simp only [List.mem_map]
    rintro _ ⟨a, -, rfl⟩ _ ⟨b, -, rfl⟩
    exact qualify_ne_join hsep a b

/-- Under the wildcard the first two passes write exactly the cells the wildcard shows. -/
theorem fields_prefilled (hw : ctx.wildcard = true) {sh : List String} (hsh : sh.Nodup)
    (includeMain : Bool) (m : Row) (jo : Option Row) :
    (prefilled ctx sh includeMain m jo).fields = starCells ctx.mainTable ctx.joinTable sh m jo := by
  have hnd := nodup_starCells hsep hsh m jo
  rw [starCells, List.map_append] at hnd
  have hmain : (mainCells ctx includeMain m).fields =
      m.fields.map fun p => (ctx.mainTable ++ "." ++ p.1, p.2) := by
    have hfold := @List.foldl_map _ _ _ (fun p : String × Value => (ctx.mainTable ++ "." ++ p.1, p.2))
      (fun o p => o.insert p.1 p.2) m.fields Row.empty
    beta_reduce at hfold
    simp only [mainCells, hw, Bool.or_true, ite_true]
    rw [← hfold, Row.fields_foldl_insert _ _ ?_]
    · rfl
    · simpa using (List.nodup_append.mp hnd).1
  have hfold := @List.foldl_map _ _ _
    (fun c => (ctx.joinTable ++ "." ++ c, (jo.bind (·.get? c)).getD .null))
    (fun o p => o.insert p.1 p.2) sh (mainCells ctx includeMain m)
  beta_reduce at hfold
  simp only [prefilled, hw, ite_true]
  rw [← hfold, Row.fields_foldl_insert _ _ ?_, hmain]
  · rfl
  · rw [hmain]
    simpa using hnd


/-- Under the wildcard an output row holds the cells the wildcard shows, then cells under
names qualified by neither table. -/
theorem fields_resultRow_star (hw : ctx.wildcard = true) {sh : List String} (hsh : sh.Nodup)
    {m : Row} {jo : Option Row} (hm : ∀ c ∈ m.names, ∀ x, c ≠ ctx.mainTable ++ "." ++ x)
    (hj : ∀ r, jo = some r →
      r.names = sh ∧ ∀ c ∈ r.names, ∀ x, c ≠ ctx.joinTable ++ "." ++ x)
    (includeMain : Bool) :
    ∃ extra, (resultRow ctx sh includeMain m jo).fields =
        starCells ctx.mainTable ctx.joinTable sh m jo ++ extra ∧
      ∀ p ∈ extra, qualifiedBy p.1 [ctx.mainTable, ctx.joinTable] = false := by
  rw [resultRow_eq_foldl]
  exact Row.fields_foldl_insertSome_keeps (fun _ hp => qualifiedBy_starCells hsep hp) _
    (fun _ _ h => fieldValue_star hm hj h) ctx.fields
    (by rw [fields_prefilled hsep hw hsh, List.append_nil]) (by simp)

/-- A lone wildcard over a join shows of an output row exactly the cells of its pair. -/
theorem fields_projectRow_resultRow (hw : ctx.wildcard = true) {sh : List String}
    (hsh : sh.Nodup) {m : Row} {jo : Option Row}
    (hm : ∀ c ∈ m.names, ∀ x, c ≠ ctx.mainTable ++ "." ++ x)
    (hj : ∀ r, jo = some r →
      r.names = sh ∧ ∀ c ∈ r.names, ∀ x, c ≠ ctx.joinTable ++ "." ++ x)
    (includeMain : Bool) :
    (projectRow [.wildcard] (some ctx.mainTable) [ctx.mainTable, ctx.joinTable]
      (resultRow ctx sh includeMain m jo)).fields =
        starCells ctx.mainTable ctx.joinTable sh m jo := by
  obtain ⟨extra, hfields, hextra⟩ := fields_resultRow_star hsep hw hsh hm hj includeMain
  rw [Row.fields_projectRow_wildcard (by simp), hfields, List.filter_append,
    List.filter_eq_self.mpr fun p hp => qualifiedBy_starCells hsep hp,
    List.filter_eq_nil_iff.mpr fun p hp => by simp [hextra p hp], List.append_nil]

end Star

/-- The pairs a join of a kind puts out rows for: a main row with a joined row; under LEFT
also a main row alone; under RIGHT also the all-null main row with a joined row. -/
inductive Emits (kind : JoinKind) (main joined : List Row) : Row → Option Row → Prop
  | pair {m j : Row} : m ∈ main → j ∈ joined → Emits kind main joined m (some j)
  | leftAlone {m : Row} : kind = .left → m ∈ main → Emits kind main joined m none
  | rightAlone {j : Row} : kind = .right → j ∈ joined →
      Emits kind main joined (nullMain main) (some j)

/-- A join whose key checks pass puts out what it computed. -/
theorem eq_of_checks_pure {α : Type} {x y : Except Error Unit} {v w : α}
    (h : (do x; y; pure v : Except Error α) = .ok w) : v = w := by
  cases x <;> cases y <;> simp_all [bind, Except.bind, pure, Except.pure]

/-- Every row a join puts out is the output row of a pair it emits. -/
theorem mem_joinRows {kind : JoinKind} {ctx : JoinContext} {main joined os : List Row}
    (h : joinRows kind ctx main joined = .ok os) {o : Row} (ho : o ∈ os) :
    ∃ m jo, Emits kind main joined m jo ∧
      o = resultRow ctx (shape joined) (kind != .inner) m jo := by
  cases kind <;>
    simp only [joinRows, Join.inner, Join.left, Join.right, Join.keyed_eq,
      Join.mapM_requireField, map_bind, map_pure, bind_assoc, pure_bind,
      Join.probe_index_joined, Join.probe_index_main] at h
  all_goals
    rw [← eq_of_checks_pure h] at ho
    simp only [List.mem_flatten, List.mem_map] at ho
    obtain ⟨_, ⟨r, hr, rfl⟩, ho⟩ := ho
  case inner =>
    simp only [List.mem_map, List.mem_filter] at ho
    obtain ⟨j, ⟨hj, -⟩, rfl⟩ := ho
    exact ⟨r, some j, .pair hr hj, rfl⟩
  case left =>
    split at ho
    · simp only [List.mem_singleton] at ho
      exact ⟨r, none, .leftAlone rfl hr, ho⟩
    · simp only [List.mem_map, List.mem_filter] at ho
      obtain ⟨j, ⟨hj, -⟩, rfl⟩ := ho
      exact ⟨r, some j, .pair hr hj, rfl⟩
  case right =>
    split at ho
    · simp only [List.mem_singleton] at ho
      exact ⟨nullMain main, some r, .rightAlone rfl hr, ho⟩
    · simp only [List.mem_map, List.mem_filter] at ho
      obtain ⟨m, ⟨hm, -⟩, rfl⟩ := ho
      exact ⟨m, some r, .pair hm hr, rfl⟩

theorem names_nullMain {r : Row} (rs : List Row) : (nullMain (r :: rs)).names = r.names := by
  simp [nullMain, Row.names, Function.comp_def]

end Join

namespace Plan

variable (size : Nat) (q : Query) (main : List Row) (joined : Option (List Row))

/-- The rows of the window of a list are rows of the list. -/
theorem mem_of_mem_window {rows : List Row} {r : Row} (h : r ∈ q.window rows) : r ∈ rows := by
  unfold Query.window Feed.slice at h
  split at h
  · exact List.mem_of_mem_drop h
  · exact List.mem_of_mem_drop (List.mem_of_mem_take h)

/-- The rows presented are projections of the rows given. -/
theorem mem_present {rows : List Row} {r : Row} (h : r ∈ q.present rows) :
    ∃ o ∈ rows, r = projectRow q.items (some q.table) (wildcardTables q) o := by
  unfold Query.present at h
  have hmap : r ∈ rows.map (projectRow q.items (some q.table) (wildcardTables q)) := by
    split at h
    · exact (Feed.sublist_firstOf [] _).subset h
    · exact h
  obtain ⟨o, ho, rfl⟩ := List.mem_map.mp hmap
  exact ⟨o, ho, rfl⟩

theorem mem_of_mem_order {rows : List Row} {r : Row} (h : r ∈ q.order rows) : r ∈ rows := by
  unfold Query.order at h
  rwa [sortRows_eq_mergeSort, List.mem_mergeSort] at h

/-- A plan over a join hands out only projections of rows the join put out. -/
theorem mem_select_of_join {j : JoinSpec} (hj : q.join = some j)
    (hg : q.isGlobalAggregate = false) (hb : q.groupBy = none) {rs : List Row}
    (h : (select size q main joined).drain = .ok rs) :
    ∀ r ∈ rs, ∃ os, joinRows j.kind (joinContext q j) main (joined.getD []) = .ok os ∧
      ∃ o ∈ os, r = projectRow q.items (some q.table) (wildcardTables q) o := by
  obtain ⟨hok, herr⟩ := refinedBy_select_of_plain size q main joined hg hb
  cases hans : q.answer main joined with
  | error e =>
      rcases herr e hans with hfail | ⟨rs', hrs', hstop⟩
      · rw [h] at hfail
        cases hfail
      · rw [h] at hrs'
        cases hrs'
        rcases hstop.answer_prefix with rfl | ⟨hstreams, -⟩
        · intro r hr
          cases hr
        · rw [hstreams.1] at hj
          cases hj
  | ok rs' =>
      have hrs := hok rs' hans
      rw [h] at hrs
      cases hrs
      obtain ⟨ks, hks, hfin⟩ := Database.Except.map_eq_ok_iff.mp hans
      obtain ⟨os, hos, hfilter⟩ := Database.Except.bind_eq_ok_iff.mp hks
      obtain ⟨holds, -, rfl⟩ := (Feed.filterRows_eq_ok_iff _ _ true os ks).mp hfilter
      have hsrc : joinRows j.kind (joinContext q j) main (joined.getD []) = .ok os := by
        simpa [Query.source, hj] using hos
      intro r hr
      rw [← hfin] at hr
      simp only [Query.finish, hg, hb, Bool.false_eq_true, ite_false] at hr
      obtain ⟨o, ho, rfl⟩ := mem_present q (mem_of_mem_window q hr)
      exact ⟨os, hsrc, o, (List.mem_filter.mp (mem_of_mem_order q ho)).1, rfl⟩

/-- Under `SELECT *` over a join of two differently named, well-shaped tables, every row
handed out shows the main columns as `t.c`, then the joined columns as `u.c`. -/
theorem select_star_join_shows_both_tables (size : Nat) (q : Query) {j : JoinSpec}
    (main joined : List Row) (Hm Hj : List String) {rs : List Row}
    (hitems : q.items = [.wildcard]) (hjoin : q.join = some j) (hgroup : q.groupBy = none)
    (hne : q.table ≠ j.table) (hmd : '.' ∉ q.table.toList) (hjd : '.' ∉ j.table.toList)
    (hmain : ∀ m ∈ main, m.names = Hm) (hjoined : ∀ r ∈ joined, r.names = Hj)
    (hmcols : ∀ c ∈ Hm, qualifiedBy c [q.table] = false)
    (hjcols : ∀ c ∈ Hj, qualifiedBy c [j.table] = false)
    (hright : j.kind = .right → main ≠ []) (hleft : j.kind = .left → joined ≠ [])
    (h : (select size q main (some joined)).drain = .ok rs) :
    ∀ r ∈ rs, r.names = Hm.map (q.table ++ "." ++ ·) ++ Hj.map (j.table ++ "." ++ ·) ∧
      ∃ m jo, Join.Emits j.kind main joined m jo ∧
        r.fields = Join.starCells q.table j.table Hj m jo := by
  have hg : q.isGlobalAggregate = false := by
    simp [Query.isGlobalAggregate, Query.hasAggregates, hitems]
  have hsep : (joinContext q j).DistinctTables := ⟨hne, hmd, hjd⟩
  have hw : (joinContext q j).wildcard = true := by
    simp [joinContext, Query.hasWildcard, hitems]
  intro r hr
  obtain ⟨os, hos, o, ho, rfl⟩ :=
    mem_select_of_join size q main (some joined) hjoin hg hgroup h r hr
  rw [Option.getD_some] at hos
  obtain ⟨m, jo, hemit, rfl⟩ := Join.mem_joinRows hos ho
  have hfacts : joined ≠ [] ∧ m.names = Hm ∧ ∀ x, jo = some x → x.names = Hj := by
    cases hemit with
    | pair hm hjm =>
        exact ⟨List.ne_nil_of_mem hjm, hmain _ hm, fun x hx => hjoined x (by cases hx; exact hjm)⟩
    | leftAlone hk hm => exact ⟨hleft hk, hmain _ hm, fun x hx => by cases hx⟩
    | rightAlone hk hjm =>
        obtain ⟨m0, ms, rfl⟩ := List.exists_cons_of_ne_nil (hright hk)
        refine ⟨List.ne_nil_of_mem hjm, ?_, fun x hx => hjoined x (by cases hx; exact hjm)⟩
        rw [Join.names_nullMain, hmain m0 (.head ms)]
  obtain ⟨hjne, hm, hjo⟩ := hfacts
  have hshape : Join.shape joined = Hj := by
    obtain ⟨j0, js, rfl⟩ := List.exists_cons_of_ne_nil hjne
    exact hjoined j0 (.head js)
  have hnd : Hj.Nodup := by
    obtain ⟨j0, js, rfl⟩ := List.exists_cons_of_ne_nil hjne
    rw [← hjoined j0 (.head js)]
    exact j0.nodup
  have hwt : wildcardTables q = [q.table, j.table] := by simp [wildcardTables, hjoin]
  have hfields : (projectRow q.items (some q.table) (wildcardTables q)
      (Join.resultRow (joinContext q j) (Join.shape joined) (j.kind != .inner) m jo)).fields =
        Join.starCells q.table j.table Hj m jo := by
    rw [hitems, hwt, hshape]
    exact Join.fields_projectRow_resultRow hsep hw hnd
      (fun c hc => Join.ne_qualify_of_qualifiedBy hmd (hmcols c (hm ▸ hc)))
      (fun x hx => ⟨hjo x hx,
        fun c hc => Join.ne_qualify_of_qualifiedBy hjd (hjcols c (hjo x hx ▸ hc))⟩)
      (j.kind != .inner)
  refine ⟨?_, m, jo, hemit, hfields⟩
  rw [Row.names, hfields, Join.names_starCells, hm]

/-- A LEFT join with all keys null: Dana's row shows her columns and the joined columns as
null, and not the `name` carried for the condition. -/
theorem select_star_join_shows_both_tables_unmatched :
    (select 1
        { items := [.wildcard], table := "student",
          join := some ⟨.left, "enrollment", "student.id", "enrollment.student_id"⟩,
          conditions := [⟨"name", .eq, .text "Dana"⟩] }
        [Row.ofPairs [("id", .null), ("name", .text "Dana")],
          Row.ofPairs [("id", .null), ("name", .text "Eve")]]
        (some [Row.ofPairs [("student_id", .null), ("course", .text "Math")]])).drain =
      .ok [Row.ofPairs [("student.id", .null), ("student.name", .text "Dana"),
        ("enrollment.student_id", .null), ("enrollment.course", .null)]] ∧
    (Row.ofPairs [("student.id", .null), ("student.name", .text "Dana"),
        ("enrollment.student_id", .null), ("enrollment.course", .null)]).names =
      ["id", "name"].map ("student" ++ "." ++ ·) ++
        ["student_id", "course"].map ("enrollment" ++ "." ++ ·) ∧
    ∃ m jo, Join.Emits .left
        [Row.ofPairs [("id", .null), ("name", .text "Dana")],
          Row.ofPairs [("id", .null), ("name", .text "Eve")]]
        [Row.ofPairs [("student_id", .null), ("course", .text "Math")]] m jo ∧
      (Row.ofPairs [("student.id", .null), ("student.name", .text "Dana"),
        ("enrollment.student_id", .null), ("enrollment.course", .null)]).fields =
        Join.starCells "student" "enrollment" ["student_id", "course"] m jo := by
  have hdrain : (select 1
        { items := [.wildcard], table := "student",
          join := some ⟨.left, "enrollment", "student.id", "enrollment.student_id"⟩,
          conditions := [⟨"name", .eq, .text "Dana"⟩] }
        [Row.ofPairs [("id", .null), ("name", .text "Dana")],
          Row.ofPairs [("id", .null), ("name", .text "Eve")]]
        (some [Row.ofPairs [("student_id", .null), ("course", .text "Math")]])).drain =
      .ok [Row.ofPairs [("student.id", .null), ("student.name", .text "Dana"),
        ("enrollment.student_id", .null), ("enrollment.course", .null)]] := rfl
  exact ⟨hdrain, select_star_join_shows_both_tables 1 _ _ _
    ["id", "name"] ["student_id", "course"] rfl rfl rfl (by decide) (by decide) (by decide)
    (by decide) (by decide) (by decide) (by decide) (by decide) (by decide) hdrain _
    (List.mem_singleton_self _)⟩

/-- Three joins where the shape fails: a self-join, a main column named `t.z`, and a LEFT join
with an empty joined table. -/
theorem select_star_join_shape_breaks :
    (∃ r, (select 1
        { items := [.wildcard], table := "t", join := some ⟨.left, "t", "t.k", "t.k"⟩ }
        [Row.ofPairs [("k", .null), ("b", .text "x")]]
        (some [Row.ofPairs [("k", .null), ("b", .text "x")]])).drain = .ok [r] ∧
      r.names ≠ ["t.k", "t.b"] ++ ["t.k", "t.b"]) ∧
    (∃ r, (select 1
        { items := [.wildcard], table := "t", join := some ⟨.left, "u", "t.k", "u.k"⟩,
          conditions := [⟨"t.z", .eq, .text "x"⟩] }
        [Row.ofPairs [("k", .null), ("t.z", .text "x")]]
        (some [Row.ofPairs [("k", .null)]])).drain = .ok [r] ∧
      r.names ≠ ["t.k", "t.t.z"] ++ ["u.k"]) ∧
    (∃ r, (select 1
        { items := [.wildcard], table := "t", join := some ⟨.left, "u", "t.k", "u.k"⟩ }
        [Row.ofPairs [("k", .null)]] (some [])).drain = .ok [r] ∧
      r.names ≠ ["t.k"] ++ ["u.k"]) :=
  ⟨⟨_, rfl, by decide⟩, ⟨_, rfl, by decide⟩, ⟨_, rfl, by decide⟩⟩

end Plan

end Tabula
