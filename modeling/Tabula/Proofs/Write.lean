import Mathlib.Data.List.Induction
import Tabula.Proofs.JoinRow
import Tabula.Proofs.Store

/-!
# Statements that change a table

Main statements, `statements_replace_one_table` and `delete_removes_selected`.
-/

namespace Tabula

/-! ## The row an INSERT writes -/

namespace Row

theorem names_insert (r : Row) (name : String) (v : Value) :
    (r.insert name v).names = if name ∈ r.names then r.names else r.names ++ [name] :=
  map_fst_setCell name v r.fields

/-- Writing pairs in order: a name holds the value of its last pair, or else its old cell. -/
theorem get?_foldl_insert_pairs (ps : List (String × Value)) (base : Row) (x : String) :
    (ps.foldl (fun r p => r.insert p.1 p.2) base).get? x = (ps.reverse.lookup x).or (base.get? x) := by
  induction ps using List.reverseRecOn with
  | nil => simp
  | append_singleton ps p ih =>
      obtain ⟨n, v⟩ := p
      rw [List.foldl_append, List.foldl_cons, List.foldl_nil, get?_insert, ih, List.reverse_append]
      by_cases h : n = x
      · subst h
        simp
      · have h' : (x == n) = false := by simpa using Ne.symm h
        simp [List.lookup_cons, h, h']

/-- The row built from pairs holds under each name the value of its last pair. -/
theorem get?_ofPairs (ps : List (String × Value)) (x : String) :
    (ofPairs ps).get? x = ps.reverse.lookup x :=
  (get?_foldl_insert_pairs ps empty x).trans Option.or_none

/-- The row built from pairs has each name once, where its first pair stands. -/
theorem names_ofPairs (ps : List (String × Value)) :
    (ofPairs ps).names = (ps.map (·.1)).eraseDups := by
  induction ps using List.reverseRecOn with
  | nil => rfl
  | append_singleton ps p ih =>
      rw [ofPairs, List.foldl_append, List.foldl_cons, List.foldl_nil, ← ofPairs, names_insert, ih,
        List.map_append, List.eraseDups_append]
      by_cases h : p.1 ∈ ps.map (·.1)
      · simp [List.mem_eraseDups, h, List.removeAll]
      · simp [List.mem_eraseDups, h, List.removeAll, List.eraseDups_cons]

end Row

/-! ## Filtering rows -/

namespace Feed

section Filter

variable (ps : List Predicate) (table : Option String)

/-- Rows whose conditions all evaluate are kept by their outcome, in order. -/
theorem filterRows_eq_filter (keep : Bool) {rows : List Row} {holds : Row → Bool}
    (h : ∀ r ∈ rows, Predicate.evalAll ps r table = .ok (holds r)) :
    filterRows ps table keep rows = .ok (rows.filter fun r => holds r == keep) := by
  induction rows with
  | nil => rfl
  | cons r rs ih =>
      rw [filterRows, h r (.head rs), ih (fun x hx => h x (.tail r hx))]
      by_cases hk : (holds r == keep) = true <;> simp [Except.map, hk]

/-- A filter that succeeds has evaluated every row. -/
theorem evalAll_eq_ok_of_filterRows {keep : Bool} {rows kept : List Row}
    (h : filterRows ps table keep rows = .ok kept) :
    ∀ r ∈ rows, ∃ b, Predicate.evalAll ps r table = .ok b := by
  induction rows generalizing kept with
  | nil => intro r hr; cases hr
  | cons r rs ih =>
      rw [filterRows] at h
      cases hr : Predicate.evalAll ps r table with
      | error e => rw [hr] at h; cases h
      | ok b =>
          rw [hr] at h
          cases hrs : filterRows ps table keep rs with
          | error e => rw [hrs] at h; cases h
          | ok tail =>
              intro x hx
              rcases List.mem_cons.mp hx with rfl | hx
              · exact ⟨b, hr⟩
              · exact ih hrs x hx

/-- A filter succeeds exactly when every row evaluates, and then keeps, in order, the rows
whose outcome is `keep`. -/
theorem filterRows_eq_ok_iff (keep : Bool) (rows kept : List Row) :
    filterRows ps table keep rows = .ok kept ↔
      ∃ holds : Row → Bool, (∀ r ∈ rows, Predicate.evalAll ps r table = .ok (holds r)) ∧
        kept = rows.filter fun r => holds r == keep := by
  constructor
  · intro h
    have hall := evalAll_eq_ok_of_filterRows ps table h
    let holds : Row → Bool := fun r => ((Predicate.evalAll ps r table).toOption).getD false
    have hholds : ∀ r ∈ rows, Predicate.evalAll ps r table = .ok (holds r) := by
      intro r hr
      obtain ⟨b, hb⟩ := hall r hr
      simp [holds, hb, Except.toOption]
    refine ⟨holds, hholds, ?_⟩
    rw [filterRows_eq_filter ps table keep hholds] at h
    exact (Except.ok.inj h).symm
  · rintro ⟨holds, hholds, rfl⟩
    exact filterRows_eq_filter ps table keep hholds

/-- Keeping the rows that meet the conditions or those that do not, a filter stops at the
same first error. -/
theorem filterRows_eq_error_iff (keep keep' : Bool) (rows : List Row) (e : Error) :
    filterRows ps table keep rows = .error e ↔ filterRows ps table keep' rows = .error e := by
  induction rows with
  | nil => simp [filterRows]
  | cons r rs ih =>
      simp only [filterRows]
      cases Predicate.evalAll ps r table with
      | error e' => rfl
      | ok b =>
          simp only
          cases h : filterRows ps table keep rs <;> cases h' : filterRows ps table keep' rs <;>
            simp_all [Except.map]

/-- Without conditions, a filter that keeps the rows that fail them keeps none. -/
theorem filterRows_nil_false (rows : List Row) : filterRows [] table false rows = .ok [] := by
  have hall : ∀ r ∈ rows, Predicate.evalAll [] r table = .ok ((fun _ => true) r) := fun r _ => rfl
  rw [filterRows_eq_filter [] table false hall]
  simp

end Filter

end Feed

/-! ## A SELECT of every column -/

theorem Error.rootCause_wrapQuery (e : Error) : e.wrapQuery.rootCause = e.rootCause := by
  cases e <;> rfl

/-- The plan of a SELECT of every column of one table is its filter. -/
theorem Plan.drain_select_wildcard (size : Nat) (t : String) (conds : List Condition)
    (rows : List Row) :
    (Plan.select size { items := [.wildcard], table := t, conditions := conds } rows none).drain =
      Feed.filterRows (conds.map Predicate.compile) (some t) true rows := by
  simp [Plan.select, Plan.limitFeed, Plan.project, Plan.sortFeed, Query.isGlobalAggregate,
    Query.hasAggregates, projectsIdentity, Plan.wildcardTables, Plan.drain_filtered, Query.kept,
    Query.source, Except.bind]

namespace Database

/-- A SELECT of every column of one table loads it and filters it, wrapping any failure. -/
theorem executeQuery_wildcard (db : Database) (t : String) (conds : List Condition) :
    db.executeQuery { items := [.wildcard], table := t, conditions := conds } =
      wrapped ((db.store.load t).bind
        (Feed.filterRows (conds.map Predicate.compile) (some t) true)) := by
  simp only [executeQuery, runQuery, bind, Except.bind, pure, Except.pure]
  cases db.store.load t with
  | error e => rfl
  | ok rows => exact congrArg wrapped (Plan.drain_select_wildcard _ t conds rows)

/-! ## What a change does -/

/-- A computation followed by another succeeds exactly when the first succeeds and the
second succeeds on its value. -/
theorem Except.bind_eq_ok_iff {ε α β : Type} {x : Except ε α} {f : α → Except ε β} {b : β} :
    x.bind f = .ok b ↔ ∃ a, x = .ok a ∧ f a = .ok b := by
  cases x <;> simp [Except.bind]

theorem Except.map_eq_ok_iff {ε α β : Type} {x : Except ε α} {f : α → β} {b : β} :
    x.map f = .ok b ↔ ∃ a, x = .ok a ∧ f a = b := by
  cases x <;> simp [Except.map]

/-- What a statement that replaces table `t` by `rows` did: one save, after which `t` loads
as the store keeps the rows and every other table as before. -/
structure Replaces (db : Database) (t : String) (rows : List Row) (db' : Database) : Prop where
  save_eq : db.store.save t rows = .ok db'.store
  config_eq : db'.config = db.config
  load_self : db'.store.load t = db.store.keeps rows
  load_of_ne : ∀ u, u ≠ t → db'.store.load u = db.store.load u

theorem replaces_iff {db db' : Database} {t : String} {rows : List Row} :
    db.Replaces t rows db' ↔ db.store.save t rows = .ok db'.store ∧ db'.config = db.config :=
  ⟨fun h => ⟨h.save_eq, h.config_eq⟩, fun ⟨hs, hc⟩ =>
    ⟨hs, hc, Store.load_of_save_self hs, fun _ hu => Store.load_of_save_of_ne hs hu⟩⟩

theorem eq_of_config_eq {db db' : Database} {store : Store} (hs : db'.store = store)
    (hc : db'.config = db.config) : db' = { db with store } := by
  cases db'
  simp_all

/-- An INSERT whose names and values pair up loads the table, saves it with the row built
from the pairs at the end and reports one row. -/
theorem applyInsert_eq (db : Database) {i : Insertion} (hlen : i.columns.length = i.values.length) :
    db.applyInsert i = (db.store.load i.table).bind fun rows =>
      (db.store.save i.table (rows ++ [Row.ofPairs (i.columns.zip i.values)])).map fun store =>
        (⟨insertAck, 1⟩, { db with store }) := by
  have hne : (i.columns.length != i.values.length) = false := by simpa using hlen
  simp only [applyInsert, hne, Bool.false_eq_true, ite_false, bind, Except.bind, pure, Except.pure]
  cases db.store.load i.table with
  | error e => rfl
  | ok rows => cases db.store.save i.table (rows ++ [Row.ofPairs (i.columns.zip i.values)]) <;> rfl

/-- An INSERT succeeds exactly when its names and values pair up and the table loads and
saves; it then appends the row built from the pairs and reports one row. -/
theorem applyInsert_eq_ok_iff (db : Database) (i : Insertion) (a : Ack) (db' : Database) :
    db.applyInsert i = .ok (a, db') ↔
      i.columns.length = i.values.length ∧ a = ⟨insertAck, 1⟩ ∧
      ∃ rows, db.store.load i.table = .ok rows ∧
        db.Replaces i.table (rows ++ [Row.ofPairs (i.columns.zip i.values)]) db' := by
  by_cases hlen : i.columns.length = i.values.length
  · rw [applyInsert_eq db hlen]
    simp only [Except.bind_eq_ok_iff, Except.map_eq_ok_iff, Prod.mk.injEq, replaces_iff]
    constructor
    · rintro ⟨rows, hload, store, hsave, rfl, rfl⟩
      exact ⟨hlen, rfl, rows, hload, hsave, rfl⟩
    · rintro ⟨-, rfl, rows, hload, hsave, hc⟩
      exact ⟨rows, hload, db'.store, hsave, rfl, (eq_of_config_eq rfl hc).symm⟩
  · have hne : (i.columns.length != i.values.length) = true := by simpa using hlen
    simp only [applyInsert, hne, ite_true]
    constructor
    · intro h
      cases h
    · rintro ⟨h, -⟩
      exact absurd h hlen

/-- A DELETE loads the table, keeps the rows that fail its conditions (none without
conditions), saves them and reports how many went. -/
theorem applyDelete_eq (db : Database) (d : Deletion) :
    db.applyDelete d = (db.store.load d.table).bind fun rows =>
      (Feed.filterRows (d.conditions.map Predicate.compile) (some d.table) false rows).bind
        fun kept => (db.store.save d.table kept).map fun store =>
          (⟨deleteAck, rows.length - kept.length⟩, { db with store }) := by
  rw [applyDelete]
  cases db.store.load d.table with
  | error e => rfl
  | ok rows =>
      simp only [bind, Except.bind, pure, Except.pure]
      by_cases hc : d.conditions.isEmpty = true
      · simp only [List.isEmpty_iff.mp hc, List.map_nil, Feed.filterRows_nil_false]
        cases db.store.save d.table [] <;> rfl
      · have hdrain := Feed.drain_filter_of_drain_eq_ok (d.conditions.map Predicate.compile)
          (some d.table) false (Feed.drain_scan (Plan.batchSize db.config.batchSize) rows)
        simp only [hc, Bool.false_eq_true, ite_false, Plan.delete, hdrain]
        cases Feed.filterRows (d.conditions.map Predicate.compile) (some d.table) false rows with
        | error e => rfl
        | ok kept => cases db.store.save d.table kept <;> rfl

/-- A DELETE succeeds exactly when the table loads, every row evaluates and the kept rows
save. -/
theorem applyDelete_eq_ok_iff (db : Database) (d : Deletion) (a : Ack) (db' : Database) :
    db.applyDelete d = .ok (a, db') ↔
      ∃ (rows : List Row) (holds : Row → Bool), db.store.load d.table = .ok rows ∧
        (∀ r ∈ rows, Predicate.evalAll (d.conditions.map Predicate.compile) r (some d.table) =
          .ok (holds r)) ∧
        a = ⟨deleteAck, rows.length - (rows.filter fun r => !holds r).length⟩ ∧
        db.Replaces d.table (rows.filter fun r => !holds r) db' := by
  rw [applyDelete_eq]
  simp only [Except.bind_eq_ok_iff, Except.map_eq_ok_iff, Prod.mk.injEq,
    Feed.filterRows_eq_ok_iff, replaces_iff]
  constructor
  · rintro ⟨rows, hload, _, ⟨holds, hholds, rfl⟩, store, hsave, rfl, rfl⟩
    simp only [beq_false] at hsave ⊢
    exact ⟨rows, holds, hload, hholds, rfl, hsave, trivial⟩
  · rintro ⟨rows, holds, hload, hholds, rfl, hsave, hc⟩
    refine ⟨rows, hload, _, ⟨holds, hholds, rfl⟩, db'.store, ?_, ?_,
      (eq_of_config_eq rfl hc).symm⟩
    · simpa only [beq_false] using hsave
    · simp only [beq_false]

/-- INSERT and DELETE replace one table and nothing else, with the rows they compute; a
SELECT leaves the database as it was. -/
theorem statements_replace_one_table (db : Database) :
    (∀ i a db', db.applyInsert i = .ok (a, db') ↔
      i.columns.length = i.values.length ∧ a = ⟨insertAck, 1⟩ ∧
      ∃ rows, db.store.load i.table = .ok rows ∧
        db.Replaces i.table (rows ++ [Row.ofPairs (i.columns.zip i.values)]) db') ∧
    (∀ ps : List (String × Value), (Row.ofPairs ps).names = (ps.map (·.1)).eraseDups ∧
      ∀ x, (Row.ofPairs ps).get? x = ps.reverse.lookup x) ∧
    (∀ d a db', db.applyDelete d = .ok (a, db') ↔
      ∃ (rows : List Row) (holds : Row → Bool), db.store.load d.table = .ok rows ∧
        (∀ r ∈ rows, Predicate.evalAll (d.conditions.map Predicate.compile) r (some d.table) =
          .ok (holds r)) ∧
        a = ⟨deleteAck, rows.length - (rows.filter fun r => !holds r).length⟩ ∧
        (rows.filter fun r => !holds r).length ≤ rows.length ∧
        db.Replaces d.table (rows.filter fun r => !holds r) db') ∧
    (∀ ts, db.store = .memory ts → ∀ t rows db', db.Replaces t rows db' →
      db'.store = .memory (setEntry t rows ts)) ∧
    (∀ sql a db', db.executeInsert sql = .ok (a, db') ↔
      ∃ i, Sql.planInsert sql = .ok i ∧ db.applyInsert i = .ok (a, db')) ∧
    (∀ sql a db', db.executeDelete sql = .ok (a, db') ↔
      ∃ d, Sql.planDelete sql = .ok d ∧ db.applyDelete d = .ok (a, db')) ∧
    (∀ sql o db', Sql.StatementKind.detect sql = some .select → db.execute sql = .ok (o, db') →
      db' = db) := by
  refine ⟨applyInsert_eq_ok_iff db, fun ps => ⟨Row.names_ofPairs ps, Row.get?_ofPairs ps⟩,
    fun d a db' => ?_, fun ts hts t rows db' hrep => ?_,
    fun sql a db' => ?_, fun sql a db' => ?_, fun sql o db' hsel h => ?_⟩
  · rw [applyDelete_eq_ok_iff]
    constructor
    · rintro ⟨rows, holds, hload, hholds, ha, hrep⟩
      exact ⟨rows, holds, hload, hholds, ha, List.length_filter_le _ _, hrep⟩
    · rintro ⟨rows, holds, hload, hholds, ha, -, hrep⟩
      exact ⟨rows, holds, hload, hholds, ha, hrep⟩
  · have hsave := hrep.save_eq
    rw [hts] at hsave
    cases hv : validateTableName t with
    | error e => simp [Store.save, hv, bind, Except.bind] at hsave
    | ok u =>
        simp only [Store.save, hv, bind, Except.bind, pure, Except.pure, Except.ok.injEq] at hsave
        exact hsave.symm
  · simp only [executeInsert, bind, Except.bind]
    cases Sql.planInsert sql <;> simp
  · simp only [executeDelete, bind, Except.bind]
    cases Sql.planDelete sql <;> simp
  · simp only [execute, hsel] at h
    cases hs : db.executeSelect sql with
    | error e => simp [hs, Except.map] at h
    | ok rs =>
        simp only [hs, Except.map, Except.ok.injEq, Prod.mk.injEq] at h
        exact h.2.symm

/-- A DELETE fails exactly when the SELECT of every column under its conditions does; when
both succeed, the SELECT returns exactly the rows the DELETE removes. -/
theorem delete_removes_selected (db : Database) {t : String} (ht : validateTableName t = .ok ())
    (conds : List Condition) :
    (∀ e, (∃ e', db.applyDelete ⟨t, conds⟩ = .error e' ∧ e'.rootCause = e) ↔
      ∃ e', db.executeQuery { items := [.wildcard], table := t, conditions := conds } = .error e' ∧
        e'.rootCause = e) ∧
    (∀ a db' selected, db.applyDelete ⟨t, conds⟩ = .ok (a, db') →
      db.executeQuery { items := [.wildcard], table := t, conditions := conds } = .ok selected →
      ∃ (rows : List Row) (holds : Row → Bool), db.store.load t = .ok rows ∧
        (∀ r ∈ rows, Predicate.evalAll (conds.map Predicate.compile) r (some t) = .ok (holds r)) ∧
        selected = rows.filter holds ∧
        db.store.save t (rows.filter fun r => !holds r) = .ok db'.store ∧
        a.rowsAffected = selected.length) := by
  have hdelete := applyDelete_eq db ⟨t, conds⟩
  have hselect := executeQuery_wildcard db t conds
  simp only at hdelete
  cases hload : db.store.load t with
  | error e =>
      simp only [hload, Except.bind] at hdelete hselect
      refine ⟨fun e₀ => ?_, fun a db' sel hd => by rw [hdelete] at hd; cases hd⟩
      simp [hdelete, hselect, wrapped, Error.rootCause_wrapQuery]
  | ok rows =>
      simp only [hload, Except.bind] at hdelete hselect
      cases hsel : Feed.filterRows (conds.map Predicate.compile) (some t) true rows with
      | error e =>
          have hkeep : Feed.filterRows (conds.map Predicate.compile) (some t) false rows = .error e :=
            (Feed.filterRows_eq_error_iff _ _ true false rows e).mp hsel
          rw [hkeep] at hdelete
          rw [hsel] at hselect
          refine ⟨fun e₀ => ?_, fun a db' sel hd => by rw [hdelete] at hd; cases hd⟩
          simp [hdelete, hselect, wrapped, Error.rootCause_wrapQuery]
      | ok sel =>
          obtain ⟨holds, hholds, rfl⟩ := (Feed.filterRows_eq_ok_iff _ _ true rows sel).mp hsel
          have hkeep := Feed.filterRows_eq_filter (conds.map Predicate.compile) (some t) false hholds
          obtain ⟨store, hsave⟩ := Store.exists_save_eq_ok (s := db.store) ht
            (rows.filter fun r => !holds r)
          simp only [hkeep, beq_false, hsave] at hdelete
          simp only [hsel, beq_true] at hselect
          refine ⟨fun e₀ => ?_, fun a db' sel' hd hs => ?_⟩
          · simp [hdelete, hselect, wrapped, Except.map]
          · simp only [hdelete, Except.map, Except.ok.injEq, Prod.mk.injEq] at hd
            simp only [hselect, wrapped, Except.ok.injEq] at hs
            obtain ⟨rfl, rfl⟩ := hd
            subst hs
            refine ⟨rows, holds, rfl, hholds, rfl, hsave, ?_⟩
            exact Nat.sub_eq_of_eq_add (List.length_eq_length_filter_add holds)

theorem delete_removes_selected_users :
    validateTableName "users" = .ok () ∧
    ((∀ e, (∃ e', (⟨.memory [("users", [Row.ofPairs [("age", .text "30")],
        Row.ofPairs [("age", .text "40")]])], {}⟩ : Database).applyDelete
          ⟨"users", [⟨"age", .gt, .text "30"⟩]⟩ = .error e' ∧ e'.rootCause = e) ↔
      ∃ e', (⟨.memory [("users", [Row.ofPairs [("age", .text "30")],
        Row.ofPairs [("age", .text "40")]])], {}⟩ : Database).executeQuery
          { items := [.wildcard], table := "users", conditions := [⟨"age", .gt, .text "30"⟩] } =
          .error e' ∧ e'.rootCause = e) ∧
    (∀ a db' selected, (⟨.memory [("users", [Row.ofPairs [("age", .text "30")],
        Row.ofPairs [("age", .text "40")]])], {}⟩ : Database).applyDelete
          ⟨"users", [⟨"age", .gt, .text "30"⟩]⟩ = .ok (a, db') →
      (⟨.memory [("users", [Row.ofPairs [("age", .text "30")],
        Row.ofPairs [("age", .text "40")]])], {}⟩ : Database).executeQuery
          { items := [.wildcard], table := "users", conditions := [⟨"age", .gt, .text "30"⟩] } =
          .ok selected →
      ∃ (rows : List Row) (holds : Row → Bool),
        Store.load (.memory [("users", [Row.ofPairs [("age", .text "30")],
          Row.ofPairs [("age", .text "40")]])]) "users" = .ok rows ∧
        (∀ r ∈ rows, Predicate.evalAll ([⟨"age", .gt, .text "30"⟩].map Predicate.compile) r
          (some "users") = .ok (holds r)) ∧
        selected = rows.filter holds ∧
        Store.save (.memory [("users", [Row.ofPairs [("age", .text "30")],
          Row.ofPairs [("age", .text "40")]])]) "users" (rows.filter fun r => !holds r) =
          .ok db'.store ∧
        a.rowsAffected = selected.length)) :=
  ⟨rfl, delete_removes_selected _ rfl _⟩

end Database

end Tabula
