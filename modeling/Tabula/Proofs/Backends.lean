import Tabula.Cli.Run
import Tabula.Proofs.Answer
import Tabula.Proofs.Write

/-!
# Memory and a folder answer alike

Memory and a folder that hold the same uniform tables answer every statement of a run
alike (`memory_and_folder_agree_on_uniform_runs`).
-/

namespace Tabula

/-! ## Rows a folder gives back as saved -/

namespace Row

/-- A row is its names, each with its cell. -/
theorem fields_eq_map_get? (r : Row) :
    r.fields = r.names.map fun c => (c, (r.get? c).getD .null) := by
  obtain ⟨fields, nodup⟩ := r
  simp only [names, get?]
  induction fields with
  | nil => rfl
  | cons p fields ih =>
      obtain ⟨k, v⟩ := p
      simp only [List.map_cons, List.nodup_cons] at nodup
      have hrest : ∀ c ∈ fields.map (·.1),
          (((((k, v) :: fields).find? (·.1 == c)).map (·.2)).getD .null) =
            (((fields.find? (·.1 == c)).map (·.2)).getD .null) := by
        intro c hc
        have hkc : (k == c) = false := by
          simp only [beq_eq_false_iff_ne]
          rintro rfl
          exact nodup.1 hc
        simp [hkc]
      have hhead : ((k, v) :: fields).find? (·.1 == k) = some (k, v) :=
        List.find?_cons_of_pos (by simp)
      rw [List.map_cons, List.map_cons, hhead]
      congr 1
      calc fields
          = (fields.map (·.1)).map fun c => (c, ((fields.find? (·.1 == c)).map (·.2)).getD .null) :=
            ih nodup.2
        _ = (fields.map (·.1)).map fun c =>
              (c, ((((k, v) :: fields).find? (·.1 == c)).map (·.2)).getD .null) :=
            List.map_congr_left fun c hc => by rw [hrest c hc]

/-- A name of a row finds one of its cells. -/
theorem get?_mem_values {r : Row} {c : String} (h : c ∈ r.names) :
    ∃ v, r.get? c = some v ∧ v ∈ r.values := by
  unfold get? values
  cases hf : r.fields.find? (·.1 == c) with
  | none =>
      obtain ⟨p, hp, rfl⟩ := List.mem_map.mp h
      simpa using List.find?_eq_none.mp hf p hp
  | some p => exact ⟨p.2, rfl, List.mem_map_of_mem (List.mem_of_find?_eq_some hf)⟩

end Row

/-- Names already present leave the union as it is. -/
theorem foldl_pushNew_of_subset {ns acc : List String} (h : ∀ n ∈ ns, n ∈ acc) :
    ns.foldl (fun acc n => if acc.contains n then acc else acc ++ [n]) acc = acc := by
  induction ns with
  | nil => rfl
  | cons n ns ih =>
      have hn : acc.contains n = true := by simpa using h n (.head ns)
      rw [List.foldl_cons, if_pos hn]
      exact ih fun m hm => h m (.tail n hm)

/-- New names, none repeated, are appended in order. -/
theorem foldl_pushNew_of_nodup {ns acc : List String} (h : (acc ++ ns).Nodup) :
    ns.foldl (fun acc n => if acc.contains n then acc else acc ++ [n]) acc = acc ++ ns := by
  induction ns generalizing acc with
  | nil => simp
  | cons n ns ih =>
      have hn : n ∉ acc := fun hmem => by
        simp only [List.nodup_append, List.mem_cons] at h
        exact h.2.2 n hmem n (.inl rfl) rfl
      rw [List.foldl_cons, if_neg (by simpa using hn), ih (by simpa using h)]
      simp

/-- Rows that all carry the same names, none repeated, have those names as their union. -/
theorem columnUnion_of_names_eq {r : Row} {rows : List Row}
    (h : ∀ s ∈ r :: rows, s.names = r.names) : columnUnion (r :: rows) = r.names := by
  have hfirst : r.names.foldl (fun acc n => if acc.contains n then acc else acc ++ [n]) [] =
      r.names := by
    rw [foldl_pushNew_of_nodup (by simpa [Row.names] using r.nodup)]
    simp
  unfold columnUnion
  rw [List.foldl_cons, hfirst]
  induction rows with
  | nil => rfl
  | cons s rows ih =>
      have hs : s.names = r.names := h s (.tail r (.head rows))
      rw [List.foldl_cons, hs, foldl_pushNew_of_subset fun n hn => hn]
      exact ih fun x hx => h x (by
        rcases List.mem_cons.mp hx with rfl | hx
        · exact .head _
        · exact .tail r (.tail s hx))

/-- Rows a folder gives back exactly as saved: text cells under one non-empty order of
names, whose first name the reader does not take for a byte order mark. -/
def Uniform (d : Char) : List Row → Prop
  | [] => True
  | r :: rows => r.names ≠ [] ∧ Csv.HeadSafe d r.names ∧
      ∀ s ∈ r :: rows, s.names = r.names ∧ ∀ v ∈ s.values, v.asText?.isSome

instance (d : Char) : DecidablePred (Uniform d)
  | [] => inferInstanceAs (Decidable True)
  | r :: rows => inferInstanceAs (Decidable (r.names ≠ [] ∧ Csv.HeadSafe d r.names ∧
      ∀ s ∈ r :: rows, s.names = r.names ∧ ∀ v ∈ s.values, v.asText?.isSome))

/-- A row of text cells is read back as it was from a record under its own names. -/
theorem Row.readBack_of_text {r : Row} (h : ∀ v ∈ r.values, v.asText?.isSome) :
    r.names.map (fun c => (c, Value.text (((r.get? c).map Value.field).getD ""))) = r.fields := by
  rw [r.fields_eq_map_get?]
  apply List.map_congr_left
  intro c hc
  obtain ⟨v, hv, hmem⟩ := Row.get?_mem_values hc
  have htext := h v hmem
  rw [hv]
  cases v with
  | text s => rfl
  | null => simp [Value.asText?] at htext
  | number x => simp [Value.asText?] at htext

/-- Uniform rows written as CSV text read back exactly as they were. -/
theorem Csv.readTable_writeTable_of_uniform {d : Char} (hd : Csv.Separates d) (hbom : d ≠ Csv.bom)
    {rows : List Row} (h : Uniform d rows) : Csv.readTable d (Csv.writeTable d rows) = rows := by
  cases rows with
  | nil =>
      have hread := Csv.readTable_writeTable hd hbom [] (fun n hn => by simp [columnUnion] at hn)
      simpa [columnUnion] using hread
  | cons r rows =>
      obtain ⟨hne, hsafe, hall⟩ := h
      have hK := columnUnion_of_names_eq fun s hs => (hall s hs).1
      have hread := Csv.readTable_writeTable hd hbom (r :: rows) (hK ▸ hsafe)
      rw [if_neg (hK ▸ hne), hK] at hread
      have hfields : (r :: rows).map (fun s => r.names.map fun c =>
          (c, Value.text (((s.get? c).map Value.field).getD ""))) = (r :: rows).map Row.fields := by
        apply List.map_congr_left
        intro s hs
        rw [← (hall s hs).1]
        exact Row.readBack_of_text (hall s hs).2
      rw [hfields] at hread
      exact List.map_injective_iff.mpr (fun a b hab => Row.ext_fields hab) hread

/-- A folder gives back uniform rows exactly as saved. -/
theorem Store.keeps_folder_of_uniform {d : Char} (hd : Csv.Separates d) (hbom : d ≠ Csv.bom)
    (hascii : d.toNat < 128) (files : List (String × FileRead)) {rows : List Row}
    (h : Uniform d rows) : (Store.folder d files).keeps rows = .ok rows := by
  rw [Store.keeps_folder hascii, Csv.readTable_writeTable_of_uniform hd hbom h]

/-! ## A statement reads the tables it names -/

/-- Two runs of one statement that compare as one: the same failure, or the same answer
with both databases kept or both replacing one named table by the same rows. -/
inductive SameEffect {α : Type} (names : List String) (a b : Database) :
    Except Error (α × Database) → Except Error (α × Database) → Prop
  | error (e : Error) : SameEffect names a b (.error e) (.error e)
  | keep (x : α) : SameEffect names a b (.ok (x, a)) (.ok (x, b))
  | replace (x : α) {t : String} {rows : List Row} {a' b' : Database} (ht : t ∈ names)
      (ha : a.Replaces t rows a') (hb : b.Replaces t rows b') :
      SameEffect names a b (.ok (x, a')) (.ok (x, b'))

namespace SameEffect

variable {α β : Type} {names : List String} {a b : Database}

theorem map {ra rb : Except Error (α × Database)} (h : SameEffect names a b ra rb)
    (f : α → β) :
    SameEffect names a b (ra.map fun p => (f p.1, p.2)) (rb.map fun p => (f p.1, p.2)) := by
  cases h with
  | error e => exact .error e
  | keep x => exact .keep (f x)
  | replace x ht ha hb => exact .replace (f x) ht ha hb

/-- Saving the same rows under a named table: both saves fail alike, or both replace it. -/
theorem save {t : String} (ht : t ∈ names) (rows : List Row) (x : α) :
    SameEffect names a b ((a.store.save t rows).map fun store => (x, { a with store }))
      ((b.store.save t rows).map fun store => (x, { b with store })) := by
  cases hv : validateTableName t with
  | error e =>
      rw [(Store.save_eq_error_iff a.store t rows e).mpr hv,
        (Store.save_eq_error_iff b.store t rows e).mpr hv]
      exact .error e
  | ok u =>
      obtain ⟨sa, hsa⟩ := Store.exists_save_eq_ok (s := a.store) hv rows
      obtain ⟨sb, hsb⟩ := Store.exists_save_eq_ok (s := b.store) hv rows
      rw [hsa, hsb]
      exact .replace x ht (Database.replaces_iff.mpr ⟨hsa, rfl⟩)
        (Database.replaces_iff.mpr ⟨hsb, rfl⟩)

end SameEffect

namespace Database

variable {a b : Database}

/-- A query reads the database through its table and its joined table. -/
theorem executeQuery_congr {q : Query} (hc : a.config = b.config)
    (hl : ∀ t ∈ q.table :: (q.join.map (·.table)).toList, a.store.load t = b.store.load t) :
    a.executeQuery q = b.executeQuery q := by
  have hmain := hl q.table (.head _)
  cases hj : q.join with
  | none => simp only [executeQuery, runQuery, hmain, hc, hj]
  | some j =>
      have hjoin : a.store.load j.table = b.store.load j.table := hl j.table (by simp [hj])
      simp only [executeQuery, runQuery, hmain, hc, hj, hjoin]

/-- An INSERT reads the database through its table. -/
theorem applyInsert_congr {i : Insertion} (hl : a.store.load i.table = b.store.load i.table) :
    SameEffect [i.table] a b (a.applyInsert i) (b.applyInsert i) := by
  by_cases hlen : i.columns.length = i.values.length
  · rw [applyInsert_eq a hlen, applyInsert_eq b hlen, hl]
    cases b.store.load i.table with
    | error e => exact .error e
    | ok rows => exact SameEffect.save (.head []) _ _
  · have hne : (i.columns.length != i.values.length) = true := by simpa using hlen
    simp only [applyInsert, hne, ite_true]
    exact .error _

/-- A DELETE reads the database through its table. -/
theorem applyDelete_congr {d : Deletion} (hl : a.store.load d.table = b.store.load d.table) :
    SameEffect [d.table] a b (a.applyDelete d) (b.applyDelete d) := by
  rw [applyDelete_eq, applyDelete_eq, hl]
  cases b.store.load d.table with
  | error e => exact .error e
  | ok rows =>
      simp only [Except.bind]
      cases Feed.filterRows (d.conditions.map Predicate.compile) (some d.table) false rows with
      | error e => exact .error e
      | ok kept => exact SameEffect.save (.head []) _ _

/-- A statement reads a database only through the tables it names and its settings, and
changes at most one of those tables. -/
theorem execute_congr {sql : String} (hc : a.config = b.config)
    (hl : ∀ t ∈ Cli.statementTables sql, a.store.load t = b.store.load t) :
    SameEffect (Cli.statementTables sql) a b (a.execute sql) (b.execute sql) := by
  unfold Cli.statementTables at hl ⊢
  unfold execute
  revert hl
  cases Sql.StatementKind.detect sql with
  | none => exact fun _ => .error _
  | some k =>
      cases k with
      | select =>
          simp only [executeSelect]
          cases Sql.planSelect sql with
          | error e => exact fun _ => .error _
          | ok q =>
              intro hl
              dsimp only at hl ⊢
              rw [executeQuery_congr hc hl]
              cases b.executeQuery q with
              | error e => exact .error e
              | ok rs => exact .keep (Outcome.rows rs)
      | insert =>
          simp only [executeInsert, bind, Except.bind]
          cases Sql.planInsert sql with
          | error e => exact fun _ => .error e
          | ok i => exact fun hl => (applyInsert_congr (hl i.table (.head []))).map Outcome.ack
      | delete =>
          simp only [executeDelete, bind, Except.bind]
          cases Sql.planDelete sql with
          | error e => exact fun _ => .error e
          | ok d => exact fun hl => (applyDelete_congr (hl d.table (.head []))).map Outcome.ack

end Database

/-! ## Runs of statements -/

namespace Database

/-- One statement of a run: its answer, and the database the next statement runs on; a
failed statement leaves the database as it was. -/
def step (db : Database) (sql : String) : Except Error Outcome × Database :=
  match db.execute sql with
  | .ok (o, db') => (.ok o, db')
  | .error e => (.error e, db)

/-- The answers of statements run one after another. -/
def runAll : Database → List String → List (Except Error Outcome)
  | _, [] => []
  | db, sql :: rest => (db.step sql).1 :: (db.step sql).2.runAll rest

end Database

instance (t : String) : Decidable (validateTableName t = .ok ()) :=
  match validateTableName t with
  | .ok () => isTrue rfl
  | .error _ => isFalse fun h => by cases h

/-- The table under a name is uniform, or does not load. -/
def LoadsUniform (d : Char) (s : Store) (t : String) : Prop :=
  ∀ rows, s.load t = .ok rows → Uniform d rows

instance (d : Char) (s : Store) (t : String) : Decidable (LoadsUniform d s t) :=
  match h : s.load t with
  | .ok rows => decidable_of_iff (Uniform d rows) (by simp [LoadsUniform, h])
  | .error e => isTrue (by simp [LoadsUniform, h])

/-- A statement that names only valid tables and, run on the database, leaves each of them
uniform. -/
def KeepsUniform (d : Char) (db : Database) (sql : String) : Prop :=
  ∀ t ∈ Cli.statementTables sql,
    validateTableName t = .ok () ∧ LoadsUniform d (db.step sql).2.store t

instance (d : Char) (db : Database) (sql : String) : Decidable (KeepsUniform d db sql) :=
  inferInstanceAs (Decidable (∀ t ∈ Cli.statementTables sql,
    validateTableName t = .ok () ∧ LoadsUniform d (db.step sql).2.store t))

/-- A run whose every statement keeps the tables it names uniform, each on the database the
run has reached. -/
def SafeRun (d : Char) : Database → List String → Prop
  | _, [] => True
  | db, sql :: rest => KeepsUniform d db sql ∧ SafeRun d (db.step sql).2 rest

instance decideSafeRun (d : Char) : (db : Database) → (sqls : List String) →
    Decidable (SafeRun d db sqls)
  | _, [] => inferInstanceAs (Decidable True)
  | db, sql :: rest =>
      haveI := decideSafeRun d (db.step sql).2 rest
      inferInstanceAs (Decidable (KeepsUniform d db sql ∧ SafeRun d (db.step sql).2 rest))

/-! ## Memory and a folder in step -/

/-- A save keeps the kind of store, so the store keeps rows as before. -/
theorem Store.keeps_of_save {s s' : Store} {t : String} {rows : List Row}
    (h : s.save t rows = .ok s') : s'.keeps = s.keeps := by
  cases hv : validateTableName t with
  | error e => cases s <;> simp [Store.save, hv, bind, Except.bind] at h
  | ok u =>
      cases s <;>
        simp only [Store.save, hv, bind, Except.bind, pure, Except.pure, Except.ok.injEq] at h <;>
        subst h <;> rfl

/-- A memory database and a folder database that answer alike: same settings, same uniform
tables under every valid name, and rows kept as saved. -/
structure Twins (d : Char) (m f : Database) : Prop where
  config_eq : m.config = f.config
  load_eq : ∀ t, validateTableName t = .ok () → m.store.load t = f.store.load t
  uniform : ∀ t, validateTableName t = .ok () → LoadsUniform d m.store t
  keeps_memory : ∀ rows, m.store.keeps rows = .ok rows
  keeps_folder : ∀ rows, Uniform d rows → f.store.keeps rows = .ok rows

namespace Twins

variable {d : Char} {m f : Database}

/-- Both replacing a table by the same rows keeps them twins, when the rows are uniform. -/
theorem replace (h : Twins d m f) {t : String} {rows : List Row} {m' f' : Database}
    (hm : m.Replaces t rows m') (hf : f.Replaces t rows f') (hu : LoadsUniform d m'.store t) :
    Twins d m' f' := by
  have hrows : Uniform d rows := hu rows (by rw [hm.load_self, h.keeps_memory])
  refine ⟨by rw [hm.config_eq, hf.config_eq, h.config_eq], fun u hv => ?_, fun u hv => ?_,
    by rw [Store.keeps_of_save hm.save_eq]; exact h.keeps_memory,
    by rw [Store.keeps_of_save hf.save_eq]; exact h.keeps_folder⟩
  · by_cases hu' : u = t
    · subst hu'
      rw [hm.load_self, hf.load_self, h.keeps_memory, h.keeps_folder rows hrows]
    · rw [hm.load_of_ne u hu', hf.load_of_ne u hu']
      exact h.load_eq u hv
  · by_cases hu' : u = t
    · subst hu'
      exact hu
    · intro rows' hload
      rw [hm.load_of_ne u hu'] at hload
      exact h.uniform u hv rows' hload

/-- One statement that keeps its tables uniform answers alike on twins and leaves them
twins. -/
theorem step (h : Twins d m f) {sql : String} (hk : KeepsUniform d m sql) :
    (m.step sql).1 = (f.step sql).1 ∧ Twins d (m.step sql).2 (f.step sql).2 := by
  have hsame := Database.execute_congr h.config_eq fun t ht => h.load_eq t (hk t ht).1
  unfold KeepsUniform Database.step at hk
  unfold Database.step
  generalize m.execute sql = rm at hsame hk ⊢
  generalize f.execute sql = rf at hsame ⊢
  cases hsame with
  | error e => exact ⟨rfl, h⟩
  | keep o => exact ⟨rfl, h⟩
  | replace o ht hm hf => exact ⟨rfl, h.replace hm hf (hk _ ht).2⟩

/-- Twins answer every statement of a safe run alike. -/
theorem runAll (h : Twins d m f) {sqls : List String} (hrun : SafeRun d m sqls) :
    m.runAll sqls = f.runAll sqls := by
  induction sqls generalizing m f with
  | nil => rfl
  | cons sql rest ih =>
      obtain ⟨hk, hrest⟩ := hrun
      obtain ⟨hanswer, htwins⟩ := h.step hk
      rw [Database.runAll, Database.runAll, hanswer, ih htwins hrest]

end Twins

/-! ## The folder written from memory -/

namespace Store

theorem mem_of_load_memory {tables : List (String × List Row)} {t : String} {rows : List Row}
    (h : (Store.memory tables).load t = .ok rows) : (t, rows) ∈ tables := by
  simp only [load] at h
  split at h
  · next rows' hl =>
      cases h
      obtain ⟨l₁, l₂, rfl, -⟩ := List.lookup_eq_some_iff.mp hl
      simp
  · cases h

/-- The file of a table in a folder written from tables holds the text of the table. -/
theorem lookup_fileName_written (d : Char) (tables : List (String × List Row)) (t : String) :
    (tables.map fun p => (fileName p.1, FileRead.bytes (Csv.utf8 (Csv.writeTable d p.2)))).lookup
        (fileName t) =
      (tables.lookup t).map fun rows => .bytes (Csv.utf8 (Csv.writeTable d rows)) := by
  induction tables with
  | nil => rfl
  | cons p tables ih =>
      obtain ⟨k, rows⟩ := p
      by_cases h : t = k
      · subst h
        simp
      · have hfile : (fileName t == fileName k) = false := by
          simpa using fun heq => h (fileName_inj heq)
        have hname : (t == k) = false := by simpa using h
        simp [List.lookup_cons, hfile, hname, ih]

/-- A folder written from uniform tables loads every valid name as memory holding the
tables does. -/
theorem load_folder_written {d : Char} (hd : Csv.Separates d) (hbom : d ≠ Csv.bom)
    (hascii : d.toNat < 128) {tables : List (String × List Row)} (huni : ∀ p ∈ tables, Uniform d p.2)
    {t : String} (ht : validateTableName t = .ok ()) :
    (Store.folder d (tables.map fun p =>
        (fileName p.1, FileRead.bytes (Csv.utf8 (Csv.writeTable d p.2))))).load t =
      (Store.memory tables).load t := by
  simp only [load, ht, bind, Except.bind, lookup_fileName_written]
  cases hl : tables.lookup t with
  | none => rfl
  | some rows =>
      have hmem : (t, rows) ∈ tables := mem_of_load_memory (by simp [load, hl])
      exact keeps_folder_of_uniform hd hbom hascii [] (huni _ hmem)

end Store

/-- Under valid settings, uniform rows load back as saved from memory and from a folder, and
the two answer every statement of a run that keeps its tables uniform alike. -/
theorem memory_and_folder_agree_on_uniform_runs {cfg : Config} (hcfg : cfg.validate = .ok ()) :
    (∀ (tables : List (String × List Row)) (files : List (String × FileRead)) (t : String)
        (R : List Row), validateTableName t = .ok () → Uniform cfg.delimiter R →
      ∃ s s', (Store.memory tables).save t R = .ok s ∧ s.load t = .ok R ∧
        (Store.folder cfg.delimiter files).save t R = .ok s' ∧ s'.load t = .ok R) ∧
    (∀ (tables : List (String × List Row)) (files : List (String × FileRead)),
      (∀ t, validateTableName t = .ok () →
        (Store.memory tables).load t = (Store.folder cfg.delimiter files).load t) →
      (∀ p ∈ tables, Uniform cfg.delimiter p.2) →
      ∀ sqls, SafeRun cfg.delimiter ⟨.memory tables, cfg⟩ sqls →
        Database.runAll ⟨.memory tables, cfg⟩ sqls =
          Database.runAll ⟨.folder cfg.delimiter files, cfg⟩ sqls) := by
  obtain ⟨hsep, hbom⟩ := Config.separates_of_validate hcfg
  have hascii := (Config.delimiter_of_validate hcfg).1
  refine ⟨fun tables files t R ht hR => ?_, fun tables files hsame huni sqls hrun => ?_⟩
  · obtain ⟨s, hs⟩ := Store.exists_save_eq_ok (s := .memory tables) ht R
    obtain ⟨s', hs'⟩ := Store.exists_save_eq_ok (s := .folder cfg.delimiter files) ht R
    refine ⟨s, s', hs, Store.load_of_save_self hs, hs', ?_⟩
    rw [Store.load_of_save_self hs', Store.keeps_folder_of_uniform hsep hbom hascii files hR]
  · have htwins : Twins cfg.delimiter ⟨.memory tables, cfg⟩ ⟨.folder cfg.delimiter files, cfg⟩ :=
      { config_eq := rfl
        load_eq := hsame
        uniform := fun t _ rows hload => huni _ (Store.mem_of_load_memory hload)
        keeps_memory := fun _ => rfl
        keeps_folder := fun _ hR => Store.keeps_folder_of_uniform hsep hbom hascii files hR }
    exact htwins.runAll hrun

theorem memory_and_folder_agree_on_uniform_runs_insert_delete :
    Config.validate {} = .ok () ∧
    (∀ t, validateTableName t = .ok () →
      (Store.memory [("t", [Row.ofPairs [("a", .text "1")]])]).load t =
        (Store.folder ',' [(Store.fileName "t", .bytes (Csv.utf8 (Csv.writeTable ',' [Row.ofPairs [("a", .text "1")]])))]).load t) ∧
    (∀ p ∈ [("t", [Row.ofPairs [("a", .text "1")]])], Uniform ',' p.2) ∧
    SafeRun ',' ⟨.memory [("t", [Row.ofPairs [("a", .text "1")]])], {}⟩
      ["INSERT INTO t (a) VALUES ('2')", "DELETE FROM t WHERE a = '1'", "SELECT * FROM t"] ∧
    Database.runAll ⟨.memory [("t", [Row.ofPairs [("a", .text "1")]])], {}⟩
        ["INSERT INTO t (a) VALUES ('2')", "DELETE FROM t WHERE a = '1'", "SELECT * FROM t"] =
      Database.runAll ⟨.folder ',' [(Store.fileName "t", .bytes (Csv.utf8 (Csv.writeTable ',' [Row.ofPairs [("a", .text "1")]])))], {}⟩
        ["INSERT INTO t (a) VALUES ('2')", "DELETE FROM t WHERE a = '1'", "SELECT * FROM t"] := by
  have hcfg : Config.validate {} = .ok () := rfl
  have huni : ∀ p ∈ [("t", [Row.ofPairs [("a", .text "1")]])], Uniform ',' p.2 := by decide
  obtain ⟨hsep, hbom⟩ := Config.separates_of_validate hcfg
  have hsame : ∀ t, validateTableName t = .ok () →
      (Store.memory [("t", [Row.ofPairs [("a", .text "1")]])]).load t =
        (Store.folder ',' [(Store.fileName "t", .bytes (Csv.utf8 (Csv.writeTable ',' [Row.ofPairs [("a", .text "1")]])))]).load t :=
    fun t ht => (Store.load_folder_written hsep hbom (by decide) huni ht).symm
  have hrun : SafeRun ',' ⟨.memory [("t", [Row.ofPairs [("a", .text "1")]])], {}⟩
      ["INSERT INTO t (a) VALUES ('2')", "DELETE FROM t WHERE a = '1'", "SELECT * FROM t"] := by
    decide +kernel
  exact ⟨hcfg, hsame, huni, hrun,
    (memory_and_folder_agree_on_uniform_runs hcfg).2 _ _ hsame huni _ hrun⟩

/-- From the same uniform table, an INSERT of NULL leaves a null in memory and empty text
in the folder, and a SELECT for the null then answers differently. -/
theorem insert_null_answers_differ :
    Uniform ',' [Row.ofPairs [("a", .text "1")]] ∧
    (Database.runAll ⟨.memory [("t", [Row.ofPairs [("a", .text "1")]])], {}⟩
        ["INSERT INTO t (a) VALUES (NULL)", "SELECT * FROM t WHERE a IS NULL"]).map
      (fun r => (r.map Cli.answerText).toOption) =
      [some "Insertion successful.", some "Query Result:\n[\n  \x7b\n    \"a\": null\n  \x7d\n]"] ∧
    (Database.runAll
        ⟨.folder ',' [(Store.fileName "t", .bytes (Csv.utf8 (Csv.writeTable ',' [Row.ofPairs [("a", .text "1")]])))], {}⟩
        ["INSERT INTO t (a) VALUES (NULL)", "SELECT * FROM t WHERE a IS NULL"]).map
      (fun r => (r.map Cli.answerText).toOption) =
      [some "Insertion successful.", some "Query Result:\n[]"] := by
  refine ⟨by decide, ?_, ?_⟩
  · decide +kernel
  · decide +kernel

end Tabula
