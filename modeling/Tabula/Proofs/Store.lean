import Mathlib.Data.List.Forall2
import Tabula.Engine
import Tabula.Proofs.Csv
import Tabula.Proofs.CsvBytes

/-!
# Saving and loading tables

A save replaces one table and nothing else; a folder gives a saved table back as CSV
reads it (`folder_load_after_save`).
-/

namespace Tabula

theorem lookup_setEntry {α : Type} (k u : String) (v : α) (l : List (String × α)) :
    (setEntry k v l).lookup u = if u = k then some v else l.lookup u := by
  induction l with
  | nil =>
      by_cases h : u = k
      · simp [setEntry, h]
      · have h' : (u == k) = false := by simpa using h
        simp [setEntry, List.lookup_cons, h, h']
  | cons e l ih =>
      obtain ⟨k', v'⟩ := e
      by_cases hk : k' = k
      · subst hk
        by_cases h : u = k'
        · simp [setEntry, h]
        · have h' : (u == k') = false := by simpa using h
          simp [setEntry, List.lookup_cons, h, h']
      · have hk' : (k' == k) = false := by simpa using hk
        by_cases h : u = k'
        · subst h
          simp [setEntry, hk', hk]
        · have h' : (u == k') = false := by simpa using h
          simp [setEntry, List.lookup_cons, hk', h', ih]

/-- A row whose cells are given by a list of names, each with a value: a listed name holds
its value. -/
theorem Row.get?_of_fields_eq_map {row : Row} {names : List String} {v : String → Value}
    (h : row.fields = names.map fun c => (c, v c)) {c : String} (hc : c ∈ names) :
    row.get? c = some (v c) := by
  rw [Row.get?, h]
  clear h
  induction names with
  | nil => cases hc
  | cons n names ih =>
      by_cases hn : n = c
      · subst hn
        simp
      · have hc' : c ∈ names := by simpa [Ne.symm hn] using hc
        have hn' : (n == c) = false := by simpa using hn
        simpa [hn'] using ih hc'

/-- Settings that pass their check have an ASCII delimiter the reader tells from quotes and
line ends. -/
theorem Config.delimiter_of_validate {c : Config} (h : c.validate = .ok ()) :
    c.delimiter.toNat < 128 ∧ Csv.Separates c.delimiter := by
  unfold Config.validate at h
  split at h
  · cases h
  · split at h
    · cases h
    · next hok =>
      simp only [ge_iff_le, Bool.or_eq_true, decide_eq_true_eq, beq_iff_eq, not_or,
        Nat.not_le] at hok
      exact ⟨hok.1.1.1, hok.1.1.2, hok.1.2, hok.2⟩

/-- Such a delimiter is not the byte order mark either. -/
theorem Config.separates_of_validate {c : Config} (h : c.validate = .ok ()) :
    Csv.Separates c.delimiter ∧ c.delimiter ≠ Csv.bom := by
  obtain ⟨hascii, hsep⟩ := Config.delimiter_of_validate h
  refine ⟨hsep, fun hb => ?_⟩
  rw [hb] at hascii
  exact absurd hascii (by decide)

namespace Store

/-- What a store gives back of rows it saved: memory keeps them as they are, a folder
reads back the bytes it wrote. -/
def keeps : Store → List Row → Except Error (List Row)
  | .memory _, rows => .ok rows
  | .folder d _, rows => (Csv.readTableBytes d (Csv.utf8 (Csv.writeTable d rows))).mapError .csv

/-- With an ASCII delimiter, a folder gives back the rows of the text it wrote. -/
theorem keeps_folder {d : Char} (hd : d.toNat < 128) (files : List (String × FileRead))
    (rows : List Row) : (folder d files).keeps rows = .ok (Csv.readTable d (Csv.writeTable d rows)) := by
  rw [keeps, Csv.readTableBytes_utf8 hd]
  rfl

theorem fileName_inj {t u : String} (h : fileName u = fileName t) : u = t :=
  (String.append_left_inj ".csv").mp h

/-- A save fails exactly when the table name is refused, and with the refusal. -/
theorem save_eq_error_iff (s : Store) (t : String) (rows : List Row) (e : Error) :
    s.save t rows = .error e ↔ validateTableName t = .error e := by
  cases hv : validateTableName t with
  | error e' => cases s <;> simp [save, hv, bind, Except.bind]
  | ok u => cases s <;> simp [save, hv, bind, Except.bind, pure, Except.pure]

theorem exists_save_eq_ok {s : Store} {t : String} (ht : validateTableName t = .ok ())
    (rows : List Row) : ∃ s', s.save t rows = .ok s' := by
  cases s <;> simp [save, ht, bind, Except.bind, pure, Except.pure]

/-- After a save, the table loads as the store keeps the rows. -/
theorem load_of_save_self {s s' : Store} {t : String} {rows : List Row}
    (h : s.save t rows = .ok s') : s'.load t = s.keeps rows := by
  cases hv : validateTableName t with
  | error e => cases s <;> simp [save, hv, bind, Except.bind] at h
  | ok u =>
      cases s with
      | folder d files =>
          simp only [save, hv, bind, Except.bind, pure, Except.pure, Except.ok.injEq] at h
          subst h
          simp [load, hv, bind, Except.bind, lookup_setEntry, keeps]
      | memory tables =>
          simp only [save, hv, bind, Except.bind, pure, Except.pure, Except.ok.injEq] at h
          subst h
          simp [load, lookup_setEntry, keeps]

/-- A save leaves every other table as it was. -/
theorem load_of_save_of_ne {s s' : Store} {t : String} {rows : List Row}
    (h : s.save t rows = .ok s') {u : String} (hu : u ≠ t) : s'.load u = s.load u := by
  cases hv : validateTableName t with
  | error e => cases s <;> simp [save, hv, bind, Except.bind] at h
  | ok v =>
      cases s with
      | folder d files =>
          simp only [save, hv, bind, Except.bind, pure, Except.pure, Except.ok.injEq] at h
          subst h
          have hfile : fileName u ≠ fileName t := fun heq => hu (fileName_inj heq)
          simp [load, lookup_setEntry, hfile]
      | memory tables =>
          simp only [save, hv, bind, Except.bind, pure, Except.pure, Except.ok.injEq] at h
          subst h
          simp [load, lookup_setEntry, hu]

end Store

/-- Under valid settings a folder gives saved rows back with the union of the names and the
text of each cell, unless the first name starts with an unquoted byte order mark. -/
theorem folder_load_after_save {cfg : Config} (hcfg : cfg.validate = .ok ())
    (files : List (String × FileRead)) {t : String} (ht : validateTableName t = .ok ())
    (R : List Row) (hsafe : Csv.HeadSafe cfg.delimiter (columnUnion R)) :
    ∃ s, (Store.folder cfg.delimiter files).save t R = .ok s ∧ ∃ rows, s.load t = .ok rows ∧
      (columnUnion R = [] → rows = []) ∧
      (columnUnion R ≠ [] → List.Forall₂ (fun row r => row.names = columnUnion R ∧
        ∀ c ∈ columnUnion R, row.get? c = some (.text (((r.get? c).map Value.field).getD "")))
        rows R) := by
  obtain ⟨hsep, hbom⟩ := Config.separates_of_validate hcfg
  obtain ⟨s, hs⟩ := Store.exists_save_eq_ok (s := .folder cfg.delimiter files) ht R
  have hread := Csv.readTable_writeTable hsep hbom R hsafe
  refine ⟨s, hs, _, (Store.load_of_save_self hs).trans
    (Store.keeps_folder (Config.delimiter_of_validate hcfg).1 files R), fun hnil => ?_, fun hcols => ?_⟩
  · simpa [hnil] using hread
  · rw [if_neg hcols] at hread
    have hall : List.Forall₂ (· = ·) ((Csv.readTable cfg.delimiter (Csv.writeTable cfg.delimiter R)).map Row.fields)
        (R.map fun r => (columnUnion R).map fun c =>
          (c, Value.text (((r.get? c).map Value.field).getD ""))) := by
      rw [List.forall₂_eq_eq_eq]
      exact hread
    rw [List.forall₂_map_left_iff, List.forall₂_map_right_iff] at hall
    exact hall.imp fun row r hrow =>
      ⟨by simp [Row.names, hrow, Function.comp_def], fun c hc => Row.get?_of_fields_eq_map hrow hc⟩

theorem folder_load_after_save_people :
    (Config.validate {} = .ok () ∧ validateTableName "people" = .ok () ∧
      Csv.HeadSafe ',' (columnUnion [Row.ofPairs [("id", .text "1"), ("name", .text "Alice, Jr.")],
        Row.ofPairs [("id", .text "2")]])) ∧
    ∃ s, (Store.folder ',' []).save "people"
        [Row.ofPairs [("id", .text "1"), ("name", .text "Alice, Jr.")], Row.ofPairs [("id", .text "2")]] =
        .ok s ∧ ∃ rows, s.load "people" = .ok rows ∧
      (columnUnion [Row.ofPairs [("id", .text "1"), ("name", .text "Alice, Jr.")],
        Row.ofPairs [("id", .text "2")]] = [] → rows = []) ∧
      (columnUnion [Row.ofPairs [("id", .text "1"), ("name", .text "Alice, Jr.")],
        Row.ofPairs [("id", .text "2")]] ≠ [] → List.Forall₂ (fun row r =>
          row.names = columnUnion [Row.ofPairs [("id", .text "1"), ("name", .text "Alice, Jr.")],
            Row.ofPairs [("id", .text "2")]] ∧
          ∀ c ∈ columnUnion [Row.ofPairs [("id", .text "1"), ("name", .text "Alice, Jr.")],
            Row.ofPairs [("id", .text "2")]],
            row.get? c = some (.text (((r.get? c).map Value.field).getD "")))
        rows [Row.ofPairs [("id", .text "1"), ("name", .text "Alice, Jr.")],
          Row.ofPairs [("id", .text "2")]]) := by
  have hcfg : Config.validate {} = .ok () := rfl
  have ht : validateTableName "people" = .ok () := rfl
  have hsafe : Csv.HeadSafe ',' (columnUnion [Row.ofPairs [("id", .text "1"),
      ("name", .text "Alice, Jr.")], Row.ofPairs [("id", .text "2")]]) := by
    decide
  exact ⟨⟨hcfg, ht, hsafe⟩, folder_load_after_save hcfg [] ht _ hsafe⟩

/-- A first name that starts with a byte order mark and needs no quotes loses the mark on
the way back. -/
theorem folder_drops_leading_bom :
    columnUnion [Row.ofPairs [(String.ofList [Csv.bom, 'a'], .text "1")]] =
      [String.ofList [Csv.bom, 'a']] ∧
    ((Store.folder ',' []).save "t" [Row.ofPairs [(String.ofList [Csv.bom, 'a'], .text "1")]] >>=
      (·.load "t")).map (·.map Row.names) = .ok [["a"]] := by
  constructor <;> rfl

end Tabula
