import Tabula.Csv
import Tabula.Proofs.Answer

/-!
# Reading back what was written

A table written as CSV text reads back as one row per written row (`readTable_writeTable`).
-/

namespace Tabula.Csv

/-- The delimiters the reader tells apart from quotes and line ends. -/
structure Separates (d : Char) : Prop where
  not_quote : d ≠ '"'
  not_lf : d ≠ '\n'
  not_cr : d ≠ '\r'

/-- The phases in which the delimiter closes the field being read and a line feed closes
the record: right after a delimiter, inside an unquoted field, and after a closing quote. -/
inductive Closing : Phase → Prop
  | fieldStart : Closing .fieldStart
  | unquoted : Closing .unquoted
  | quoteInQuoted : Closing .quoteInQuoted

/-- The first name of a header survives the byte order mark the reader drops: it does not
start with one, or the writer quotes it. -/
def HeadSafe (d : Char) (names : List String) : Prop :=
  ∀ n ∈ names.head?, n.toList.head? = some bom → needsQuotes d n = true

instance (d : Char) (names : List String) : Decidable (HeadSafe d names) :=
  inferInstanceAs (Decidable (∀ n ∈ names.head?, n.toList.head? = some bom → needsQuotes d n = true))

/-- The cells a row is written with under a header: the text of each named cell, empty
where the row lacks the name. -/
def cellsUnder (header : List String) (r : Row) : List String :=
  header.map fun c => ((r.get? c).map Value.field).getD ""

variable {d : Char}

/-! ## Closing fields and records -/

theorem step_delim {p : Phase} (hp : Closing p) (hd : Separates d) (f : List Char)
    (fs : List String) (rs : List (List String)) :
    Reading.step d ⟨p, f, fs, rs⟩ d = ⟨.fieldStart, [], String.ofList f.reverse :: fs, rs⟩ := by
  have hq : (d == '"') = false := by simpa using hd.not_quote
  cases hp <;> simp [Reading.step, Reading.startField, Reading.endField, hq]

theorem step_lf {p : Phase} (hp : Closing p) (hd : Separates d) (f : List Char)
    (fs : List String) (rs : List (List String)) :
    Reading.step d ⟨p, f, fs, rs⟩ '\n' =
      ⟨.recordStart, [], [], (String.ofList f.reverse :: fs).reverse :: rs⟩ := by
  have hl : ('\n' == d) = false := by simpa using hd.not_lf.symm
  cases hp <;> simp [Reading.step, Reading.startField, Reading.endField, Reading.endRecord,
    isLineEnd, hl]

/-- Starting a field sets the phase, whatever it was. -/
theorem startField_phase (p q : Phase) (f : List Char) (fs : List String)
    (rs : List (List String)) (c : Char) :
    Reading.startField d ⟨p, f, fs, rs⟩ c = Reading.startField d ⟨q, f, fs, rs⟩ c := by
  unfold Reading.startField
  split
  · rfl
  · split
    · rfl
    · split <;> rfl

/-- Away from line ends, the start of a record reads like the start of a field. -/
theorem foldl_recordStart {c : Char} (hc : isLineEnd c = false) (cs f : List Char)
    (fs : List String) (rs : List (List String)) :
    (c :: cs).foldl (Reading.step d) ⟨.recordStart, f, fs, rs⟩ =
      (c :: cs).foldl (Reading.step d) ⟨.fieldStart, f, fs, rs⟩ := by
  simp only [List.foldl_cons, Reading.step, hc, Bool.false_eq_true, ite_false]
  rw [startField_phase .recordStart .fieldStart]

/-! ## Fields -/

/-- Inside quotes a doubled quote is read as one quote, any other character as itself. -/
theorem foldl_quoted (cs f : List Char) (fs : List String) (rs : List (List String)) :
    (cs.flatMap fun c => if c == '"' then ['"', '"'] else [c]).foldl (Reading.step d)
        ⟨.quoted, f, fs, rs⟩ = ⟨.quoted, cs.reverse ++ f, fs, rs⟩ := by
  induction cs generalizing f with
  | nil => rfl
  | cons c cs ih =>
      rw [List.flatMap_cons, List.foldl_append]
      by_cases hc : c = '"'
      · subst hc
        have hhead : ['"', '"'].foldl (Reading.step d) ⟨.quoted, f, fs, rs⟩ =
            ⟨.quoted, '"' :: f, fs, rs⟩ := rfl
        simp only [beq_self_eq_true, ite_true, hhead, ih, List.reverse_cons, List.append_assoc,
          List.singleton_append]
      · have hc' : (c == '"') = false := by simpa using hc
        have hhead : [c].foldl (Reading.step d) ⟨.quoted, f, fs, rs⟩ =
            ⟨.quoted, c :: f, fs, rs⟩ := by simp [Reading.step, hc']
        simp only [hc', Bool.false_eq_true, ite_false, hhead, ih, List.reverse_cons,
          List.append_assoc, List.singleton_append]

/-- An unquoted run without delimiters and line ends is read as it is. -/
theorem foldl_unquoted (cs f : List Char) (hcs : ∀ c ∈ cs, c ≠ d ∧ isLineEnd c = false)
    (fs : List String) (rs : List (List String)) :
    cs.foldl (Reading.step d) ⟨.unquoted, f, fs, rs⟩ = ⟨.unquoted, cs.reverse ++ f, fs, rs⟩ := by
  induction cs generalizing f with
  | nil => rfl
  | cons c cs ih =>
      obtain ⟨hcd, hcl⟩ := hcs c (.head cs)
      have hcd' : (c == d) = false := by simpa using hcd
      simp [Reading.step, hcd', hcl, ih _ (fun x hx => hcs x (.tail c hx))]

/-- A field the writer leaves unquoted holds no delimiter, quote or line end. -/
theorem plain_of_needsQuotes_eq_false {s : String} (h : needsQuotes d s = false) :
    ∀ c ∈ s.toList, c ≠ d ∧ c ≠ '"' ∧ isLineEnd c = false := by
  intro c hc
  have hnot := List.any_eq_false.mp h c hc
  simp only [Bool.or_eq_true, beq_iff_eq, not_or] at hnot
  exact ⟨hnot.1.1.1, hnot.1.1.2, by simp [isLineEnd, hnot.1.2, hnot.2]⟩

/-- A written field, read from the start of a field, leaves its text in the field being
read and the reader in a closing phase. -/
theorem foldl_writeField (s : String) (fs : List String) (rs : List (List String)) :
    ∃ p, Closing p ∧ (writeField d s).toList.foldl (Reading.step d) ⟨.fieldStart, [], fs, rs⟩ =
      ⟨p, s.toList.reverse, fs, rs⟩ := by
  unfold writeField
  split
  · refine ⟨.quoteInQuoted, .quoteInQuoted, ?_⟩
    have hopen : ['"'].foldl (Reading.step d) ⟨.fieldStart, [], fs, rs⟩ =
        ⟨.quoted, [], fs, rs⟩ := by
      simp [Reading.step, Reading.startField]
    simp only [String.toList_append, String.toList_ofList, List.foldl_append]
    rw [show "\"".toList = ['"'] from rfl, hopen, foldl_quoted]
    simp [Reading.step]
  · next hq =>
    have hplain := plain_of_needsQuotes_eq_false (Bool.eq_false_iff.mpr hq)
    cases hs : s.toList with
    | nil => exact ⟨.fieldStart, .fieldStart, rfl⟩
    | cons c cs =>
        rw [hs] at hplain
        obtain ⟨hcd, hcq, hcl⟩ := hplain c (.head cs)
        have hcd' : (c == d) = false := by simpa using hcd
        have hcq' : (c == '"') = false := by simpa using hcq
        have hfirst : Reading.step d ⟨.fieldStart, [], fs, rs⟩ c = ⟨.unquoted, [c], fs, rs⟩ := by
          simp [Reading.step, Reading.startField, hcd', hcq', hcl]
        refine ⟨.unquoted, .unquoted, ?_⟩
        rw [List.foldl_cons, hfirst, foldl_unquoted cs [c] (fun x hx =>
          ⟨(hplain x (.tail c hx)).1, (hplain x (.tail c hx)).2.2⟩)]
        simp

/-- A written field starts with a quote, or is unquoted and starts with its text. -/
theorem head_writeField (s : String) :
    ∀ c ∈ (writeField d s).toList.head?,
      c = '"' ∨ needsQuotes d s = false ∧ c ∈ s.toList.head? := by
  intro c hc
  unfold writeField at hc
  split at hc
  · simp only [String.toList_append, List.append_assoc] at hc
    rw [show "\"".toList = ['"'] from rfl] at hc
    simp only [List.cons_append, List.nil_append, List.head?_cons, Option.mem_def,
      Option.some.injEq] at hc
    exact .inl hc.symm
  · next hq => exact .inr ⟨Bool.eq_false_iff.mpr hq, hc⟩

theorem head_writeField_not_lineEnd (s : String) :
    ∀ c ∈ (writeField d s).toList.head?, isLineEnd c = false := by
  intro c hc
  rcases head_writeField s c hc with rfl | ⟨hq, hs⟩
  · rfl
  · exact (plain_of_needsQuotes_eq_false hq c (List.mem_of_mem_head? hs)).2.2

/-! ## Records -/

/-- The body of a written record and its line feed, read from the start of a field after
the fields `acc` (reversed), close the record. -/
theorem foldl_record_body (hd : Separates d) (s : String) (rest : List String)
    (acc : List String) (rs : List (List String)) :
    (((String.ofList [d]).intercalate ((s :: rest).map (writeField d))).toList ++ ['\n']).foldl
        (Reading.step d) ⟨.fieldStart, [], acc, rs⟩ =
      ⟨.recordStart, [], [], (acc.reverse ++ s :: rest) :: rs⟩ := by
  induction rest generalizing s acc with
  | nil =>
      obtain ⟨p, hp, hfield⟩ := foldl_writeField (d := d) s acc rs
      simp [List.foldl_append, hfield, step_lf hp hd]
  | cons t rest ih =>
      obtain ⟨p, hp, hfield⟩ := foldl_writeField (d := d) s acc rs
      have htext : ((String.ofList [d]).intercalate ((s :: t :: rest).map (writeField d))).toList ++
          ['\n'] = (writeField d s).toList ++
            d :: (((String.ofList [d]).intercalate ((t :: rest).map (writeField d))).toList ++ ['\n']) := by
        simp [String.intercalate_cons_cons]
      rw [htext, List.foldl_append, hfield, List.foldl_cons, step_delim hp hd,
        List.reverse_reverse, String.ofList_toList, ih t (s :: acc)]
      simp

/-- The body of a written record starts with its first field as written, or, when that is
empty, with the delimiter. -/
theorem head_record_body (s : String) (rest : List String) :
    ∀ c ∈ ((String.ofList [d]).intercalate ((s :: rest).map (writeField d))).toList.head?,
      c ∈ (writeField d s).toList.head? ∨ c = d := by
  intro c hc
  cases rest with
  | nil => exact .inl (by simpa using hc)
  | cons t rest =>
      simp only [List.map_cons, String.intercalate_cons_cons, String.toList_append,
        String.toList_ofList, List.append_assoc, List.head?_append, List.singleton_append,
        List.head?_cons, Option.mem_def, Option.or_eq_some_iff] at hc
      rcases hc with hc | ⟨-, hdc⟩
      · exact .inl hc
      · exact .inr (Option.some.inj hdc).symm

theorem head_record_body_not_lineEnd (hd : Separates d) (s : String) (rest : List String) :
    ∀ c ∈ ((String.ofList [d]).intercalate ((s :: rest).map (writeField d))).toList.head?,
      isLineEnd c = false := by
  intro c hc
  rcases head_record_body s rest c hc with hc | rfl
  · exact head_writeField_not_lineEnd s c hc
  · simp [isLineEnd, hd.not_lf, hd.not_cr]

/-- Only a lone empty field is written as an empty body. -/
theorem eq_of_record_body_eq_nil (s : String) (rest : List String)
    (h : ((String.ofList [d]).intercalate ((s :: rest).map (writeField d))).toList = []) :
    s = "" ∧ rest = [] := by
  cases rest with
  | cons t rest => simp [String.intercalate_cons_cons] at h
  | nil =>
      simp only [List.map_cons, List.map_nil, String.intercalate_singleton] at h
      unfold writeField at h
      split at h
      · simp at h
      · exact ⟨String.toList_eq_nil_iff.mp h, rfl⟩

/-- A written record, read from the start of a record, is read back as its fields. -/
theorem foldl_writeRecord (hd : Separates d) {fields : List String} (hne : fields ≠ [])
    (rs : List (List String)) :
    (writeRecord d fields).toList.foldl (Reading.step d) ⟨.recordStart, [], [], rs⟩ =
      ⟨.recordStart, [], [], fields :: rs⟩ := by
  obtain ⟨s, rest, rfl⟩ := List.exists_cons_of_ne_nil hne
  unfold writeRecord
  cases hbody : ((String.ofList [d]).intercalate ((s :: rest).map (writeField d))).toList with
  | nil =>
      obtain ⟨rfl, rfl⟩ := eq_of_record_body_eq_nil s rest hbody
      have hempty : ((String.ofList [d]).intercalate ([""].map (writeField d))).isEmpty = true := by
        simpa [String.isEmpty_iff, ← String.toList_eq_nil_iff] using hbody
      simp only [hempty, ite_true]
      rw [show ("\"\"" ++ "\n" : String).toList = ['"', '"', '\n'] from rfl]
      simp [Reading.step, Reading.startField, Reading.endField, Reading.endRecord, isLineEnd,
        hd.not_lf.symm]
  | cons c cs =>
      have hc : isLineEnd c = false :=
        head_record_body_not_lineEnd hd s rest c (by rw [hbody]; rfl)
      have hfull : ((String.ofList [d]).intercalate ((s :: rest).map (writeField d))).isEmpty =
          false := by
        rw [String.isEmpty_eq_false_iff, ne_eq, ← String.toList_eq_nil_iff, hbody]
        exact List.cons_ne_nil c cs
      simp only [hfull, Bool.false_eq_true, ite_false, String.toList_append]
      rw [hbody, List.cons_append, foldl_recordStart hc, ← List.cons_append, ← hbody]
      rw [show ("\n" : String).toList = ['\n'] from rfl, foldl_record_body hd s rest [] rs]
      simp

/-- Written records, one after another, are read back in order. -/
theorem foldl_writeRecords (hd : Separates d) (recs : List (List String))
    (hne : ∀ r ∈ recs, r ≠ []) (rs : List (List String)) :
    (String.join (recs.map (writeRecord d))).toList.foldl (Reading.step d) ⟨.recordStart, [], [], rs⟩ =
      ⟨.recordStart, [], [], recs.reverse ++ rs⟩ := by
  induction recs generalizing rs with
  | nil => rfl
  | cons r recs ih =>
      rw [List.map_cons, String.join_cons, String.toList_append, List.foldl_append,
        foldl_writeRecord hd (hne r (.head recs)), ih (fun x hx => hne x (.tail r hx))]
      simp

/-! ## Tables -/

/-- A text that does not start with a byte order mark is read whole. -/
theorem records_of_head_ne_bom {text : String} (h : text.toList.head? ≠ some bom) :
    records d text = (text.toList.foldl (Reading.step d) ⟨.recordStart, [], [], []⟩).finish := by
  unfold records recordsOf
  cases ht : text.toList with
  | nil => rfl
  | cons c rest =>
      have hc : (c == bom) = false := by simpa [ht] using h
      simp [skipBom, hc]

/-- A written header does not start with a byte order mark. -/
theorem head_writeRecord_ne_bom (hbom : d ≠ bom) {fields : List String} (hne : fields ≠ [])
    (hsafe : HeadSafe d fields) : (writeRecord d fields).toList.head? ≠ some bom := by
  obtain ⟨s, rest, rfl⟩ := List.exists_cons_of_ne_nil hne
  unfold writeRecord
  dsimp only
  split
  · simp [bom]
  · next hfull =>
    have hbody : ((String.ofList [d]).intercalate ((s :: rest).map (writeField d))).toList ≠ [] := by
      rw [ne_eq, String.toList_eq_nil_iff, ← String.isEmpty_iff]
      exact hfull
    obtain ⟨c, cs, hcs⟩ := List.exists_cons_of_ne_nil hbody
    rw [String.toList_append, hcs, List.cons_append, List.head?_cons]
    intro hc
    cases hc
    rcases head_record_body s rest bom (by rw [hcs]; rfl) with hfirst | hdb
    · rcases head_writeField s bom hfirst with hq | ⟨hq, hs⟩
      · exact absurd hq (by decide)
      · exact absurd (hsafe s rfl hs) (by simp [hq])
    · exact hbom hdb.symm

/-- A written table is read back as its header, then one record per row. -/
theorem records_writeTable (hd : Separates d) (hbom : d ≠ bom) {rows : List Row}
    (hcols : columnUnion rows ≠ []) (hsafe : HeadSafe d (columnUnion rows)) :
    records d (writeTable d rows) = columnUnion rows :: rows.map (cellsUnder (columnUnion rows)) := by
  have hempty : (columnUnion rows).isEmpty = false := by simpa using hcols
  have htext : writeTable d rows = writeRecord d (columnUnion rows) ++
      String.join ((rows.map (cellsUnder (columnUnion rows))).map (writeRecord d)) := by
    simp [writeTable, hempty, List.map_map, cellsUnder, Function.comp_def]
  have hhead : (writeTable d rows).toList.head? ≠ some bom := by
    have hne : (writeRecord d (columnUnion rows)).toList ≠ [] := by
      simp [writeRecord]
    obtain ⟨c, cs, hcs⟩ := List.exists_cons_of_ne_nil hne
    have hfirst := head_writeRecord_ne_bom hbom hcols hsafe
    rw [hcs] at hfirst
    rw [htext, String.toList_append, hcs]
    simpa using hfirst
  have hcells : ∀ r ∈ rows.map (cellsUnder (columnUnion rows)), r ≠ [] := by
    intro r hr
    obtain ⟨row, -, rfl⟩ := List.mem_map.mp hr
    simpa [cellsUnder] using hcols
  rw [records_of_head_ne_bom hhead, htext, String.toList_append, List.foldl_append,
    foldl_writeRecord hd hcols, foldl_writeRecords hd _ hcells]
  simp [Reading.finish]

/-- Appending the names not yet present keeps a list of names free of repeats. -/
theorem nodup_foldl_pushNew (ns : List String) {acc : List String} (h : acc.Nodup) :
    (ns.foldl (fun acc n => if acc.contains n then acc else acc ++ [n]) acc).Nodup := by
  induction ns generalizing acc with
  | nil => exact h
  | cons n ns ih =>
      rw [List.foldl_cons]
      apply ih
      split
      · exact h
      · next hn =>
        refine List.nodup_append.mpr ⟨h, by simp, ?_⟩
        intro a ha b hb hab
        simp only [List.mem_singleton] at hb
        subst hb hab
        simp [ha] at hn

theorem nodup_columnUnion (rows : List Row) : (columnUnion rows).Nodup := by
  unfold columnUnion
  suffices ∀ acc : List String, acc.Nodup → (rows.foldl (fun acc r => r.names.foldl
      (fun acc n => if acc.contains n then acc else acc ++ [n]) acc) acc).Nodup from
    this [] List.nodup_nil
  induction rows with
  | nil => exact fun _ h => h
  | cons r rows ih => exact fun acc h => ih _ (nodup_foldl_pushNew r.names h)

/-- The row read from a record under a header of distinct names: each name with its cell,
as text. -/
theorem rowOf_map {header : List String} (h : header.Nodup) (g : String → String) :
    (rowOf header (header.map g)).fields = header.map fun c => (c, .text (g c)) := by
  let cells := header.zipIdx.map fun p => (p.1, Value.text ((header.map g).getD p.2 ""))
  have hcells : cells = header.map fun c => (c, .text (g c)) := by
    apply List.ext_getElem
    · simp [cells]
    · intro i h₁ h₂
      have hi : i < header.length := by simpa using h₂
      simp [cells, List.getElem_zipIdx, List.getElem?_eq_getElem hi]
  have hfold : rowOf header (header.map g) = cells.foldl (fun o p => o.insert p.1 p.2) Row.empty := by
    simp only [rowOf, cells, List.foldl_map]
  rw [hfold, Row.fields_foldl_insert cells Row.empty (by simpa [hcells, Function.comp_def] using h),
    hcells]
  rfl

/-- A written table reads back as one row per row, each with every name of the header and
the text of the row's cell; no names give no rows. -/
theorem readTable_writeTable (hd : Separates d) (hbom : d ≠ bom) (rows : List Row)
    (hsafe : HeadSafe d (columnUnion rows)) :
    (readTable d (writeTable d rows)).map Row.fields =
      if columnUnion rows = [] then []
      else rows.map fun r => (columnUnion rows).map fun c =>
        (c, .text (((r.get? c).map Value.field).getD "")) := by
  split
  · next hnil =>
    have hempty : (columnUnion rows).isEmpty = true := by simp [hnil]
    simp [writeTable, hempty, readTable, records, skipBom, recordsOf, Reading.finish]
  · next hcols =>
    rw [readTable, records_writeTable hd hbom hcols hsafe]
    simp only [List.map_map]
    apply List.map_congr_left
    intro r _
    exact rowOf_map (nodup_columnUnion rows) _

end Tabula.Csv
