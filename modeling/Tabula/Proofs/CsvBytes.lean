import Tabula.Proofs.Csv

/-!
# CSV files read as bytes

With an ASCII delimiter, the bytes of a text read as the text does (`readTableBytes_utf8`).
-/

namespace Tabula.Csv

/-- The characters the byte reader sees for one character of a text. -/
def byteChars (c : Char) : List Char := (String.utf8EncodeChar c).map byteChar

/-- A field as the byte reader reads it: one character per byte of its UTF-8. -/
def encodeField (f : String) : String := String.ofList (f.toList.flatMap byteChars)

/-- Where the byte reader is after the bytes of what took the character reader to `r`. The
field under way is kept reversed, so each character's bytes are too. -/
def Reading.encode (r : Reading) : Reading where
  phase := r.phase
  field := r.field.flatMap fun c => (byteChars c).reverse
  fields := r.fields.map encodeField
  records := r.records.map (·.map encodeField)

@[simp] theorem Reading.encode_mk (p : Phase) (f : List Char) (fs : List String)
    (rs : List (List String)) :
    Reading.encode ⟨p, f, fs, rs⟩ =
      ⟨p, f.flatMap fun c => (byteChars c).reverse, fs.map encodeField, rs.map (·.map encodeField)⟩ :=
  rfl

@[simp] theorem encodeField_ofList (l : List Char) :
    encodeField (String.ofList l) = String.ofList (l.flatMap byteChars) := by
  simp [encodeField]

/-! ## Bytes as characters -/

@[simp] theorem toNat_byteChar (b : UInt8) : (byteChar b).toNat = b.toNat := by
  have hb := b.toNat_lt
  unfold byteChar Char.ofNat
  rw [dif_pos (Or.inl (by omega))]
  rfl

theorem byteChars_of_lt {c : Char} (hc : c.toNat < 128) : byteChars c = [c] := by
  have hs : c.utf8Size = 1 := by
    rw [Char.utf8Size_eq_one_iff, UInt32.le_iff_toNat_le]
    exact Nat.le_of_lt_succ hc
  rw [byteChars, String.utf8EncodeChar_eq_singleton hs, List.map_singleton, List.singleton_inj,
    ← Char.toNat_inj, toNat_byteChar, UInt32.toNat_toUInt8, Char.toNat_val]
  exact Nat.mod_eq_of_lt (by omega)

theorem byteChars_ne_nil (c : Char) : byteChars c ≠ [] := by
  simp [byteChars]

/-- Every byte of a character outside ASCII is at least `0x80`. -/
theorem le_toNat_of_mem_utf8EncodeChar {c : Char} (hc : 128 ≤ c.toNat) {b : UInt8}
    (hb : b ∈ String.utf8EncodeChar c) : 128 ≤ b.toNat := by
  have hhigh : ∀ x m : UInt8, 128 ≤ m.toNat → 128 ≤ (x ||| m).toNat := fun x m hm => by
    rw [UInt8.toNat_or]
    exact Nat.le_trans hm Nat.right_le_or
  have hs : c.utf8Size ≠ 1 := by
    rw [ne_eq, Char.utf8Size_eq_one_iff, UInt32.le_iff_toNat_le, Char.toNat_val]
    exact Nat.not_le_of_lt hc
  match h : c.utf8Size, c.utf8Size_pos, c.utf8Size_le_four with
  | 1, _, _ => exact absurd h hs
  | 2, _, _ =>
    rw [String.utf8EncodeChar_eq_cons_cons h] at hb
    simp only [List.mem_cons, List.not_mem_nil, or_false] at hb
    rcases hb with rfl | rfl <;> exact hhigh _ _ (by decide)
  | 3, _, _ =>
    rw [String.utf8EncodeChar_eq_cons_cons_cons h] at hb
    simp only [List.mem_cons, List.not_mem_nil, or_false] at hb
    rcases hb with rfl | rfl | rfl <;> exact hhigh _ _ (by decide)
  | 4, _, _ =>
    rw [String.utf8EncodeChar_eq_cons_cons_cons_cons h] at hb
    simp only [List.mem_cons, List.not_mem_nil, or_false] at hb
    rcases hb with rfl | rfl | rfl | rfl <;> exact hhigh _ _ (by decide)

/-! ## One reader simulates the other -/

section

variable {d : Char}

/-- A character the reader takes as field content wherever it stands. -/
def Plain (d c : Char) : Prop := c ≠ '"' ∧ c ≠ d ∧ isLineEnd c = false

theorem plain_of_le (hd : d.toNat < 128) {c : Char} (hc : 128 ≤ c.toNat) : Plain d c := by
  refine ⟨fun h => ?_, fun h => ?_, ?_⟩
  · subst h
    exact absurd hc (by decide)
  · subst h
    omega
  · have h1 : c ≠ '\r' := fun h => absurd (h ▸ hc) (by decide)
    have h2 : c ≠ '\n' := fun h => absurd (h ▸ hc) (by decide)
    simp [isLineEnd, h1, h2]

/-- A plain character extends the field under way, which stays quoted or unquoted. -/
theorem Reading.step_plain {c : Char} (hc : Plain d c) (r : Reading) :
    r.step d c = { r with phase := if r.phase = .quoted then .quoted else .unquoted,
                          field := c :: r.field } := by
  obtain ⟨hq, hd, hl⟩ := hc
  have hq' : (c == '"') = false := by simpa using hq
  have hd' : (c == d) = false := by simpa using hd
  cases r with
  | mk phase field fields records =>
    cases phase <;> simp [Reading.step, Reading.startField, hq', hd', hl]

theorem Reading.foldl_step_plain {cs : List Char} (hcs : ∀ c ∈ cs, Plain d c) (hne : cs ≠ [])
    (r : Reading) :
    cs.foldl (Reading.step d) r = { r with phase := if r.phase = .quoted then .quoted else .unquoted,
                                           field := cs.reverse ++ r.field } := by
  induction cs generalizing r with
  | nil => exact absurd rfl hne
  | cons c cs ih =>
    rw [List.foldl_cons, Reading.step_plain (hcs c (by simp))]
    cases cs with
    | nil => simp
    | cons c' cs' =>
      rw [ih (fun x hx => hcs x (by simp [hx])) (by simp)]
      cases r
      simp only [List.reverse_cons, List.append_assoc, List.singleton_append]
      split <;> simp_all

/-- On an ASCII character both readers take the same step. -/
theorem Reading.encode_step_of_lt {c : Char} (hc : c.toNat < 128) (r : Reading) :
    r.encode.step d c = (r.step d c).encode := by
  have hq : byteChars '"' = ['"'] := byteChars_of_lt (by decide)
  cases r with
  | mk phase field fields records =>
    cases phase <;>
      simp [Reading.step, Reading.startField, Reading.endRecord, Reading.endField,
        apply_ite Reading.encode, List.reverse_flatMap, Function.comp_def, byteChars_of_lt hc, hq]

/-- The bytes of one character take the byte reader from the encoding of a state to the
encoding of the state after the character. -/
theorem Reading.encode_step (hd : d.toNat < 128) (r : Reading) (c : Char) :
    (byteChars c).foldl (Reading.step d) r.encode = (r.step d c).encode := by
  by_cases hc : c.toNat < 128
  · rw [byteChars_of_lt hc, List.foldl_cons, List.foldl_nil, Reading.encode_step_of_lt hc]
  have hbytes : ∀ x ∈ byteChars c, Plain d x := by
    intro x hx
    obtain ⟨b, hb, rfl⟩ := List.mem_map.mp hx
    exact plain_of_le hd (by rw [toNat_byteChar]; exact le_toNat_of_mem_utf8EncodeChar (by omega) hb)
  rw [Reading.foldl_step_plain hbytes (byteChars_ne_nil c), Reading.step_plain (plain_of_le hd (by omega))]
  rfl

theorem Reading.encode_foldl (hd : d.toNat < 128) (cs : List Char) (r : Reading) :
    (cs.flatMap byteChars).foldl (Reading.step d) r.encode = (cs.foldl (Reading.step d) r).encode := by
  induction cs generalizing r with
  | nil => rfl
  | cons c cs ih => rw [List.flatMap_cons, List.foldl_append, Reading.encode_step hd, List.foldl_cons, ih]

theorem Reading.finish_encode (r : Reading) : r.encode.finish = r.finish.map (·.map encodeField) := by
  cases r with
  | mk phase field fields records =>
    cases phase <;> simp [Reading.finish, Reading.endField, List.reverse_flatMap, Function.comp_def]

/-- The records of the bytes of some characters are their records, each field encoded. -/
theorem recordsOf_flatMap_byteChars (hd : d.toNat < 128) (cs : List Char) :
    recordsOf d (cs.flatMap byteChars) = (recordsOf d cs).map (·.map encodeField) := by
  unfold recordsOf
  rw [← Reading.finish_encode, ← Reading.encode_foldl hd]
  rfl

end

/-! ## The byte order mark -/

theorem utf8EncodeChar_bom : String.utf8EncodeChar bom = [0xEF, 0xBB, 0xBF] := by decide

/-- The UTF-8 of a character starts with the mark's bytes only when it is the mark. -/
theorem eq_bom_of_utf8EncodeChar_append {c : Char} {rest rest' : List UInt8}
    (h : String.utf8EncodeChar c ++ rest = 0xEF :: 0xBB :: 0xBF :: rest') : c = bom := by
  have hc := ByteArray.utf8DecodeChar?_utf8EncodeChar_append (b := rest.toByteArray) (c := c)
  have hb := ByteArray.utf8DecodeChar?_utf8EncodeChar_append (b := rest'.toByteArray) (c := bom)
  rw [← List.toByteArray_append, h] at hc
  rw [← List.toByteArray_append, utf8EncodeChar_bom] at hb
  exact Option.some.inj (hc.symm.trans hb)

theorem dropBom_flatMap (cs : List Char) :
    dropBom (cs.flatMap String.utf8EncodeChar) = (skipBom cs).flatMap String.utf8EncodeChar := by
  cases cs with
  | nil => rfl
  | cons c rest =>
    by_cases hc : c = bom
    · subst hc
      simp [skipBom, utf8EncodeChar_bom, dropBom]
    · have hc' : (c == bom) = false := by simpa using hc
      rw [skipBom, hc', if_neg Bool.false_ne_true, List.flatMap_cons]
      unfold dropBom
      split
      · next rest' h => exact absurd (eq_bom_of_utf8EncodeChar_append h) hc
      · rfl

/-! ## Decoding the fields -/

theorem fieldBytes_encodeField (f : String) : fieldBytes (encodeField f) = utf8 f := by
  simp [fieldBytes, encodeField, utf8, byteChars, List.map_flatMap, Function.comp_def]

theorem fromUTF8?_utf8 (s : String) : String.fromUTF8? (utf8 s).toByteArray = some s := by
  have h : (utf8 s).toByteArray = s.toByteArray := by
    change s.toList.utf8Encode = _
    rw [← String.toByteArray_ofList, String.ofList_toList]
  rw [h, String.fromUTF8?, dif_pos s.isValidUTF8]
  rfl

/-- A list mapped by `g`, with its positions, goes back to itself under an `F` that undoes
`g` at every position. -/
theorem mapM_zipIdx_map_eq_ok {ε α β : Type} (l : List α) (g : α → β) (F : β × Nat → Except ε α)
    (h : ∀ a i, F (g a, i) = .ok a) : (l.map g).zipIdx.mapM F = .ok l := by
  rw [List.zipIdx_map, List.mapM_map]
  have hF : (F ∘ Prod.map g id) = fun p => pure p.1 := funext fun ⟨a, i⟩ => h a i
  rw [hF, List.mapM_pure, List.zipIdx_map_fst]
  rfl

theorem decodeRecord_map_encodeField (fs : List String) :
    decodeRecord (fs.map encodeField) = .ok fs :=
  mapM_zipIdx_map_eq_ok fs encodeField _ fun f i => by
    simp [fieldBytes_encodeField, fromUTF8?_utf8]

/-- A file holding the UTF-8 of a text, read with an ASCII delimiter, gives the rows of the
text. -/
theorem readTableBytes_utf8 {d : Char} (hd : d.toNat < 128) (text : String) :
    readTableBytes d (utf8 text) = .ok (readTable d text) := by
  have hrec : recordsOf d ((dropBom (utf8 text)).map byteChar) =
      (records d text).map (·.map encodeField) := by
    rw [utf8, dropBom_flatMap, List.map_flatMap, records, ← recordsOf_flatMap_byteChars hd]
    rfl
  unfold readTableBytes readTable
  simp only [hrec]
  cases records d text with
  | nil => rfl
  | cons header rest =>
    simp only [List.map_cons, decodeRecord_map_encodeField]
    rw [mapM_zipIdx_map_eq_ok rest _ _ fun a i => by rw [decodeRecord_map_encodeField]; rfl]
    rfl

end Tabula.Csv
