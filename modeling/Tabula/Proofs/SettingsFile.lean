import Mathlib.Tactic.IntervalCases
import Tabula.ConfigFile

/-!
# Saved settings read back

Valid settings saved as JSON read back as themselves (`ConfigFile.load_saveText`); the
reader runs with its place left free (`Steps`, `Reads`).
-/

namespace Tabula.ConfigFile

/-- From every place, `p` run on `input` goes on as `q` does on `rest`. -/
def Steps {α : Type} (p : Load α) (input : List Char) (q : Load α) (rest : List Char) : Prop :=
  ∀ line col, ∃ line' col', p.run ⟨input, line, col⟩ = q.run ⟨rest, line', col'⟩

/-- From every place, `p` run on `input` succeeds with `a` and leaves `rest` unread. -/
def Reads {α : Type} (p : Load α) (input : List Char) (a : α) (rest : List Char) : Prop :=
  Steps p input (pure a) rest

namespace Steps

variable {α β : Type} {p q r : Load α} {i m o : List Char}

theorem refl (p : Load α) (i : List Char) : Steps p i p i :=
  fun line col => ⟨line, col, rfl⟩

theorem trans (h₁ : Steps p i q m) (h₂ : Steps q m r o) : Steps p i r o := by
  intro line col
  obtain ⟨l₁, c₁, e₁⟩ := h₁ line col
  obtain ⟨l₂, c₂, e₂⟩ := h₂ l₁ c₁
  exact ⟨l₂, c₂, e₁.trans e₂⟩

theorem bind (h : Steps p i q m) (f : α → Load β) : Steps (p >>= f) i (q >>= f) m := by
  intro line col
  obtain ⟨l, c, e⟩ := h line col
  exact ⟨l, c, by simp only [StateT.run_bind, e]⟩

end Steps

namespace Reads

variable {α β : Type}

theorem pure (a : α) (i : List Char) : Reads (pure a) i a i :=
  Steps.refl _ _

/-- What follows a reader runs on its result and on what it left. -/
theorem bind {p : Load α} {i m : List Char} {a : α} (h : Reads p i a m) (f : α → Load β) :
    Steps (p >>= f) i (f a) m := by
  intro line col
  obtain ⟨l, c, e⟩ := h line col
  refine ⟨l, c, ?_⟩
  simp only [StateT.run_bind, e]
  rfl

end Reads

theorem reads_eat (c : Char) (rest : List Char) : Reads eat (c :: rest) () rest := by
  intro line col
  by_cases hc : c = '\n'
  · exact ⟨line + 1, 0, by simp [eat, hc]⟩
  · exact ⟨line, col + c.utf8Size, by simp [eat, hc]⟩

theorem reads_peekChar (i : List Char) : Reads peekChar i i.head? i :=
  fun line col => ⟨line, col, rfl⟩

/-- A reader that looks at the place steps as what follows does from every place. -/
theorem steps_get {α : Type} {f : Src → Load α} {i r : List Char} {q : Load α}
    (h : ∀ line col, Steps (f ⟨i, line, col⟩) i q r) : Steps (get >>= f) i q r :=
  fun line col => h line col line col

/-! ## Blanks -/

theorem skipBlanks_blank {c : Char} (hc : isJsonBlank c = true) (rest : List Char) (fuel : Nat) :
    Steps (skipBlanks (fuel + 1)) (c :: rest) (skipBlanks fuel) rest := by
  rw [skipBlanks]
  refine ((reads_peekChar _).bind _).trans ?_
  simp only [List.head?_cons, hc, ite_true]
  exact (reads_eat c rest).bind _

theorem skipBlanks_stop {c : Char} (hc : isJsonBlank c = false) (rest : List Char) (fuel : Nat) :
    Reads (skipBlanks (fuel + 1)) (c :: rest) (some c) (c :: rest) := by
  rw [skipBlanks]
  refine ((reads_peekChar _).bind _).trans ?_
  simp only [List.head?_cons, hc, Bool.false_eq_true, ite_false]
  exact Reads.pure _ _

theorem isJsonBlank_eq_false_of_isDigit {c : Char} (h : c.isDigit = true) :
    isJsonBlank c = false := by
  simp only [Char.isDigit, Bool.and_eq_true, decide_eq_true_eq] at h
  simp only [isJsonBlank, Bool.or_eq_false_iff, beq_eq_false_iff_ne, ne_eq]
  refine ⟨⟨⟨?_, ?_⟩, ?_⟩, ?_⟩ <;> rintro rfl <;> simp at h

/-- Blanks are stepped over up to the first character that is none, given fuel for each. -/
theorem reads_skipBlanks {ws : List Char} (hws : ws.all isJsonBlank) {rest : List Char}
    (hrest : ∀ c ∈ rest.head?, isJsonBlank c = false) {fuel : Nat} (hfuel : ws.length ≤ fuel) :
    Reads (skipBlanks fuel) (ws ++ rest) rest.head? rest := by
  induction ws generalizing fuel with
  | nil =>
      cases fuel with
      | zero =>
          rw [skipBlanks]
          exact reads_peekChar rest
      | succ fuel =>
          cases rest with
          | nil =>
              rw [skipBlanks]
              exact (reads_peekChar _).bind _
          | cons c rest => exact skipBlanks_stop (hrest c rfl) rest fuel
  | cons w ws ih =>
      obtain ⟨fuel, rfl⟩ := (@Nat.exists_eq_add_one fuel).mpr (by simp at hfuel; omega)
      simp only [List.all_cons, Bool.and_eq_true] at hws
      exact (skipBlanks_blank hws.1 _ fuel).trans (ih hws.2 (by simpa using hfuel))

theorem reads_blanks (ws : List Char) (hws : ws.all isJsonBlank) (rest : List Char)
    (hrest : ∀ c ∈ rest.head?, isJsonBlank c = false) :
    Reads blanks (ws ++ rest) rest.head? rest := by
  rw [blanks]
  refine steps_get fun _ _ => ?_
  exact reads_skipBlanks hws hrest (by simp)

/-! ## Strings -/

section StringBody

variable (fuel : Nat) (acc : List Char)

theorem stringBody_quote (rest : List Char) :
    Reads (stringBody false (fuel + 1) acc) ('"' :: rest) (String.ofList acc.reverse) rest := by
  rw [stringBody]
  refine ((reads_peekChar _).bind _).trans ?_
  simp only [List.head?_cons, beq_self_eq_true, ite_true]
  exact (reads_eat _ _).bind _

theorem stringBody_backslash {i r : List Char} {c : Char} (h : Reads (escapeChar true) i [c] r) :
    Steps (stringBody false (fuel + 1) acc) ('\\' :: i) (stringBody false fuel (c :: acc)) r := by
  rw [stringBody]
  refine ((reads_peekChar _).bind _).trans ?_
  simp only [List.head?_cons]
  refine ((reads_eat _ _).bind _).trans ?_
  exact h.bind _

theorem stringBody_plain {c : Char} (h₁ : c ≠ '"') (h₂ : c ≠ '\\') (h₃ : ¬ c.toNat < 0x20)
    (rest : List Char) :
    Steps (stringBody false (fuel + 1) acc) (c :: rest) (stringBody false fuel (c :: acc)) rest := by
  rw [stringBody]
  refine ((reads_peekChar _).bind _).trans ?_
  simp only [List.head?_cons, beq_iff_eq, h₁, h₂, h₃, ite_false]
  exact (reads_eat _ _).bind _

end StringBody

theorem hexValue_hexDigit {n : Nat} (h : n < 16) : hexValue (Json.hexDigit n) = some n := by
  interval_cases n <;> rfl

theorem reads_hexEscape {a b c d : Char} {w x y z : Nat} (ha : hexValue a = some w)
    (hb : hexValue b = some x) (hc : hexValue c = some y) (hd : hexValue d = some z)
    (rest : List Char) :
    Reads hexEscape (a :: b :: c :: d :: rest) (((w * 16 + x) * 16 + y) * 16 + z) rest := by
  rw [hexEscape]
  refine steps_get fun _ _ => ?_
  refine ((reads_eat _ _).bind _).trans ?_
  refine ((reads_eat _ _).bind _).trans ?_
  refine ((reads_eat _ _).bind _).trans ?_
  refine ((reads_eat _ _).bind _).trans ?_
  simp only [ha, hb, hc, hd]
  exact Reads.pure _ _

/-- A `\u` escape of a code below the surrogates reads as the character of that code. -/
theorem reads_escapeChar_u {n : Nat} (hn : n < 0xD800) {i rest : List Char}
    (h : Reads hexEscape i n rest) : Reads (escapeChar true) ('u' :: i) [Char.ofNat n] rest := by
  rw [escapeChar]
  refine ((reads_peekChar _).bind _).trans ?_
  simp only [List.head?_cons]
  refine ((reads_eat _ _).bind _).trans ?_
  simp only [Char.reduceBEq, BEq.rfl, Bool.false_eq_true, Bool.not_true, ite_false, ite_true]
  refine (h.bind _).trans ?_
  have hlow : ¬ 0xDC00 ≤ n := by omega
  simp only [Bool.and_eq_true, decide_eq_true_eq, hlow, false_and, Bool.or_eq_true, hn, true_or,
    ite_false, ite_true]
  exact Reads.pure _ _

/-- One character as the writer escapes it reads back as itself. -/
theorem stringBody_escaped (fuel : Nat) (acc : List Char) (c : Char) (rest : List Char) :
    Steps (stringBody false (fuel + 1) acc) (Json.escapeChar c ++ rest)
      (stringBody false fuel (c :: acc)) rest := by
  unfold Json.escapeChar
  split_ifs with h₁ h₂ h₃ h₄ h₅ h₆ h₇ h₈ <;> simp only [List.cons_append, List.nil_append]
  · rw [beq_iff_eq] at h₁
    subst h₁
    refine stringBody_backslash fuel acc fun line col => ⟨line, col + 1, ?_⟩
    rfl
  · rw [beq_iff_eq] at h₂
    subst h₂
    refine stringBody_backslash fuel acc fun line col => ⟨line, col + 1, ?_⟩
    rfl
  · rw [beq_iff_eq] at h₃
    subst h₃
    refine stringBody_backslash fuel acc fun line col => ⟨line, col + 1, ?_⟩
    rfl
  · rw [beq_iff_eq] at h₄
    subst h₄
    refine stringBody_backslash fuel acc fun line col => ⟨line, col + 1, ?_⟩
    rfl
  · rw [beq_iff_eq] at h₅
    subst h₅
    refine stringBody_backslash fuel acc fun line col => ⟨line, col + 1, ?_⟩
    rfl
  · rw [beq_iff_eq] at h₆
    rw [← Char.ofNat_toNat c, h₆]
    refine stringBody_backslash fuel acc fun line col => ⟨line, col + 1, ?_⟩
    rfl
  · rw [beq_iff_eq] at h₇
    rw [← Char.ofNat_toNat c, h₇]
    refine stringBody_backslash fuel acc fun line col => ⟨line, col + 1, ?_⟩
    rfl
  · have hv : ((0 * 16 + 0) * 16 + c.toNat / 16) * 16 + c.toNat % 16 = c.toNat := by omega
    have hu := reads_escapeChar_u (by omega) (hv ▸ reads_hexEscape (a := '0') (b := '0') rfl rfl
      (hexValue_hexDigit (by omega)) (hexValue_hexDigit (Nat.mod_lt _ (by omega))) rest)
    rw [Char.ofNat_toNat] at hu
    exact stringBody_backslash fuel acc hu
  · simp only [beq_iff_eq] at h₁ h₂ h₈
    exact stringBody_plain fuel acc h₁ h₂ h₈ rest

theorem escapeChar_ne_nil (c : Char) : Json.escapeChar c ≠ [] := by
  unfold Json.escapeChar
  split_ifs <;> simp

theorem length_le_flatMap_escapeChar (cs : List Char) :
    cs.length ≤ (cs.flatMap Json.escapeChar).length := by
  induction cs with
  | nil => simp
  | cons c cs ih =>
      have hc := List.length_pos_iff.mpr (escapeChar_ne_nil c)
      simp only [List.length_cons, List.flatMap_cons, List.length_append]
      omega

/-- The escaped characters of a string and its closing quote read back as the string. -/
theorem reads_stringBody (cs rest : List Char) {fuel : Nat} (acc : List Char)
    (hfuel : cs.length < fuel) :
    Reads (stringBody false fuel acc) (cs.flatMap Json.escapeChar ++ '"' :: rest)
      (String.ofList (acc.reverse ++ cs)) rest := by
  induction cs generalizing fuel acc with
  | nil =>
      obtain ⟨fuel, rfl⟩ := (@Nat.exists_eq_add_one fuel).mpr (by simp at hfuel; omega)
      simpa using stringBody_quote fuel acc rest
  | cons c cs ih =>
      obtain ⟨fuel, rfl⟩ := (@Nat.exists_eq_add_one fuel).mpr (by simp at hfuel; omega)
      rw [List.flatMap_cons, List.append_assoc]
      refine (stringBody_escaped fuel acc c _).trans ?_
      have h := ih (c :: acc) (by simpa using hfuel)
      rwa [List.reverse_cons, List.append_assoc, List.singleton_append] at h

theorem reads_readString (s : String) (rest : List Char) :
    Reads (readString false) (s.toList.flatMap Json.escapeChar ++ '"' :: rest) s rest := by
  rw [readString]
  refine steps_get fun _ _ => ?_
  -- the fuel is the length of the unread text, which is at least that of the string
  have hlen := length_le_flatMap_escapeChar s.toList
  have h := @reads_stringBody s.toList rest (s.toList.flatMap Json.escapeChar ++ '"' :: rest).length
    [] (by simp only [List.length_append, List.length_cons]; omega)
  simp only [List.reverse_nil, List.nil_append, String.ofList_toList] at h
  exact h

theorem toList_quote_append (s : String) (rest : List Char) :
    (Json.quote s).toList ++ rest = '"' :: (s.toList.flatMap Json.escapeChar ++ '"' :: rest) := by
  simp [Json.quote]

theorem reads_stringValue (what s : String) (rest : List Char) :
    Reads (stringValue what) (' ' :: ((Json.quote s).toList ++ rest)) s rest := by
  rw [stringValue, toList_quote_append]
  refine ((reads_blanks [' '] rfl _ (by simp [isJsonBlank])).bind _).trans ?_
  refine ((reads_eat _ _).bind _).trans ?_
  exact reads_readString s rest

/-! ## Counts -/

/-- A run of digits is read up to the first character that is not one. -/
theorem reads_digits {ds : List Char} (hds : ds.all Char.isDigit) {rest : List Char}
    (hrest : ∀ c ∈ rest.head?, c.isDigit = false) {fuel : Nat} (hfuel : ds.length ≤ fuel)
    (acc : List Char) : Reads (digits fuel acc) (ds ++ rest) (acc.reverse ++ ds) rest := by
  induction ds generalizing fuel acc with
  | nil =>
      cases fuel with
      | zero =>
          rw [digits, List.append_nil]
          exact Reads.pure _ _
      | succ fuel =>
          rw [digits]
          refine ((reads_peekChar _).bind _).trans ?_
          cases rest with
          | nil =>
              simp only [List.head?_nil, List.append_nil]
              exact Reads.pure _ _
          | cons c rest =>
              simp only [List.nil_append, List.head?_cons, hrest c rfl, Bool.false_eq_true,
                ite_false, List.append_nil]
              exact Reads.pure _ _
  | cons d ds ih =>
      obtain ⟨fuel, rfl⟩ := (@Nat.exists_eq_add_one fuel).mpr (by simp at hfuel; omega)
      simp only [List.all_cons, Bool.and_eq_true] at hds
      rw [digits]
      refine ((reads_peekChar _).bind _).trans ?_
      simp only [List.cons_append, List.head?_cons, hds.1, ite_true]
      refine ((reads_eat _ _).bind _).trans ?_
      have h := ih hds.2 (by simpa using hfuel) (d :: acc)
      rwa [List.reverse_cons, List.append_assoc, List.singleton_append] at h

/-- Only zero is written with a leading `0`. -/
theorem head_toDigits_ne_zero {n : Nat} (hn : n ≠ 0) :
    (Nat.toDigits 10 n).head? ≠ some '0' := by
  induction n using Nat.strongRecOn with
  | ind n ih =>
      rw [Nat.toDigits_eq_if (by decide)]
      split
      · rename_i hlt
        interval_cases n <;> simp_all
      · obtain ⟨d, ds, hdig⟩ := List.exists_cons_of_ne_nil (@Nat.toDigits_ne_nil (n / 10) 10)
        have h := ih (n / 10) (by omega) (by omega)
        rw [hdig] at h ⊢
        exact h

/-- A count is written as a first digit followed by more digits. -/
theorem exists_toDigits_eq_cons (n : Nat) :
    ∃ d ds, Nat.toDigits 10 n = d :: ds ∧ d.isDigit = true ∧ ds.all Char.isDigit = true := by
  obtain ⟨d, ds, hdig⟩ := List.exists_cons_of_ne_nil (@Nat.toDigits_ne_nil n 10)
  have hmem : ∀ x ∈ Nat.toDigits 10 n, x.isDigit = true := fun x hx =>
    Nat.isDigit_of_mem_toDigits (by decide) (by decide) hx
  refine ⟨d, ds, hdig, hmem d (by simp [hdig]), List.all_eq_true.mpr fun x hx => ?_⟩
  exact hmem x (by simp [hdig, hx])

theorem reads_integerPart (n : Nat) {c : Char} (hc : c.isDigit = false) (rest : List Char) :
    Reads integerPart (Nat.toDigits 10 n ++ c :: rest) (Nat.toDigits 10 n) (c :: rest) := by
  obtain ⟨d, ds, hdig, hd, hds⟩ := exists_toDigits_eq_cons n
  rw [integerPart, hdig]
  refine ((reads_peekChar _).bind _).trans ?_
  simp only [List.cons_append, List.head?_cons, hd, ite_true]
  refine ((reads_eat _ _).bind _).trans ?_
  simp only [pure_bind]
  by_cases hz : d = '0'
  · have hn : n = 0 := by
      by_contra hn
      exact head_toDigits_ne_zero hn (by rw [hdig, hz]; rfl)
    subst hn hz
    obtain rfl : ds = [] := by simpa using hdig.symm
    simp only [beq_self_eq_true, ite_true, List.nil_append]
    refine ((reads_peekChar _).bind _).trans ?_
    simp only [List.head?_cons, hc]
    exact Reads.pure _ _
  · simp only [beq_iff_eq, hz, ite_false]
    refine steps_get fun _ _ => ?_
    refine ((reads_digits hds (by simpa using hc) (by simp) []).bind _).trans ?_
    exact Reads.pure _ _

/-- A count below `2 ^ 64` written in decimal reads back as an unsigned integer. -/
theorem reads_readNumber {n : Nat} (hn : n < 2 ^ 64) {c : Char} (hc : c.isDigit = false)
    (hdot : c ≠ '.') (he : c ≠ 'e') (hE : c ≠ 'E') (rest : List Char) :
    Reads (readNumber true) (Nat.toDigits 10 n ++ c :: rest) (.unsigned n) (c :: rest) := by
  rw [readNumber]
  refine ((reads_integerPart n hc rest).bind _).trans ?_
  refine ((reads_peekChar _).bind _).trans ?_
  simp only [List.head?_cons, Option.some.injEq, hdot, beq_iff_eq, ite_false, pure_bind]
  refine ((reads_peekChar _).bind _).trans ?_
  simp only [List.head?_cons, Bool.or_eq_true, beq_iff_eq, he, hE, or_self, ite_false]
  have hval : (Nat.toDigits 10 n).foldl (fun n c => 10 * n + (c.toNat - 48)) 0 = n :=
    Nat.ofDigitChars_ten_toDigits
  simp only [hval, Nat.pow_eq, hn, ite_true]
  exact Reads.pure _ _

/-! ## The members and the document -/

theorem reads_memberValue_dataDir (m : Members) (d : String) (rest : List Char) :
    Reads (memberValue "data_dir" m) (' ' :: ((Json.quote d).toList ++ rest))
      { m with dataDir := some d } rest := by
  rw [memberValue]
  simp only [beq_self_eq_true, ite_true]
  refine ((reads_stringValue _ d rest).bind _).trans ?_
  exact Reads.pure _ _

theorem reads_memberValue_batchSize (m : Members) {n : Nat} (hn : n < 2 ^ 64) (rest : List Char) :
    Reads (memberValue "batch_size" m) (' ' :: (Nat.toDigits 10 n ++ ',' :: rest))
      { m with batchSize := some n } (',' :: rest) := by
  obtain ⟨d, ds, hdig, hd, -⟩ := exists_toDigits_eq_cons n
  rw [memberValue, if_neg (by decide), if_pos (by decide), batchSizeValue]
  refine (Steps.bind ((reads_blanks [' '] rfl _ ?_).bind _) _).trans ?_
  · rw [hdig]
    simpa using isJsonBlank_eq_false_of_isDigit hd
  have hminus : d ≠ '-' := by
    rintro rfl
    exact absurd hd (by decide)
  simp (disch := exact hminus) only [List.append_eq, hdig, List.cons_append, List.head?_cons, hd,
    ite_true]
  rw [← List.cons_append, ← hdig]
  refine (Steps.bind ((reads_readNumber hn (c := ',') (by decide) (by decide) (by decide)
    (by decide) rest).bind _) _).trans ?_
  exact Reads.pure _ _

theorem reads_memberValue_delimiter (m : Members) (δ : Char) (rest : List Char) :
    Reads (memberValue "delimiter" m) (' ' :: ((Json.quote (String.ofList [δ])).toList ++ rest))
      { m with delimiter := some δ } rest := by
  rw [memberValue, if_neg (by decide), if_neg (by decide), if_pos (by decide), delimiterValue]
  refine (Steps.bind ((reads_stringValue _ _ rest).bind _) _).trans ?_
  simp only [String.toList_ofList, pure_bind]
  exact Reads.pure _ _

theorem reads_nextKey_first (ws : List Char) (hws : ws.all isJsonBlank) (key : String)
    (rest : List Char) :
    Reads (nextKey true) (ws ++ ((Json.quote key).toList ++ rest)) (some '"')
      ((Json.quote key).toList ++ rest) := by
  rw [nextKey, toList_quote_append]
  refine ((reads_blanks ws hws _ (by simp [isJsonBlank])).bind _).trans ?_
  exact Reads.pure _ _

theorem reads_nextKey_comma (ws : List Char) (hws : ws.all isJsonBlank) (key : String)
    (rest : List Char) :
    Reads (nextKey false) (',' :: (ws ++ ((Json.quote key).toList ++ rest))) (some '"')
      ((Json.quote key).toList ++ rest) := by
  rw [nextKey, toList_quote_append]
  refine ((reads_blanks [] rfl _ (by simp [isJsonBlank])).bind _).trans ?_
  simp only [List.head?_cons, Bool.false_eq_true, ite_false]
  refine ((reads_eat _ _).bind _).trans ?_
  refine ((reads_blanks ws hws _ (by simp [isJsonBlank])).bind _).trans ?_
  exact Reads.pure _ _

theorem reads_nextKey_close (first : Bool) (ws : List Char) (hws : ws.all isJsonBlank)
    (rest : List Char) : Reads (nextKey first) (ws ++ '}' :: rest) none ('}' :: rest) := by
  rw [nextKey]
  refine ((reads_blanks ws hws _ (by simp [isJsonBlank])).bind _).trans ?_
  exact Reads.pure _ _

/-- A member under a key not read before: its value is read, and reading goes on with the
next member. -/
theorem members_entry {fuel : Nat} {first : Bool} {m m' : Members} {key : String}
    {input value rest : List Char}
    (hnext : Reads (nextKey first) input (some '"') ((Json.quote key).toList ++ ':' :: value))
    (htaken : ((key == "data_dir" && m.dataDir.isSome) ||
      (key == "batch_size" && m.batchSize.isSome) ||
      (key == "delimiter" && m.delimiter.isSome)) = false)
    (hval : Reads (memberValue key m) value m' rest) :
    Steps (members (fuel + 1) first m) input (members fuel false m') rest := by
  rw [members]
  refine (hnext.bind _).trans ?_
  rw [toList_quote_append]
  simp only [beq_self_eq_true, ite_true]
  refine ((reads_eat _ _).bind _).trans ?_
  refine ((reads_readString key _).bind _).trans ?_
  simp only [htaken, Bool.and_false, Bool.false_eq_true, ite_false]
  refine ((reads_blanks [] rfl _ (by simp [isJsonBlank])).bind _).trans ?_
  simp only [List.head?_cons]
  refine ((reads_eat _ _).bind _).trans ?_
  exact hval.bind _

theorem members_close {fuel : Nat} {first : Bool} {m : Members} {input rest : List Char}
    (hnext : Reads (nextKey first) input none rest) :
    Reads (members (fuel + 1) first m) input (.done m) rest := by
  rw [members]
  exact (hnext.bind _).trans (Reads.pure _ _)

/-- The saved text: one member per line, indented by two spaces. -/
theorem toList_saveText (c : Config) : c.saveText.toList =
    '{' :: '\n' :: ' ' :: ' ' :: ((Json.quote "data_dir").toList ++ ':' ::
      ' ' :: ((Json.quote c.dataDir).toList ++ ',' :: '\n' :: ' ' :: ' ' ::
      ((Json.quote "batch_size").toList ++ ':' :: ' ' :: (Nat.toDigits 10 c.batchSize ++
      ',' :: '\n' :: ' ' :: ' ' :: ((Json.quote "delimiter").toList ++ ':' ::
      ' ' :: ((Json.quote (String.ofList [c.delimiter])).toList ++ ['\n', '}'])))))) := by
  simp [Config.saveText, Json.pretty, Config.toJson, Json.prettyAt, Json.prettyMembers,
    Json.compactLeaf, Json.numberText, Json.indent]
  exact Nat.toList_repr

/-- The three members of saved settings are read one after the other, then the end of
the object. -/
theorem reads_members_saved (c : Config) (hb : c.batchSize < 2 ^ 64) {fuel : Nat}
    (hfuel : 4 ≤ fuel) :
    Reads (members fuel true {})
      ('\n' :: ' ' :: ' ' :: ((Json.quote "data_dir").toList ++ ':' ::
      ' ' :: ((Json.quote c.dataDir).toList ++ ',' :: '\n' :: ' ' :: ' ' ::
      ((Json.quote "batch_size").toList ++ ':' :: ' ' :: (Nat.toDigits 10 c.batchSize ++
      ',' :: '\n' :: ' ' :: ' ' :: ((Json.quote "delimiter").toList ++ ':' ::
      ' ' :: ((Json.quote (String.ofList [c.delimiter])).toList ++ ['\n', '}'])))))))
      (.done
        { dataDir := some c.dataDir, batchSize := some c.batchSize,
          delimiter := some c.delimiter }) ['}'] := by
  obtain ⟨fuel, rfl⟩ : ∃ f, fuel = f + 1 + 1 + 1 + 1 := ⟨fuel - 4, by omega⟩
  refine (members_entry (reads_nextKey_first ['\n', ' ', ' '] rfl "data_dir" _) rfl
    (reads_memberValue_dataDir {} c.dataDir _)).trans ?_
  refine (members_entry (reads_nextKey_comma ['\n', ' ', ' '] rfl "batch_size" _) rfl
    (reads_memberValue_batchSize _ hb _)).trans ?_
  refine (members_entry (reads_nextKey_comma ['\n', ' ', ' '] rfl "delimiter" _) rfl
    (reads_memberValue_delimiter _ c.delimiter _)).trans ?_
  exact members_close (reads_nextKey_close false ['\n'] rfl [])

theorem reads_endObject (rest : List Char) : Reads endObject ('}' :: rest) () rest := by
  rw [endObject]
  refine ((reads_blanks [] rfl _ (by simp [isJsonBlank])).bind _).trans ?_
  exact reads_eat _ _

theorem reads_document_saveText (c : Config) (hb : c.batchSize < 2 ^ 64) :
    Reads document c.saveText.toList
      { dataDir := some c.dataDir, batchSize := some c.batchSize,
        delimiter := some c.delimiter } [] := by
  rw [document, toList_saveText]
  refine ((reads_blanks [] rfl _ (by simp [isJsonBlank])).bind _).trans ?_
  simp only [List.head?_cons]
  refine ((reads_eat _ _).bind _).trans ?_
  refine steps_get fun _ _ => ?_
  refine ((reads_members_saved c hb (by simp)).bind _).trans ?_
  refine ((reads_endObject _).bind _).trans ?_
  simp only [pure_bind]
  refine ((reads_blanks [] rfl [] (by simp)).bind _).trans ?_
  exact Reads.pure _ _

/-- Valid settings with a batch size that fits in 64 bits read back from the text they are
saved as. -/
theorem load_saveText (c : Config) (hv : c.validate = .ok ()) (hb : c.batchSize < 2 ^ 64) :
    load c.saveText = .ok c := by
  obtain ⟨line, col, h⟩ := reads_document_saveText c hb 1 0
  have hrun : document.run ⟨c.saveText.toList, 1, 0⟩ =
      .ok (⟨some c.dataDir, some c.batchSize, some c.delimiter⟩, ⟨[], line, col⟩) := h
  rw [load, hrun]
  simp only [Option.getD_some, hv]

/-- Settings whose folder holds a quote, a backslash, a non-ASCII letter and a control
character, with a tab as delimiter, read back. -/
theorem load_saveText_escaped :
    Config.validate ⟨"a\"b\\cé\x01", 8, '\t'⟩ = .ok () ∧ 8 < 2 ^ 64 ∧
      load (Config.saveText ⟨"a\"b\\cé\x01", 8, '\t'⟩) = .ok ⟨"a\"b\\cé\x01", 8, '\t'⟩ :=
  ⟨rfl, by decide, load_saveText _ rfl (by decide)⟩

end Tabula.ConfigFile
