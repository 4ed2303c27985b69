import Mathlib.Data.List.TakeDrop
import Mathlib.Data.List.TakeWhile
import Tabula.Query

/-!
# Reading select-list items

Main statement, `SelectItem.parse_classifies`.
-/

namespace Tabula

namespace Text

/-! ## Trimming -/

/-- Dropping blanks from the front of a list of blanks leaves nothing. -/
theorem dropWhile_isBlank_of_all {cs : List Char} (h : cs.all isBlank) :
    cs.dropWhile isBlank = [] := by
  simpa using @List.dropWhile_append_of_pos _ _ _ [] (List.all_eq_true.mp h)

/-- The first character left after dropping blanks is not blank. -/
theorem head_dropWhile_isBlank (cs : List Char) :
    ∀ c ∈ (cs.dropWhile isBlank).head?, isBlank c = false := by
  intro c hc
  have h := List.head?_dropWhile_not isBlank cs
  rw [Option.mem_def] at hc
  simpa [hc] using h

/-- A list is its leading blanks, its trimmed part and its trailing blanks. -/
theorem exists_eq_trimChars (cs : List Char) :
    ∃ lead trail, cs = lead ++ trimChars cs ++ trail ∧
      lead.all isBlank ∧ trail.all isBlank := by
  let rest := cs.dropWhile isBlank
  have hrest : rest = ((rest.reverse).dropWhile isBlank).reverse ++
      ((rest.reverse).takeWhile isBlank).reverse := by
    rw [← List.reverse_append, List.takeWhile_append_dropWhile, List.reverse_reverse]
  refine ⟨cs.takeWhile isBlank, ((rest.reverse).takeWhile isBlank).reverse, ?_,
    List.all_takeWhile, by simp⟩
  calc cs = cs.takeWhile isBlank ++ rest := List.takeWhile_append_dropWhile.symm
    _ = _ := by rw [hrest]; simp [trimChars, rest]

/-- Trimming a list that has blanks at its ends only gives the part between them. -/
theorem trimChars_eq_of_ends {lead mid trail : List Char} (hl : lead.all isBlank)
    (ht : trail.all isBlank) (hhead : ∀ c ∈ mid.head?, isBlank c = false)
    (hlast : ∀ c ∈ mid.getLast?, isBlank c = false) :
    trimChars (lead ++ mid ++ trail) = mid := by
  have hfront : (lead ++ mid ++ trail).dropWhile isBlank = (mid ++ trail).dropWhile isBlank := by
    rw [List.append_assoc, List.dropWhile_append_of_pos (List.all_eq_true.mp hl)]
  cases mid with
  | nil =>
      simp only [trimChars, List.append_nil]
      rw [List.dropWhile_append_of_pos (List.all_eq_true.mp hl), dropWhile_isBlank_of_all ht]
      rfl
  | cons m ms =>
      have hm : isBlank m = false := hhead m rfl
      have hkeep : (m :: ms ++ trail).dropWhile isBlank = m :: ms ++ trail :=
        List.dropWhile_cons_of_neg (by simp [hm])
      have hback : ((m :: ms).reverse).dropWhile isBlank = (m :: ms).reverse := by
        cases hr : (m :: ms).reverse with
        | nil => simp at hr
        | cons l ls =>
            have hl' : isBlank l = false := hlast l (by rw [← List.head?_reverse, hr]; rfl)
            exact List.dropWhile_cons_of_neg (by simp [hl'])
      simp only [trimChars, hfront, hkeep, List.reverse_append]
      rw [List.dropWhile_append_of_pos (by simpa using List.all_eq_true.mp ht), hback,
        List.reverse_reverse]

/-- The trimmed part of a list begins with a character that is not blank. -/
theorem head_trimChars (cs : List Char) : ∀ c ∈ (trimChars cs).head?, isBlank c = false := by
  cases hx : cs.dropWhile isBlank with
  | nil => simp [trimChars, hx]
  | cons x xs =>
      have hxb : isBlank x = false := head_dropWhile_isBlank cs x (by simp [hx])
      have hkeep : [x].dropWhile isBlank = [x] := List.dropWhile_cons_of_neg (by simp [hxb])
      intro c hc
      simp only [trimChars, hx, List.reverse_cons, List.dropWhile_append, List.head?_reverse,
        Option.mem_def] at hc
      split at hc <;> simp_all

/-- The trimmed part of a list ends with a character that is not blank. -/
theorem getLast_trimChars (cs : List Char) :
    ∀ c ∈ (trimChars cs).getLast?, isBlank c = false := by
  intro c hc
  simp only [trimChars, List.getLast?_reverse] at hc
  exact head_dropWhile_isBlank _ c hc

/-- Trimming twice trims once. -/
theorem trim_trim (s : String) : trim (trim s) = trim s := by
  have h := @trimChars_eq_of_ends [] _ [] rfl rfl
    (head_trimChars s.toList) (getLast_trimChars s.toList)
  simp only [List.nil_append, List.append_nil] at h
  simp [trim, h]

@[simp] theorem trim_ofList (cs : List Char) :
    trim (String.ofList cs) = String.ofList (trimChars cs) := by
  simp [trim]

theorem toList_trim (s : String) : (trim s).toList = trimChars s.toList := by
  simp [trim]

/-! ## Blank characters in the tables -/

/-- The code points of the blank characters. -/
def blankCodes : List Nat :=
  [0x09, 0x0A, 0x0B, 0x0C, 0x0D, 0x20, 0x85, 0xA0, 0x1680, 0x2000, 0x2001, 0x2002, 0x2003,
    0x2004, 0x2005, 0x2006, 0x2007, 0x2008, 0x2009, 0x200A, 0x2028, 0x2029, 0x202F, 0x205F,
    0x3000]

theorem toNat_mem_blankCodes {c : Char} (h : isBlank c = true) : c.toNat ∈ blankCodes := by
  simp only [isBlank, Bool.or_eq_true, Bool.and_eq_true, decide_eq_true_eq, beq_iff_eq] at h
  simp only [blankCodes, List.mem_cons, List.not_mem_nil, or_false]
  omega

/-- A blank character is its own upper-case form. -/
theorem upperChars_of_isBlank {c : Char} (h : isBlank c = true) : upperChars c = [c] := by
  have hall : blankCodes.all (fun n => upperChars (Char.ofNat n) == [Char.ofNat n]) = true := by
    decide +kernel
  have hc := List.all_eq_true.mp hall _ (toNat_mem_blankCodes h)
  rw [Char.ofNat_toNat] at hc
  simpa using hc

/-- A letter, digit, `_` or `.` is not blank. -/
theorem isBlank_eq_false_of_isArgChar {c : Char} (h : Aggregate.isArgChar c = true) :
    isBlank c = false := by
  have hall : blankCodes.all (fun n => !Aggregate.isArgChar (Char.ofNat n)) = true := by
    decide +kernel
  cases hb : isBlank c with
  | false => rfl
  | true =>
      have hc := List.all_eq_true.mp hall _ (toNat_mem_blankCodes hb)
      rw [Char.ofNat_toNat, h] at hc
      cases hc

end Text

namespace AggregateFn

/-- A function is recognised exactly by its upper-case name. -/
theorem ofName?_eq_some_iff {name : String} {fn : AggregateFn} :
    ofName? name = some fn ↔ Text.toUpper name = fn.name := by
  unfold ofName?
  split <;> cases fn <;> simp_all [AggregateFn.name]

/-- The name of a function holds no blank and no `(`. -/
theorem name_chars (fn : AggregateFn) :
    fn.name.toList.all (fun c => !Text.isBlank c && c != '(') = true := by
  cases fn <;> decide

/-- A recognised function name holds no blank and no `(`: each of its characters is
upper-cased into the function's name. -/
theorem chars_of_ofName? {name : String} {fn : AggregateFn} (h : ofName? name = some fn) :
    ∀ c ∈ name.toList, Text.isBlank c = false ∧ c ≠ '(' := by
  intro c hc
  have hup : ∀ d ∈ Text.upperChars c, d ∈ fn.name.toList := fun d hd => by
    rw [← ofName?_eq_some_iff.mp h, Text.toUpper, String.toList_ofList]
    exact List.mem_flatMap.mpr ⟨c, hc, hd⟩
  have hname := List.all_eq_true.mp (name_chars fn)
  constructor
  · cases hb : Text.isBlank c with
    | false => rfl
    | true =>
        have hmem := hup c (by rw [Text.upperChars_of_isBlank hb]; exact List.mem_singleton_self c)
        simpa [hb] using hname c hmem
  · rintro rfl
    have hmem := hup '(' (by decide)
    simpa using hname '(' hmem

end AggregateFn

/-! ## Aggregate text -/

namespace Aggregate

open Text

/-- Aggregate text `F w ( w' A w'' )`: a function name, blanks and an argument `*` (COUNT
only) or a run of letters, digits, `_` and `.`. -/
def Written (t : String) (a : Aggregate) : Prop :=
  ∃ F w w' A w'' : String,
    t = F ++ w ++ "(" ++ w' ++ A ++ w'' ++ ")" ∧
    (w ++ w' ++ w'').toList.all isBlank ∧
    AggregateFn.ofName? F = some a.fn ∧
    (A = "*" ∧ a.fn = .count ∧ a.arg = .star ∨
      A ≠ "" ∧ A.toList.all isArgChar ∧ a.arg = .field A) ∧
    a.label = t

/-- Splitting at the first `(`. -/
theorem span_open_paren {cs pre rest : List Char} {c : Char}
    (h : cs.span (· != '(') = (pre, c :: rest)) : cs = pre ++ '(' :: rest ∧ '(' ∉ pre := by
  rw [List.span_eq_takeWhile_dropWhile, Prod.mk.injEq] at h
  obtain ⟨hpre, hdrop⟩ := h
  have hc : c = '(' := by
    have := List.head?_dropWhile_not (· != '(') cs
    simp [hdrop] at this
    exact this
  subst hc
  refine ⟨?_, fun hmem => ?_⟩
  · rw [← hpre, ← hdrop, List.takeWhile_append_dropWhile]
  · rw [← hpre] at hmem
    simpa using List.mem_takeWhile_imp hmem

theorem span_open_paren_of_not_mem {pre rest : List Char} (h : '(' ∉ pre) :
    (pre ++ '(' :: rest).span (· != '(') = (pre, '(' :: rest) := by
  have hall : ∀ c ∈ pre, (c != '(') = true := fun c hc => by
    have hne : c ≠ '(' := fun hc' => h (hc' ▸ hc)
    simpa using hne
  rw [List.span_eq_takeWhile_dropWhile, List.takeWhile_append_of_pos hall,
    List.dropWhile_append_of_pos hall]
  simp

/-- The text an aggregate is read from is written in its grammar. -/
theorem written_of_parse? {t : String} {a : Aggregate} (h : parse? t = some a) :
    Written (trim t) a := by
  dsimp only [parse?] at h
  split at h
  · cases h
  · rename_i pre c rest hsplit
    obtain ⟨hcs, hnot⟩ := span_open_paren hsplit
    split at h
    · rename_i hlast
      obtain ⟨body, rfl⟩ := List.getLast?_eq_some_iff.mp hlast
      simp only [List.dropLast_concat, trim_ofList] at h
      split at h
      · cases h
      · rename_i fn hfn
        obtain ⟨lead, w, hpre, hlead, hw⟩ := exists_eq_trimChars pre
        have hlead_nil : lead = [] := by
          cases lead with
          | nil => rfl
          | cons l ls =>
              have hl : isBlank l = false := head_trimChars t.toList l (by
                rw [← toList_trim, hcs, hpre]; simp)
              simp [hl] at hlead
        subst hlead_nil
        obtain ⟨w', w'', hbody, hw', hw''⟩ := exists_eq_trimChars body
        generalize trimChars pre = F at hpre hfn
        generalize trimChars body = A at hbody h
        subst hpre hbody
        have htext : trim t = String.ofList F ++ String.ofList w ++ "(" ++ String.ofList w' ++
            String.ofList A ++ String.ofList w'' ++ ")" := by
          apply String.ext
          simp [hcs]
        have hblank : (String.ofList w ++ String.ofList w' ++ String.ofList w'').toList.all
            isBlank := by
          simp_all
        split at h
        · rename_i hstar
          split at h
          · rename_i hcount
            cases h
            exact ⟨_, _, _, _, _, htext, hblank, hfn,
              .inl ⟨by simpa using hstar, by simpa using hcount, rfl⟩, rfl⟩
          · cases h
        · split at h
          · cases h
            rename_i hstar harg
            simp only [Bool.and_eq_true, Bool.not_eq_eq_eq_not, Bool.not_true] at harg
            exact ⟨_, _, _, _, _, htext, hblank, hfn,
              .inr ⟨fun he => by simp [he] at harg, by simpa using harg.2, rfl⟩, rfl⟩
          · cases h
    · cases h

/-- A text written in the grammar is read as its aggregate. -/
theorem parse?_of_written {t : String} {a : Aggregate} (h : Written (trim t) a) :
    parse? t = some a := by
  obtain ⟨F, w, w', A, w'', htext, hblank, hfn, harg, hlabel⟩ := h
  have hnameChars := AggregateFn.chars_of_ofName? hfn
  simp only [String.toList_append, List.all_append, Bool.and_eq_true] at hblank
  obtain ⟨⟨hw, hw'⟩, hw''⟩ := hblank
  have hnot : '(' ∉ F.toList ++ w.toList := by
    simp only [List.mem_append, not_or]
    exact ⟨fun hmem => (hnameChars _ hmem).2 rfl,
      fun hmem => absurd (List.all_eq_true.mp hw _ hmem) (by decide)⟩
  have hchars : (trim t).toList =
      (F.toList ++ w.toList) ++ '(' :: ((w'.toList ++ A.toList ++ w''.toList) ++ [')']) := by
    simp [htext]
  have hname : trimChars (F.toList ++ w.toList) = F.toList := by
    have hF : ∀ c ∈ F.toList, isBlank c = false := fun c hc => (hnameChars c hc).1
    simpa using @trimChars_eq_of_ends [] _ _ rfl hw
      (fun c hc => hF c (List.mem_of_mem_head? hc)) (fun c hc => hF c (List.mem_of_mem_getLast? hc))
  have hA : ∀ c ∈ A.toList, isBlank c = false := by
    rcases harg with ⟨rfl, -, -⟩ | ⟨-, hall, -⟩
    · intro c hc
      simp at hc
      subst hc
      rfl
    · exact fun c hc => isBlank_eq_false_of_isArgChar (List.all_eq_true.mp hall c hc)
  have hinner : trimChars (w'.toList ++ A.toList ++ w''.toList) = A.toList :=
    trimChars_eq_of_ends hw' hw'' (fun c hc => hA c (List.mem_of_mem_head? hc))
      (fun c hc => hA c (List.mem_of_mem_getLast? hc))
  dsimp only [parse?]
  rw [hchars, span_open_paren_of_not_mem hnot]
  simp only [List.getLast?_concat, List.dropLast_concat, trim_ofList, hname, hinner,
    String.ofList_toList, hfn]
  obtain ⟨fn, arg, label⟩ := a
  simp only at hlabel harg
  subst hlabel
  rcases harg with ⟨rfl, rfl, rfl⟩ | ⟨hne, hall, rfl⟩
  · simp
  · have hstar : A ≠ "*" := by
      rintro rfl
      simp [isArgChar] at hall
      exact absurd hall (by decide)
    simp [hstar, hne, hall]



theorem parse?_eq_some_iff {t : String} {a : Aggregate} :
    parse? t = some a ↔ Written (trim t) a :=
  ⟨written_of_parse?, parse?_of_written⟩

/-- Aggregate text holds a `(`, so it is never the wildcard's `*`. -/
theorem ne_star_of_written {t : String} {a : Aggregate} (h : Written t a) : t ≠ "*" := by
  obtain ⟨F, w, w', A, w'', rfl, -⟩ := h
  intro heq
  have hmem : '(' ∈ (F ++ w ++ "(" ++ w' ++ A ++ w'' ++ ")").toList := by simp
  rw [heq] at hmem
  exact absurd hmem (by decide)

end Aggregate

/-! ## Select-list items -/

namespace SelectItem

open Text

/-- A select-list item is the wildcard, an aggregate or a column reference of its trimmed
text, and is labelled by that text. -/
theorem parse_classifies (s : String) :
    (parse s = .wildcard ↔ trim s = "*") ∧
    (∀ a, parse s = .aggregate a ↔ Aggregate.Written (trim s) a) ∧
    (∀ n, parse s = .column n ↔
      n = trim s ∧ trim s ≠ "*" ∧ ∀ a, ¬ Aggregate.Written (trim s) a) ∧
    (parse s).label = trim s := by
  have hread : ∀ a, Aggregate.parse? (trim s) = some a ↔ Aggregate.Written (trim s) a := by
    intro a
    rw [Aggregate.parse?_eq_some_iff, trim_trim]
  by_cases hstar : trim s = "*"
  · have hparse : parse s = .wildcard := by simp [parse, hstar]
    refine ⟨by simp [hparse, hstar], fun a => ?_, fun n => ?_, by simp [hparse, hstar, label]⟩
    · simpa [hparse] using fun h => Aggregate.ne_star_of_written h hstar
    · simp [hparse, hstar]
  · cases hagg : Aggregate.parse? (trim s) with
    | none =>
        have hparse : parse s = .column (trim s) := by simp [parse, hstar, hagg]
        have hnone : ∀ a, ¬ Aggregate.Written (trim s) a := fun a h => by
          rw [← hread, hagg] at h
          cases h
        refine ⟨by simp [hparse, hstar], fun a => ?_, fun n => ?_, by simp [hparse, label]⟩
        · simpa [hparse] using hnone a
        · simp only [hparse, SelectItem.column.injEq]
          exact ⟨fun h => ⟨h.symm, hstar, hnone⟩, fun h => h.1.symm⟩
    | some b =>
        have hparse : parse s = .aggregate b := by simp [parse, hstar, hagg]
        have hb : Aggregate.Written (trim s) b := (hread b).mp hagg
        refine ⟨by simp [hparse, hstar], fun a => ?_, fun n => ?_, ?_⟩
        · rw [hparse, SelectItem.aggregate.injEq, ← hread, hagg, Option.some.injEq, eq_comm]
        · simpa [hparse] using fun _ _ => ⟨b, hb⟩
        · obtain ⟨_, _, _, _, _, _, _, _, _, hlabel⟩ := hb
          simpa [hparse, label] using hlabel

/-- The long s upper-cases to `S`, so `ſum(x)` is read as the aggregate SUM of `x`, though no
ASCII spelling of a function name starts it. -/
theorem parse_long_s_sum :
    parse "ſum(x)" = .aggregate ⟨.sum, .field "x", "ſum(x)"⟩ ∧
      ∀ F w w' A w'' : String, "ſum(x)" = F ++ w ++ "(" ++ w' ++ A ++ w'' ++ ")" →
        toUpperAscii F ∉ ["COUNT", "SUM", "AVG", "MIN", "MAX"] := by
  refine ⟨by decide +kernel, fun F w w' A w'' h hup => ?_⟩
  cases hF : F.toList with
  | nil =>
      have hempty : toUpperAscii F = "" := by simp [toUpperAscii, hF]
      rw [hempty] at hup
      exact absurd hup (by decide)
  | cons f fs =>
      have hf : f = 'ſ' := by
        have hchars := congrArg String.toList h
        rw [show "ſum(x)".toList = ['ſ', 'u', 'm', '(', 'x', ')'] from rfl] at hchars
        simp only [String.toList_append, hF, List.cons_append, List.cons.injEq] at hchars
        exact hchars.1.symm
      have hhead : (toUpperAscii F).toList.head? = some 'ſ' := by
        simp [toUpperAscii, hF, hf]
      simp only [List.mem_cons, List.not_mem_nil, or_false] at hup
      rcases hup with h1 | h1 | h1 | h1 | h1 <;> rw [h1] at hhead <;> exact absurd hhead (by decide)

end SelectItem

end Tabula
