import Mathlib.Data.List.TakeDrop
import Mathlib.Data.List.TakeWhile
import Tabula.Relation.Join
import Tabula.Predicate

/-!
# Fields of a joined row

A field a later stage reads resolves on a joined row to the value it denotes on the
pair of rows (`resolve_resultRow_eq_denote`).
-/

namespace Tabula

namespace Row

/-! ## Cells after writes -/

theorem find?_setCell (name x : String) (v : Value) (cells : List (String × Value)) :
    ((setCell name v cells).find? (·.1 == x)).map (·.2) =
      if name = x then some v else (cells.find? (·.1 == x)).map (·.2) := by
  induction cells with
  | nil => by_cases h : name = x <;> simp [setCell, h]
  | cons c cells ih =>
      obtain ⟨k, w⟩ := c
      by_cases hk : k = name
      · subst hk
        by_cases h : k = x <;> simp [setCell, h]
      · by_cases hx : k = x
        · subst hx
          simp [setCell, hk, Ne.symm hk]
        · simp [setCell, hk, hx, ih]

@[simp] theorem get?_insert (r : Row) (name x : String) (v : Value) :
    (r.insert name v).get? x = if name = x then some v else r.get? x :=
  find?_setCell name x v r.fields

theorem get?_eq_none_iff {r : Row} {x : String} : r.get? x = none ↔ x ∉ r.names := by
  simp only [get?, names, Option.map_eq_none_iff, List.find?_eq_none, beq_iff_eq, List.mem_map,
    not_exists, not_and]

/-- Writes under names other than `x` leave the cell of `x` as it was. -/
theorem get?_foldl_insert_of_forall_ne {α : Type} (as : List α) (key : α → String)
    (val : α → Value) {x : String} (h : ∀ a ∈ as, key a ≠ x) (base : Row) :
    (as.foldl (fun r a => r.insert (key a) (val a)) base).get? x = base.get? x := by
  induction as generalizing base with
  | nil => rfl
  | cons a as ih =>
      rw [List.foldl_cons, ih (fun b hb => h b (.tail a hb)), get?_insert,
        if_neg (h a (.head as))]

/-- After writes under names that tell their sources apart, the cell of a source's name
holds what was written for it. -/
theorem get?_foldl_insert_of_mem {α : Type} {as : List α} (key : α → String)
    (val : α → Value) {n : α} (hn : n ∈ as) (hinj : ∀ a ∈ as, key a = key n → a = n)
    (base : Row) :
    (as.foldl (fun r a => r.insert (key a) (val a)) base).get? (key n) = some (val n) := by
  induction as generalizing base with
  | nil => cases hn
  | cons a as ih =>
      rw [List.foldl_cons]
      by_cases hmem : n ∈ as
      · exact ih hmem (fun b hb => hinj b (.tail a hb)) _
      · have ha : a = n := by simpa [hmem, eq_comm] using hn
        subst ha
        have hne : ∀ b ∈ as, key b ≠ key a := fun b hb hkey =>
          hmem (hinj b (.tail _ hb) hkey ▸ hb)
        rw [get?_foldl_insert_of_forall_ne as key val hne, get?_insert, if_pos rfl]

/-- Writing each name whose value is some, in order: a written name holds its value. -/
theorem get?_foldl_insertSome (fs : List String) (g : String → Option Value) (base : Row)
    (x : String) :
    (fs.foldl (fun r f => match g f with | some v => r.insert f v | none => r) base).get? x =
      if x ∈ fs then (g x).or (base.get? x) else base.get? x := by
  induction fs generalizing base with
  | nil => simp
  | cons f fs ih =>
      have hstep : (match g f with | some v => base.insert f v | none => base).get? x =
          if f = x then (g x).or (base.get? x) else base.get? x := by
        by_cases hfx : f = x
        · subst hfx
          cases g f <;> simp
        · cases g f <;> simp [hfx]
      rw [List.foldl_cons, ih, hstep]
      by_cases hfx : f = x
      · subst hfx
        cases g f <;> simp
      · by_cases hx : x ∈ fs <;> simp [hfx, hx, Ne.symm hfx]

/-! ## Qualified names -/

theorem splitQualifier_qualify {t : String} (ht : '.' ∉ t.toList) (b : String) :
    splitQualifier (t ++ "." ++ b) = some (t, b) := by
  have hall : ∀ c ∈ t.toList, (c != '.') = true := fun c hc => by
    have hne : c ≠ '.' := fun h => ht (h ▸ hc)
    simpa using hne
  have hlist : (t ++ "." ++ b).toList = t.toList ++ '.' :: b.toList := by simp
  simp [splitQualifier, hlist, List.span_eq_takeWhile_dropWhile,
    List.takeWhile_append_of_pos hall, List.dropWhile_append_of_pos hall]

/-- A split reference is its qualifier, a dot and its bare name, with no dot in the
qualifier. -/
theorem eq_qualify_of_splitQualifier {ref q b : String}
    (h : splitQualifier ref = some (q, b)) : ref = q ++ "." ++ b ∧ '.' ∉ q.toList := by
  let p : Char → Bool := (· != '.')
  unfold splitQualifier at h
  rw [List.span_eq_takeWhile_dropWhile] at h
  cases hd : ref.toList.dropWhile p with
  | nil => simp [p, hd] at h
  | cons c rest =>
      simp only [p, hd, Option.some.injEq, Prod.mk.injEq] at h
      obtain ⟨rfl, rfl⟩ := h
      have hc : c = '.' := by
        have hhead := List.head_dropWhile_not p (l := ref.toList) (by simp [hd])
        simpa [hd, p] using hhead
      subst hc
      refine ⟨String.ext ?_, fun hmem => ?_⟩
      · have hsplit := (List.takeWhile_append_dropWhile (p := p) (l := ref.toList)).symm
        rw [hd] at hsplit
        simpa [p] using hsplit
      · have := List.mem_takeWhile_imp (p := p) (by simpa using hmem)
        simp [p] at this

theorem splitQualifier_of_qualify_eq {t b x : String} (ht : '.' ∉ t.toList)
    (h : t ++ "." ++ b = x) : splitQualifier x = some (t, b) :=
  h ▸ splitQualifier_qualify ht b

/-- A name built from a dotless qualifier splits back into that qualifier and bare name. -/
theorem eq_of_qualify_eq {t k x q b : String} (ht : '.' ∉ t.toList)
    (hx : splitQualifier x = some (q, b)) (h : t ++ "." ++ k = x) : t = q ∧ k = b := by
  have hsplit := splitQualifier_of_qualify_eq ht h
  rw [hx] at hsplit
  simp only [Option.some.injEq, Prod.mk.injEq] at hsplit
  exact ⟨hsplit.1.symm, hsplit.2.symm⟩

theorem qualify_ne_of_unqualified {t k x : String} (ht : '.' ∉ t.toList)
    (hx : splitQualifier x = none) : t ++ "." ++ k ≠ x := fun h => by
  have hsplit := splitQualifier_of_qualify_eq ht h
  rw [hx] at hsplit
  cases hsplit

theorem resolve_of_qualified {r : Row} {ref q b : String} (t : String)
    (h : splitQualifier ref = some (q, b)) :
    r.resolve ref (some t) = (r.get? ref).or (if q = t then r.get? b else none) := by
  unfold resolve
  cases r.get? ref <;> simp [h]

theorem resolve_of_unqualified {r : Row} {ref : String} (t : String)
    (h : splitQualifier ref = none) :
    r.resolve ref (some t) = (r.get? ref).or (r.get? (t ++ "." ++ ref)) := by
  unfold resolve
  cases r.get? ref <;> simp [h]

end Row

/-- The two tables of a join have different names, neither with a dot, so that a
qualified name tells which table it is qualified by. -/
structure JoinContext.DistinctTables (ctx : JoinContext) : Prop where
  ne : ctx.mainTable ≠ ctx.joinTable
  main_dotless : '.' ∉ ctx.mainTable.toList
  join_dotless : '.' ∉ ctx.joinTable.toList

namespace Join

/-- The value a field reference denotes on a main row and its partner, if any; a qualifier
that names neither table denotes nothing. -/
def denote (ctx : JoinContext) (sh : List String) (m : Row) (j : Option Row)
    (f : String) : Option Value :=
  match Row.splitQualifier f with
  | some (q, b) =>
    if q = ctx.mainTable then m.resolve f (some ctx.mainTable)
    else if q = ctx.joinTable then
      match j with
      | some r => (r.resolve f (some ctx.joinTable)).or
          (if ctx.wildcard ∧ b ∈ sh then some .null else none)
      | none => if b ∈ sh then some .null else none
    else none
  | none =>
    (m.resolve f (some ctx.mainTable)).or
      (match j with
        | some r => r.resolve f (some ctx.joinTable)
        | none => if f ∈ sh then some .null else none)

section Passes

variable (ctx : JoinContext) (sh : List String) (includeMain : Bool) (m : Row)
  (j : Option Row)

/-- The first pass of an output row: the main row's cells under the main table's name. -/
def mainCells : Row :=
  if includeMain || ctx.wildcard then
    m.fields.foldl (fun r p => r.insert (ctx.mainTable ++ "." ++ p.1) p.2) Row.empty
  else Row.empty

/-- The first two passes of an output row: under the wildcard the joined table's columns
follow the main cells, null where the partner lacks them. -/
def prefilled : Row :=
  if ctx.wildcard then
    sh.foldl (fun r n =>
      r.insert (ctx.joinTable ++ "." ++ n) ((j.bind (·.get? n)).getD .null))
      (mainCells ctx includeMain m)
  else mainCells ctx includeMain m

theorem resultRow_eq_foldl :
    resultRow ctx sh includeMain m j =
      ctx.fields.foldl (fun r f =>
        match fieldValue ctx sh m j f with
        | some v => r.insert f v
        | none => r) (prefilled ctx sh includeMain m j) := rfl

/-- A requested field holds its value when it has one, else what the first passes wrote. -/
theorem get?_resultRow_of_mem {f : String} (hf : f ∈ ctx.fields) :
    (resultRow ctx sh includeMain m j).get? f =
      (fieldValue ctx sh m j f).or ((prefilled ctx sh includeMain m j).get? f) := by
  rw [resultRow_eq_foldl, Row.get?_foldl_insertSome, if_pos hf]

theorem get?_resultRow_of_not_mem {x : String} (hx : x ∉ ctx.fields) :
    (resultRow ctx sh includeMain m j).get? x = (prefilled ctx sh includeMain m j).get? x := by
  rw [resultRow_eq_foldl, Row.get?_foldl_insertSome, if_neg hx]

/-- A name that neither first pass writes is absent before the requested fields. -/
theorem get?_prefilled_eq_none {x : String}
    (hmain : ∀ p ∈ m.fields, ctx.mainTable ++ "." ++ p.1 ≠ x)
    (hjoined : ctx.wildcard = true → ∀ n ∈ sh, ctx.joinTable ++ "." ++ n ≠ x) :
    (prefilled ctx sh includeMain m j).get? x = none := by
  have hcells : (mainCells ctx includeMain m).get? x = none := by
    unfold mainCells
    split
    · rw [Row.get?_foldl_insert_of_forall_ne m.fields _ _ hmain]
      rfl
    · rfl
  unfold prefilled
  split
  · next hw => rw [Row.get?_foldl_insert_of_forall_ne sh _ _ (hjoined hw)]; exact hcells
  · exact hcells

/-- Under the wildcard a column of the joined table holds the partner's cell, or null. -/
theorem get?_prefilled_of_shape (hsep : ctx.DistinctTables) (hw : ctx.wildcard = true)
    {n : String} (hn : n ∈ sh) :
    (prefilled ctx sh includeMain m j).get? (ctx.joinTable ++ "." ++ n) =
      some ((j.bind (·.get? n)).getD .null) := by
  have hinj : ∀ a ∈ sh, ctx.joinTable ++ "." ++ a = ctx.joinTable ++ "." ++ n → a = n :=
    fun _ _ h =>
      (Row.eq_of_qualify_eq hsep.join_dotless (Row.splitQualifier_qualify hsep.join_dotless n) h).2
  simp only [prefilled, hw, ite_true]
  exact Row.get?_foldl_insert_of_mem (fun n => ctx.joinTable ++ "." ++ n)
    (fun n => (j.bind (·.get? n)).getD .null) hn hinj _

/-- The first passes do not write the main table's name of a field the main row lacks. -/
theorem get?_prefilled_qualify_eq_none (hsep : ctx.DistinctTables) {k : String}
    (hk : m.get? k = none) :
    (prefilled ctx sh includeMain m j).get? (ctx.mainTable ++ "." ++ k) = none := by
  have hsplit := Row.splitQualifier_qualify hsep.main_dotless k
  refine get?_prefilled_eq_none ctx sh includeMain m j (fun p hp heq => ?_)
    (fun _ n _ heq => ?_)
  · have hmem : k ∈ m.names :=
      (Row.eq_of_qualify_eq hsep.main_dotless hsplit heq).2 ▸ List.mem_map_of_mem hp
    exact Row.get?_eq_none_iff.mp hk hmem
  · exact hsep.ne.symm (Row.eq_of_qualify_eq hsep.join_dotless hsplit heq).1

end Passes

/-! ## Reading a field back -/

section Resolve

variable {ctx : JoinContext} (sh : List String) (includeMain : Bool) (m : Row)
  (j : Option Row)

/-- No pass writes the main table's name of a field the main row resolves to nothing. -/
theorem get?_resultRow_qualify_eq_none (hsep : ctx.DistinctTables) {k : String}
    (hk : m.get? k = none) (hqk : m.get? (ctx.mainTable ++ "." ++ k) = none) :
    (resultRow ctx sh includeMain m j).get? (ctx.mainTable ++ "." ++ k) = none := by
  have hsplit := Row.splitQualifier_qualify hsep.main_dotless k
  have hpre := get?_prefilled_qualify_eq_none ctx sh includeMain m j hsep hk
  by_cases hmem : ctx.mainTable ++ "." ++ k ∈ ctx.fields
  · have hval : fieldValue ctx sh m j (ctx.mainTable ++ "." ++ k) = none := by
      simp [fieldValue, hsplit, Row.resolve_of_qualified _ hsplit, hk, hqk]
    rw [get?_resultRow_of_mem ctx sh includeMain m j hmem, hval, hpre]
    rfl
  · rw [get?_resultRow_of_not_mem ctx sh includeMain m j hmem, hpre]

/-- A field qualified by the main table reads the main row, as long as the fallback to
its bare name finds nothing when the main row lacks it. -/
theorem resolve_resultRow_of_main (hsep : ctx.DistinctTables) {f b : String}
    (hf : f ∈ ctx.fields) (hq : Row.splitQualifier f = some (ctx.mainTable, b))
    (hbare : m.resolve f (some ctx.mainTable) = none →
      (resultRow ctx sh includeMain m j).get? b = none) :
    (resultRow ctx sh includeMain m j).resolve f (some ctx.mainTable) =
      denote ctx sh m j f := by
  have hvalue : fieldValue ctx sh m j f = m.resolve f (some ctx.mainTable) := by
    simp [fieldValue, hq]
  have hden : denote ctx sh m j f = m.resolve f (some ctx.mainTable) := by
    simp [denote, hq]
  rw [Row.resolve_of_qualified _ hq, if_pos rfl, get?_resultRow_of_mem ctx sh includeMain m j hf,
    hvalue, hden]
  cases hm : m.resolve f (some ctx.mainTable) with
  | some v => rfl
  | none =>
      have hb : m.get? b = none := by
        rw [Row.resolve_of_qualified _ hq, if_pos rfl] at hm
        cases h : m.get? f <;> simp_all
      have hpre : (prefilled ctx sh includeMain m j).get? f = none := by
        rw [(Row.eq_qualify_of_splitQualifier hq).1]
        exact get?_prefilled_qualify_eq_none ctx sh includeMain m j hsep hb
      simp [hpre, hbare hm]

/-- A field qualified by the joined table reads the partner, or the null the wildcard or
a missing partner puts under a column of the joined table. -/
theorem resolve_resultRow_of_joined (hsep : ctx.DistinctTables) {f b : String}
    (hf : f ∈ ctx.fields) (hq : Row.splitQualifier f = some (ctx.joinTable, b)) :
    (resultRow ctx sh includeMain m j).resolve f (some ctx.mainTable) =
      denote ctx sh m j f := by
  have hf_eq : f = ctx.joinTable ++ "." ++ b := (Row.eq_qualify_of_splitQualifier hq).1
  rw [Row.resolve_of_qualified _ hq, if_neg hsep.ne.symm, Option.or_none,
    get?_resultRow_of_mem ctx sh includeMain m j hf]
  by_cases hw : ctx.wildcard = true ∧ b ∈ sh
  · have hpre : (prefilled ctx sh includeMain m j).get? f =
        some ((j.bind (·.get? b)).getD .null) := by
      rw [hf_eq]
      exact get?_prefilled_of_shape ctx sh includeMain m j hsep hw.1 hw.2
    rw [hpre]
    cases j with
    | none => simp [denote, fieldValue, nullIfInShape, hq, hsep.ne.symm, hw.2]
    | some r =>
        cases hr : r.resolve f (some ctx.joinTable) with
        | some v => simp [denote, fieldValue, hq, hsep.ne.symm, hr]
        | none =>
            have hb : r.get? b = none := by
              rw [Row.resolve_of_qualified _ hq, if_pos rfl] at hr
              cases h : r.get? f <;> simp_all
            simp [denote, fieldValue, hq, hsep.ne.symm, hr, hb, hw]
  · have hpre : (prefilled ctx sh includeMain m j).get? f = none := by
      refine get?_prefilled_eq_none ctx sh includeMain m j (fun p _ heq => ?_)
        (fun hw' n hn heq => ?_)
      · exact hsep.ne (Row.eq_of_qualify_eq hsep.main_dotless hq heq).1
      · exact hw ⟨hw', (Row.eq_of_qualify_eq hsep.join_dotless hq heq).2 ▸ hn⟩
    rw [hpre, Option.or_none]
    cases j with
    | none => simp [denote, fieldValue, nullIfInShape, hq, hsep.ne.symm]
    | some r => simp [denote, fieldValue, hq, hsep.ne.symm, hw]

/-- A field under any other qualifier reads nothing. -/
theorem resolve_resultRow_of_other (hsep : ctx.DistinctTables) {f q b : String}
    (hf : f ∈ ctx.fields) (hq : Row.splitQualifier f = some (q, b))
    (hmain : q ≠ ctx.mainTable) (hjoin : q ≠ ctx.joinTable) :
    (resultRow ctx sh includeMain m j).resolve f (some ctx.mainTable) =
      denote ctx sh m j f := by
  have hpre : (prefilled ctx sh includeMain m j).get? f = none := by
    refine get?_prefilled_eq_none ctx sh includeMain m j (fun p _ heq => ?_)
      (fun _ n _ heq => ?_)
    · exact hmain (Row.eq_of_qualify_eq hsep.main_dotless hq heq).1.symm
    · exact hjoin (Row.eq_of_qualify_eq hsep.join_dotless hq heq).1.symm
  rw [Row.resolve_of_qualified _ hq, if_neg hmain, Option.or_none,
    get?_resultRow_of_mem ctx sh includeMain m j hf, hpre]
  simp [denote, fieldValue, hq, hmain, hjoin]

/-- A bare field reads the main row's cell, else the partner's; when neither has it, the
fallback to the qualified name finds nothing either. -/
theorem resolve_resultRow_of_unqualified (hsep : ctx.DistinctTables) {f : String}
    (hf : f ∈ ctx.fields) (hq : Row.splitQualifier f = none) :
    (resultRow ctx sh includeMain m j).resolve f (some ctx.mainTable) =
      denote ctx sh m j f := by
  have hpre : (prefilled ctx sh includeMain m j).get? f = none :=
    get?_prefilled_eq_none ctx sh includeMain m j
      (fun _ _ => Row.qualify_ne_of_unqualified hsep.main_dotless hq)
      (fun _ _ _ => Row.qualify_ne_of_unqualified hsep.join_dotless hq)
  have hvalue : fieldValue ctx sh m j f = denote ctx sh m j f := by
    cases hm : m.resolve f (some ctx.mainTable) <;> cases j <;>
      simp [fieldValue, denote, nullIfInShape, hq, hm]
  rw [Row.resolve_of_unqualified _ hq, get?_resultRow_of_mem ctx sh includeMain m j hf, hpre,
    Option.or_none, hvalue]
  cases hd : denote ctx sh m j f with
  | some v => rfl
  | none =>
      have hm : m.resolve f (some ctx.mainTable) = none := by
        cases h : m.resolve f (some ctx.mainTable) <;> simp_all [denote]
      rw [Row.resolve_of_unqualified _ hq] at hm
      have hmf : m.get? f = none := by cases h : m.get? f <;> simp_all
      have hmtf : m.get? (ctx.mainTable ++ "." ++ f) = none := by simpa [hmf] using hm
      rw [get?_resultRow_qualify_eq_none sh includeMain m j hsep hmf hmtf]
      rfl

end Resolve

end Join

/-- A condition raises `invalidField` exactly when its field does not resolve. -/
theorem Predicate.eval_eq_invalidField_iff (p : Predicate) (row : Row) (table : Option String) :
    p.eval row table = .error (.invalidField p.cond.field) ↔
      row.resolve p.cond.field table = none := by
  unfold Predicate.eval
  cases row.resolve p.cond.field table with
  | none => simp
  | some stored =>
      simp only [reduceCtorEq, iff_false]
      split <;> simp

namespace Join

/-- On a join of two tables with different undotted names, every field resolves to what it
denotes, except a main-qualified field the main row lacks whose bare name is present. -/
theorem resolve_resultRow_eq_denote (ctx : JoinContext) (sh : List String)
    (includeMain : Bool) (m : Row) (j : Option Row) {f : String} (hsep : ctx.DistinctTables)
    (hf : f ∈ ctx.fields)
    (hbare : ∀ b, Row.splitQualifier f = some (ctx.mainTable, b) →
      m.resolve f (some ctx.mainTable) = none →
        (resultRow ctx sh includeMain m j).get? b = none) :
    (resultRow ctx sh includeMain m j).resolve f (some ctx.mainTable) =
        denote ctx sh m j f ∧
      ∀ op v, (Predicate.compile ⟨f, op, v⟩).eval (resultRow ctx sh includeMain m j)
          (some ctx.mainTable) = .error (.invalidField f) ↔
        denote ctx sh m j f = none := by
  have hresolve : (resultRow ctx sh includeMain m j).resolve f (some ctx.mainTable) =
      denote ctx sh m j f := by
    cases hq : Row.splitQualifier f with
    | none => exact resolve_resultRow_of_unqualified sh includeMain m j hsep hf hq
    | some qb =>
        obtain ⟨q, b⟩ := qb
        by_cases hmain : q = ctx.mainTable
        · subst hmain
          exact resolve_resultRow_of_main sh includeMain m j hsep hf hq (hbare b hq)
        · by_cases hjoin : q = ctx.joinTable
          · subst hjoin
            exact resolve_resultRow_of_joined sh includeMain m j hsep hf hq
          · exact resolve_resultRow_of_other sh includeMain m j hsep hf hq hmain hjoin
  refine ⟨hresolve, fun op v => ?_⟩
  rw [← hresolve]
  exact Predicate.eval_eq_invalidField_iff _ _ _

/-- An inner join under the wildcard whose partner lacks a column of the joined table:
the column reads as null. -/
theorem resolve_resultRow_partner_lacks_column :
    let ctx : JoinContext :=
      { mainTable := "users", joinTable := "orders", left := "id", right := "uid",
        fields := ["orders.note"], wildcard := true }
    let o := resultRow ctx ["uid", "note"] false (Row.ofPairs [("id", .text "1")])
      (some (Row.ofPairs [("uid", .text "1")]))
    o.resolve "orders.note" (some "users") =
        denote ctx ["uid", "note"] (Row.ofPairs [("id", .text "1")])
          (some (Row.ofPairs [("uid", .text "1")])) "orders.note" ∧
      ∀ op v, (Predicate.compile ⟨"orders.note", op, v⟩).eval o (some "users") =
          .error (.invalidField "orders.note") ↔
        denote ctx ["uid", "note"] (Row.ofPairs [("id", .text "1")])
          (some (Row.ofPairs [("uid", .text "1")])) "orders.note" = none :=
  resolve_resultRow_eq_denote _ _ _ _ _ ⟨by decide, by decide, by decide⟩ (by simp)
    (fun b hb => by
      have hsplit : Row.splitQualifier "orders.note" = some ("orders", "note") := by decide
      rw [hsplit] at hb
      simp at hb)

/-- The same join: the partner itself does not resolve the column, yet the output row
reads it as null, written there by the wildcard. -/
theorem resolve_resultRow_wildcard_null :
    let ctx : JoinContext :=
      { mainTable := "users", joinTable := "orders", left := "id", right := "uid",
        fields := ["orders.note"], wildcard := true }
    (resultRow ctx ["uid", "note"] false (Row.ofPairs [("id", .text "1")])
        (some (Row.ofPairs [("uid", .text "1")]))).resolve "orders.note" (some "users") =
      some .null ∧
    (Row.ofPairs [("uid", .text "1")]).resolve "orders.note" (some "orders") = none := by
  constructor <;> rfl

end Join

end Tabula
