import Mathlib
import Tabula.Sql.Lower
import Tabula.Predicate

/-!
# WHERE clauses as conditions

Lowering succeeds exactly on the clauses the grammar reads, and the conditions hold
exactly when the clause does (`lowerWhere_reads`).
-/

namespace Tabula

/-! ## Comparing in either order -/

namespace Coerced

open Float.Model in
/-- The IEEE comparison is antisymmetric: NaN compares with nothing, and two finite
numbers of one sign compare by exponent, then mantissa. -/
theorem unpacked_compare_swap (a b : UnpackedFloat) :
    (a.compare b).map Ordering.swap = b.compare a := by
  rcases a with s | _ | s | ⟨s, m, e, h⟩ <;> rcases b with t | _ | t | ⟨t, n, f, k⟩ <;>
    (try cases s) <;> (try cases t) <;>
    simp [UnpackedFloat.compare, Ordering.swap_then, Int.compare_swap, Nat.compare_swap] <;>
    rfl

theorem float_lt_iff (a b : Float) :
    a < b ↔ a.toModel.unpack.compare b.toModel.unpack = some .lt := by
  show Float.lt a b = true ↔ _
  simp [Float.lt, LT.lt, Float.Model.lt, Float.Model.UnpackedFloat.lt]

theorem float_beq_eq (a b : Float) :
    (a == b) = (a.toModel.unpack.compare b.toModel.unpack == some .eq) := by
  show Float.beq a b = _
  simp [Float.beq, BEq.beq, Float.Model.beq, Float.Model.UnpackedFloat.beq]

/-- Comparing doubles is the IEEE comparison of their unpacked forms. -/
theorem compareFloat_eq (a b : Float) :
    compareFloat a b = a.toModel.unpack.compare b.toModel.unpack := by
  have hswap := unpacked_compare_swap a.toModel.unpack b.toModel.unpack
  unfold compareFloat
  simp only [float_lt_iff, float_beq_eq, ← hswap]
  cases a.toModel.unpack.compare b.toModel.unpack with
  | none => simp
  | some o => cases o <;> simp [Ordering.swap]

theorem compareSame_swap (a b : Coerced) :
    (a.compareSame b).map Ordering.swap = b.compareSame a := by
  cases a <;> cases b <;> simp only [compareSame, Option.map_some, Option.map_none]
  case number.number x y => rw [compareFloat_eq, compareFloat_eq, unpacked_compare_swap]
  case text.text s t =>
    have hswap : compare t s = (compare s t).swap := Std.OrientedCmp.eq_swap
    rw [hswap]
  case null.null => rfl

end Coerced

namespace Predicate

theorem holdsFor_flip (op : CompareOp) (o : Ordering) :
    holdsFor op.flip o.swap = holdsFor op o := by
  cases op <;> cases o <;> rfl

theorem compareBy_flip (op : CompareOp) (a b : Coerced) :
    compareBy op.flip b a = compareBy op a b := by
  unfold compareBy
  rw [← Coerced.compareSame_swap]
  cases a.compareSame b with
  | none => cases op <;> rfl
  | some o => exact holdsFor_flip op o

/-- Comparing two coerced values is symmetric: exchanging them flips the operator. -/
theorem compareCoerced_flip (op : CompareOp) (l r : Coerced) :
    compareCoerced op.flip r l = compareCoerced op l r := by
  unfold compareCoerced
  rw [Bool.or_comm, Bool.and_comm, compareBy_flip]
  cases op <;> rfl

end Predicate

namespace Sql

/-! ## The grammar of a WHERE clause -/

/-- A name expression and the field it names: a name, a dotted name, or either in
parentheses. -/
inductive NameRef : Expr → String → Prop
  | ident (i : Ident) : NameRef (.ident i) i.value
  | compound (ps : List Ident) : NameRef (.compound ps) (".".intercalate (ps.map (·.value)))
  | nested {e : Expr} {f : String} : NameRef e f → NameRef (.nested e) f

/-- A column on a side of a comparison: a name, except that a double-quoted name on its
own is a text. -/
inductive ColumnRef : Expr → String → Prop
  | ident (i : Ident) (h : i.quote ≠ some '"') : ColumnRef (.ident i) i.value
  | compound (ps : List Ident) :
      ColumnRef (.compound ps) (".".intercalate (ps.map (·.value)))
  | nested {e : Expr} {f : String} : NameRef e f → ColumnRef (.nested e) f

/-- A literal expression and its value: a literal, a negative number, a literal after a
plus sign, a double-quoted name read as a text, or any of these in parentheses. -/
inductive LiteralOf : Expr → Value → Prop
  | lit (v : Literal) : LiteralOf (.lit v) v.value
  | negative (n : String) (long : Bool) :
      LiteralOf (.unary "-" (.lit (.number n long))) (.text ("-" ++ n))
  | positive {e : Expr} {v : Value} : LiteralOf e v → LiteralOf (.unary "+" e) v
  | quoted (i : Ident) (h : i.quote = some '"') : LiteralOf (.ident i) (.text i.value)
  | nested {e : Expr} {v : Value} : LiteralOf e v → LiteralOf (.nested e) v

/-- A leaf of a WHERE clause. -/
inductive Leaf where
  /-- `column op literal` -/
  | compare (field : String) (op : CompareOp) (value : Value)
  /-- `literal op column` -/
  | compareRev (value : Value) (op : CompareOp) (field : String)
  | like (field : String) (pattern : Value)
  | isNull (field : String) (negated : Bool)

/-- A WHERE clause as leaves under AND. -/
inductive Filter where
  | leaf (l : Leaf)
  | and (a b : Filter)

/-- `Reads e w`: the WHERE expression `e` reads as the filter `w`. The left side of a
comparison is its column whenever it is one. -/
inductive Reads : Expr → Filter → Prop
  | nested {e : Expr} {w : Filter} : Reads e w → Reads (.nested e) w
  | and {l r : Expr} {a b : Filter} : Reads l a → Reads r b → Reads (.binary l .and r) (.and a b)
  | compare {l r : Expr} {op : BinOp} {o : CompareOp} {f : String} {v : Value}
      (hop : compareOpOf op = .ok o) (hl : ColumnRef l f) (hr : LiteralOf r v) :
      Reads (.binary l op r) (.leaf (.compare f o v))
  | compareRev {l r : Expr} {op : BinOp} {o : CompareOp} {f : String} {v : Value}
      (hop : compareOpOf op = .ok o) (hl : ∀ g, ¬ColumnRef l g) (hr : ColumnRef r f)
      (hv : LiteralOf l v) : Reads (.binary l op r) (.leaf (.compareRev v o f))
  | like {k : MatchKind} {any : Bool} {target pattern : Expr} {escape : Option String}
      {f : String} {v : Value} (hk : k = .like ∨ k = .ilike) (ht : NameRef target f)
      (hp : LiteralOf pattern v) :
      Reads (.patternMatch k false any target pattern escape) (.leaf (.like f v))
  | isNull {target : Expr} {negated : Bool} {f : String} (ht : NameRef target f) :
      Reads (.isNull target negated) (.leaf (.isNull f negated))

/-! ## What a WHERE clause means -/

/-- The cell a field resolves to in a row, or the error of a missing field. -/
def cellOf (row : Row) (table : Option String) (f : String) : Except Error Value :=
  match row.resolve f table with
  | some v => .ok v
  | none => .error (.invalidField f)

/-- Whether a leaf holds of a row. A comparison compares its two sides as written, the
literal on the left in `literal op column`. -/
def Leaf.eval (row : Row) (table : Option String) : Leaf → Except Error Bool
  | .compare f op v => (cellOf row table f).map fun x =>
      Predicate.compareCoerced op (coerce x) (coerce v)
  | .compareRev v op f => (cellOf row table f).map fun x =>
      Predicate.compareCoerced op (coerce v) (coerce x)
  | .like f p => (cellOf row table f).map
      (Predicate.likeHolds (Predicate.compile ⟨f, .like, p⟩).pattern)
  | .isNull f negated => (cellOf row table f).map fun x =>
      if negated then !x.isNull else x.isNull

/-- Whether a filter holds of a row, from left to right: AND stops at the first side that
fails or raises. -/
def Filter.eval (row : Row) (table : Option String) : Filter → Except Error Bool
  | .leaf l => l.eval row table
  | .and a b =>
    match a.eval row table with
    | .ok true => b.eval row table
    | r => r

/-- The condition of a leaf, its column first. -/
def Leaf.condition : Leaf → Condition
  | .compare f op v => ⟨f, op, v⟩
  | .compareRev v op f => ⟨f, op.flip, v⟩
  | .like f p => ⟨f, .like, p⟩
  | .isNull f negated => ⟨f, if negated then .ne else .eq, .null⟩

/-- The conditions of a filter's leaves, from left to right. -/
def Filter.conditions : Filter → List Condition
  | .leaf l => [l.condition]
  | .and a b => a.conditions ++ b.conditions

/-! ## Reading names and literals -/

theorem columnName_eq_some_iff {e : Expr} {f : String} : columnName e = some f ↔ NameRef e f := by
  constructor
  · intro h
    induction e generalizing f with
    | ident i =>
        simp only [columnName, Option.some.injEq] at h
        subst h
        exact .ident i
    | compound ps =>
        simp only [columnName, Option.some.injEq] at h
        subst h
        exact .compound ps
    | nested e ih => exact .nested (ih h)
    | _ => simp [columnName] at h
  · intro h
    induction h with
    | ident i => rfl
    | compound ps => rfl
    | nested _ ih => exact ih

theorem fieldOf_eq_some_iff {e : Expr} {f : String} : fieldOf e = some f ↔ ColumnRef e f := by
  constructor
  · intro h
    cases e with
    | ident i =>
        by_cases hq : i.quote = some '"'
        · simp [fieldOf, isQuotedLiteral, hq] at h
        · simp only [fieldOf, isQuotedLiteral, hq, beq_iff_eq, if_false, columnName,
            Option.some.injEq] at h
          subst h
          exact .ident i hq
    | compound ps =>
        simp only [fieldOf, isQuotedLiteral, Bool.false_eq_true, if_false, columnName,
          Option.some.injEq] at h
        subst h
        exact .compound ps
    | nested e =>
        simp only [fieldOf, isQuotedLiteral, Bool.false_eq_true, if_false, columnName] at h
        exact .nested (columnName_eq_some_iff.mp h)
    | _ => simp [fieldOf, isQuotedLiteral, columnName] at h
  · intro h
    cases h with
    | ident i hq => simp [fieldOf, isQuotedLiteral, hq, columnName]
    | compound ps => rfl
    | nested hn => exact columnName_eq_some_iff.mpr (.nested hn)

theorem fieldOf_eq_none_iff {e : Expr} : fieldOf e = none ↔ ∀ f, ¬ColumnRef e f := by
  rw [Option.eq_none_iff_forall_ne_some]
  exact forall_congr' fun f => not_congr fieldOf_eq_some_iff

theorem literalValue_eq_ok_iff {e : Expr} {v : Value} :
    literalValue e = .ok v ↔ LiteralOf e v := by
  constructor
  · intro h
    induction e generalizing v with
    | lit l =>
        simp only [literalValue, Except.ok.injEq] at h
        subst h
        exact .lit l
    | unary op inner ih =>
        unfold literalValue at h
        by_cases hminus : op = "-"
        · subst hminus
          simp only [beq_self_eq_true, if_true] at h
          split at h
          · simp only [Except.ok.injEq] at h
            subst h
            exact .negative _ _
          · cases h
        · by_cases hplus : op = "+"
          · subst hplus
            simp only [show ("+" == "-") = false from rfl, Bool.false_eq_true, if_false,
              beq_self_eq_true, if_true] at h
            exact .positive (ih h)
          · simp [hminus, hplus] at h
    | ident i =>
        by_cases hq : i.quote = some '"'
        · simp only [literalValue, hq, beq_self_eq_true, if_true, Except.ok.injEq] at h
          subst h
          exact .quoted i hq
        · simp [literalValue, hq] at h
    | nested e ih => exact .nested (ih h)
    | _ => simp [literalValue] at h
  · intro h
    induction h with
    | lit l => rfl
    | negative n long => rfl
    | positive _ ih => simpa [literalValue] using ih
    | quoted i hq => simp [literalValue, hq]
    | nested _ ih => exact ih

theorem compareOpOf_ne_like {op : BinOp} {o : CompareOp} (h : compareOpOf op = .ok o) :
    o ≠ .like := by
  cases op <;> simp only [compareOpOf, reduceCtorEq, Except.ok.injEq] at h <;> subst h <;>
    decide

/-! ## Lowering reads the grammar -/

/-- A comparison lowers to one condition: its left side as the column when it is one,
else its right side with the operator flipped. -/
theorem lowerWhere_compare_eq_ok {l r : Expr} {op : BinOp} {o : CompareOp}
    (hop : compareOpOf op = .ok o) {cs : List Condition} :
    lowerWhere (.binary l op r) = .ok cs ↔
      (∃ f v, fieldOf l = some f ∧ literalValue r = .ok v ∧ cs = [⟨f, o, v⟩]) ∨
        (∃ f v, fieldOf l = none ∧ fieldOf r = some f ∧ literalValue l = .ok v ∧
          cs = [⟨f, o.flip, v⟩]) := by
  cases op <;> simp only [compareOpOf, reduceCtorEq, Except.ok.injEq] at hop <;> subst hop
  all_goals
    simp only [lowerWhere, compareOpOf, bind, Except.bind]
    cases hl : fieldOf l with
    | some f => cases literalValue r <;> simp [pure, Except.pure, eq_comm]
    | none =>
        cases hr : fieldOf r with
        | some f => cases literalValue l <;> simp [pure, Except.pure, eq_comm]
        | none => simp

/-- A pattern match lowers to one LIKE condition when it is a LIKE or ILIKE, not negated,
of a name against a literal. -/
theorem lowerWhere_patternMatch_eq_ok {k : MatchKind} {negated any : Bool}
    {target pattern : Expr} {escape : Option String} {cs : List Condition} :
    lowerWhere (.patternMatch k negated any target pattern escape) = .ok cs ↔
      (k = .like ∨ k = .ilike) ∧ negated = false ∧
        ∃ f v, columnName target = some f ∧ literalValue pattern = .ok v ∧
          cs = [⟨f, .like, v⟩] := by
  by_cases hkind : (k == .like || k == .ilike) = true
  · have hk : k = .like ∨ k = .ilike := by
      cases k <;> first | exact .inl rfl | exact .inr rfl | exact absurd hkind (by decide)
    cases negated with
    | true => simp [lowerWhere, hkind]
    | false =>
        cases hc : columnName target with
        | none => simp [lowerWhere, hkind, hc]
        | some f =>
            cases hv : literalValue pattern with
            | error err => simp [lowerWhere, hkind, hc, hv, bind, Except.bind]
            | ok v =>
                simp [lowerWhere, hkind, hc, hv, hk, bind, Except.bind, pure, Except.pure,
                  eq_comm]
  · have hk : ¬(k = .like ∨ k = .ilike) := by
      rintro (rfl | rfl) <;> exact hkind rfl
    simp [lowerWhere, hkind, hk]

theorem lowerWhere_of_reads {e : Expr} {w : Filter} (h : Reads e w) :
    lowerWhere e = .ok w.conditions := by
  induction h with
  | nested _ ih => simpa [lowerWhere] using ih
  | and _ _ iha ihb =>
      simp [lowerWhere, iha, ihb, Filter.conditions, bind, Except.bind, pure, Except.pure]
  | compare hop hl hr =>
      exact (lowerWhere_compare_eq_ok hop).mpr
        (.inl ⟨_, _, fieldOf_eq_some_iff.mpr hl, literalValue_eq_ok_iff.mpr hr, rfl⟩)
  | compareRev hop hl hr hv =>
      exact (lowerWhere_compare_eq_ok hop).mpr
        (.inr ⟨_, _, fieldOf_eq_none_iff.mpr hl, fieldOf_eq_some_iff.mpr hr,
          literalValue_eq_ok_iff.mpr hv, rfl⟩)
  | like hk ht hp =>
      exact lowerWhere_patternMatch_eq_ok.mpr ⟨hk, rfl, _, _, columnName_eq_some_iff.mpr ht,
        literalValue_eq_ok_iff.mpr hp, rfl⟩
  | isNull ht =>
      simp [lowerWhere, columnName_eq_some_iff.mpr ht, Filter.conditions, Leaf.condition]

theorem reads_of_lowerWhere {e : Expr} {cs : List Condition} (h : lowerWhere e = .ok cs) :
    ∃ w, Reads e w ∧ cs = w.conditions := by
  induction e generalizing cs with
  | nested e ih =>
      obtain ⟨w, hw, rfl⟩ := ih (by simpa [lowerWhere] using h)
      exact ⟨w, .nested hw, rfl⟩
  | binary l op r ihl ihr =>
      cases op with
      | and =>
          cases hl : lowerWhere l with
          | error err => simp [lowerWhere, hl, bind, Except.bind] at h
          | ok a =>
              cases hr : lowerWhere r with
              | error err => simp [lowerWhere, hl, hr, bind, Except.bind] at h
              | ok b =>
                  simp only [lowerWhere, hl, hr, bind, Except.bind, pure, Except.pure,
                    Except.ok.injEq] at h
                  obtain ⟨wa, hwa, rfl⟩ := ihl hl
                  obtain ⟨wb, hwb, rfl⟩ := ihr hr
                  exact ⟨.and wa wb, .and hwa hwb, h.symm⟩
      | or => simp [lowerWhere] at h
      | other symbol => simp [lowerWhere, compareOpOf, bind, Except.bind] at h
      | _ =>
          rcases (lowerWhere_compare_eq_ok rfl).mp h with ⟨f, v, hl, hv, rfl⟩ |
            ⟨f, v, hl, hr, hv, rfl⟩
          · exact ⟨_, .compare rfl (fieldOf_eq_some_iff.mp hl) (literalValue_eq_ok_iff.mp hv), rfl⟩
          · exact ⟨_, .compareRev rfl (fieldOf_eq_none_iff.mp hl) (fieldOf_eq_some_iff.mp hr)
              (literalValue_eq_ok_iff.mp hv), rfl⟩
  | patternMatch k negated any target pattern escape =>
      obtain ⟨hk, rfl, f, v, hc, hv, rfl⟩ := lowerWhere_patternMatch_eq_ok.mp h
      exact ⟨.leaf (.like f v), .like hk (columnName_eq_some_iff.mp hc)
        (literalValue_eq_ok_iff.mp hv), rfl⟩
  | isNull target negated =>
      cases hc : columnName target with
      | none => simp [lowerWhere, hc] at h
      | some f =>
          simp only [lowerWhere, hc, Except.ok.injEq] at h
          exact ⟨.leaf (.isNull f negated), .isNull (columnName_eq_some_iff.mp hc),
            by simp [h, Filter.conditions, Leaf.condition]⟩
  | _ => simp [lowerWhere] at h

/-! ## The conditions mean the clause -/

theorem coerce_isNull (x : Value) : (coerce x).isNull = x.isNull := by
  cases x with
  | null => rfl
  | number n => rfl
  | text s =>
      show (coerceText s).isNull = false
      unfold coerceText
      dsimp only
      cases parseNumber? (unquote s) <;> rfl

/-- A condition that is not a LIKE compares the coerced cell with the coerced value. -/
theorem eval_compile_of_ne_like {c : Condition} (hop : c.op ≠ .like) (row : Row)
    (table : Option String) :
    (Predicate.compile c).eval row table =
      (cellOf row table c.field).map fun x =>
        Predicate.compareCoerced c.op (coerce x) (coerce c.value) := by
  simp only [Predicate.eval, Predicate.compile, cellOf]
  cases row.resolve c.field table <;> simp [hop, Except.map]

theorem eval_compile_like (f : String) (p : Value) (row : Row) (table : Option String) :
    (Predicate.compile ⟨f, .like, p⟩).eval row table =
      (cellOf row table f).map (Predicate.likeHolds (Predicate.compile ⟨f, .like, p⟩).pattern) := by
  simp only [Predicate.eval, Predicate.compile, cellOf]
  cases row.resolve f table <;> simp [Except.map]

/-- The conditions of a leaf hold when its one condition does. -/
theorem evalAll_leaf (l : Leaf) (row : Row) (table : Option String) :
    Predicate.evalAll ((Filter.leaf l).conditions.map Predicate.compile) row table =
      (Predicate.compile l.condition).eval row table := by
  show Predicate.evalAll [Predicate.compile l.condition] row table = _
  unfold Predicate.evalAll
  cases (Predicate.compile l.condition).eval row table with
  | error e => rfl
  | ok b => cases b <;> rfl

/-- The conditions of two lists hold from left to right: the second list is evaluated
only when the first holds. -/
theorem evalAll_append (ps qs : List Predicate) (row : Row) (table : Option String) :
    Predicate.evalAll (ps ++ qs) row table =
      match Predicate.evalAll ps row table with
      | .ok true => Predicate.evalAll qs row table
      | r => r := by
  induction ps with
  | nil => rfl
  | cons p ps ih =>
      simp only [List.cons_append, Predicate.evalAll]
      cases p.eval row table with
      | error e => rfl
      | ok b => cases b <;> simp [ih]

/-- On every row the conditions of a clause the grammar reads hold exactly when the
clause does. -/
theorem evalAll_conditions {e : Expr} {w : Filter} (h : Reads e w) (row : Row)
    (table : Option String) :
    Predicate.evalAll (w.conditions.map Predicate.compile) row table = w.eval row table := by
  induction h with
  | nested _ ih => exact ih
  | and _ _ iha ihb =>
      rw [Filter.conditions, List.map_append, evalAll_append, iha, ihb]
      rfl
  | compare hop _ _ =>
      rw [evalAll_leaf, Leaf.condition, eval_compile_of_ne_like (compareOpOf_ne_like hop)]
      rfl
  | @compareRev _ _ _ o _ _ hop _ _ _ =>
      have hflip : o.flip ≠ .like := by
        have hne := compareOpOf_ne_like hop
        cases o <;> simp [CompareOp.flip] at hne ⊢
      rw [evalAll_leaf, Leaf.condition, eval_compile_of_ne_like hflip]
      simp [Filter.eval, Leaf.eval, Predicate.compareCoerced_flip]
  | like _ _ _ =>
      rw [evalAll_leaf, Leaf.condition, eval_compile_like]
      rfl
  | @isNull _ negated _ _ =>
      have hop : (if negated then CompareOp.ne else .eq) ≠ .like := by cases negated <;> simp
      rw [evalAll_leaf, Leaf.condition, eval_compile_of_ne_like hop]
      cases negated <;>
        simp [Filter.eval, Leaf.eval, Predicate.compareCoerced, coerce_isNull, Value.isNull]

/-- Lowering a WHERE expression succeeds exactly on the clauses the grammar reads, with one
condition per leaf that hold exactly when the clause does. -/
theorem lowerWhere_reads (e : Expr) :
    ((∃ cs, lowerWhere e = .ok cs) ↔ ∃ w, Reads e w) ∧
      ∀ cs, lowerWhere e = .ok cs → ∃ w, Reads e w ∧ cs = w.conditions ∧
        ∀ row table, Predicate.evalAll (cs.map Predicate.compile) row table = w.eval row table := by
  refine ⟨⟨fun ⟨cs, h⟩ => ?_, fun ⟨w, hw⟩ => ⟨_, lowerWhere_of_reads hw⟩⟩, fun cs h => ?_⟩
  · obtain ⟨w, hw, -⟩ := reads_of_lowerWhere h
    exact ⟨w, hw⟩
  · obtain ⟨w, hw, rfl⟩ := reads_of_lowerWhere h
    exact ⟨w, hw, rfl, evalAll_conditions hw⟩

/-- A double-quoted name is a text on a side of a comparison, yet IS NULL of it reads it
as a column. -/
theorem lowerWhere_isNull_quoted :
    isQuotedLiteral (.ident ⟨"x", some '"'⟩) = true ∧
      lowerWhere (.isNull (.ident ⟨"x", some '"'⟩) false) = .ok [⟨"x", .eq, .null⟩] := by
  constructor <;> rfl

end Sql

end Tabula
