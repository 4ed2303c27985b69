import Tabula.Query
import Tabula.Coerce
import Tabula.Like

/-!
# Conditions on rows

A condition compares a resolved field with a coerced literal or matches it against a
LIKE pattern; a row without the field raises `invalidField`.
-/

namespace Tabula

/-- A condition ready to be evaluated: its LIKE pattern is read once. -/
structure Predicate where
  cond : Condition
  pattern : Option LikePattern

namespace Predicate

/-- Prepares a condition. -/
def compile (c : Condition) : Predicate :=
  ⟨c, if c.op == .like && !c.value.isNull then some (LikePattern.ofString (unquote c.value.display)) else none⟩

/-- Whether an ordering satisfies a comparison operator. -/
def holdsFor (op : CompareOp) (o : Ordering) : Bool :=
  match op with
  | .eq => o == .eq
  | .ne => o != .eq
  | .gt => o == .gt
  | .lt => o == .lt
  | .ge => o != .lt
  | .le => o != .gt
  | .like => false

/-- Compares two coerced values by an operator. -/
def compareBy (op : CompareOp) (a b : Coerced) : Bool :=
  match a.compareSame b with
  | some o => holdsFor op o
  | none => op == .ne

/-- Compares two coerced values: when either is nothing, `=` holds exactly when both are,
`!=` exactly when not both are, and the rest never hold. -/
def compareCoerced (op : CompareOp) (l r : Coerced) : Bool :=
  if l.isNull || r.isNull then
    let both := l.isNull && r.isNull
    match op with
    | .eq => both
    | .ne => !both
    | _ => false
  else compareBy op l r

/-- Whether a LIKE pattern matches a cell. -/
def likeHolds (pattern : Option LikePattern) (v : Value) : Bool :=
  match pattern, v with
  | none, _ => false
  | _, .null => false
  | some p, .text s => p.accepts s
  | some p, v => p.accepts v.display

/-- Evaluates a prepared condition on a row. -/
def eval (p : Predicate) (row : Row) (table : Option String) : Except Error Bool :=
  match row.resolve p.cond.field table with
  | none => .error (.invalidField p.cond.field)
  | some stored =>
    if p.cond.op == .like then .ok (likeHolds p.pattern stored)
    else .ok (compareCoerced p.cond.op (coerce stored) (coerce p.cond.value))

/-- Evaluates a list of prepared conditions, stopping at the first false one. -/
def evalAll (ps : List Predicate) (row : Row) (table : Option String) : Except Error Bool :=
  match ps with
  | [] => .ok true
  | p :: rest =>
    match p.eval row table with
    | .error e => .error e
    | .ok false => .ok false
    | .ok true => evalAll rest row table

end Predicate

end Tabula
