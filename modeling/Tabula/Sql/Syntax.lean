/-!
# SQL syntax trees

Only the shapes planning inspects are kept as structure; every other expression is kept
as its printed form.
-/

namespace Tabula.Sql

/-- A name part, with the quote it was written in. -/
structure Ident where
  value : String
  quote : Option Char
deriving Inhabited, BEq, Repr

/-- A literal value. -/
inductive Literal where
  | number (text : String) (long : Bool)
  | single (s : String)
  | national (s : String)
  | escaped (s : String)
  | unicode (s : String)
  | hex (s : String)
  | byteSingle (s : String)
  | byteDouble (s : String)
  | rawSingle (s : String)
  | rawDouble (s : String)
  | dollar (s : String)
  | boolean (b : Bool)
  | null
  | placeholder (s : String)
deriving Inhabited, BEq, Repr

/-- A binary operator; the comparisons and connectives by name, others by symbol. -/
inductive BinOp where
  | eq
  | ne
  | lt
  | le
  | gt
  | ge
  | and
  | or
  | other (symbol : String)
deriving Inhabited, BEq, Repr

/-- The pattern-matching operators. -/
inductive MatchKind where
  | like
  | ilike
  | similar
  | regexp
  | rlike
deriving Inhabited, BEq, Repr

/-- An expression. -/
inductive Expr where
  | ident (i : Ident)
  | compound (parts : List Ident)
  | wildcard
  | qualifiedWildcard (parts : List Ident)
  | lit (v : Literal)
  | nested (e : Expr)
  | unary (op : String) (e : Expr)
  | binary (l : Expr) (op : BinOp) (r : Expr)
  | isNull (e : Expr) (negated : Bool)
  | patternMatch (kind : MatchKind) (negated any : Bool) (e pattern : Expr) (escape : Option String)
  /-- A parenthesised query, by the printed form of the query. -/
  | subquery (text : String)
  /-- Any other expression, by its printed form. -/
  | printed (text : String)
deriving Inhabited, BEq, Repr

/-- An item of an ORDER BY. -/
structure OrderItem where
  e : Expr
  asc : Option Bool
  nullsFirst : Option Bool
deriving Inhabited, BEq, Repr

/-- An alias of a table, with optional column names. -/
structure TableAlias where
  name : Ident
  columns : List Ident
deriving Inhabited, BEq, Repr

/-- One source of rows in a FROM clause. -/
inductive TableFactor where
  | table (name : List Ident) (args : Option String) (label : Option TableAlias)
  | derived (lateral : Bool) (query : String) (label : Option TableAlias)
  /-- A parenthesised join, by its printed form. -/
  | nestedJoin (text : String)
  /-- Any other source, such as a table function, by its printed form. -/
  | printed (text : String)
deriving Inhabited, BEq, Repr

/-- The constraint of a join. -/
inductive JoinConstraint where
  | onExpr (e : Expr)
  | usingCols (cols : List String)
  | natural
  | noConstraint
deriving Inhabited, BEq, Repr

/-- How a join joins. -/
inductive JoinOp where
  | inner (c : JoinConstraint)
  | leftOuter (c : JoinConstraint)
  | rightOuter (c : JoinConstraint)
  | fullOuter (c : JoinConstraint)
  | cross
  | semi (c : JoinConstraint)
  | leftSemi (c : JoinConstraint)
  | rightSemi (c : JoinConstraint)
  | anti (c : JoinConstraint)
  | leftAnti (c : JoinConstraint)
  | rightAnti (c : JoinConstraint)
  | crossApply
  | outerApply
deriving Inhabited, BEq, Repr

/-- A joined source. -/
structure Join where
  global : Bool
  relation : TableFactor
  op : JoinOp
deriving Inhabited, BEq, Repr

/-- A source with the joins that follow it. -/
structure TableWithJoins where
  relation : TableFactor
  joins : List Join
deriving Inhabited, BEq, Repr

/-- An item of a select list. -/
inductive SelectItem where
  | unnamed (e : Expr)
  | aliased (e : Expr) (label : Ident)
  | wildcard
  | qualifiedWildcard (parts : List Ident)
deriving Inhabited, BEq, Repr

/-- A GROUP BY clause; `exprs []` stands for none. -/
inductive GroupBy where
  | all (modifiers : List String)
  | exprs (es : List Expr) (modifiers : List String)
deriving Inhabited, BEq, Repr

/-- What DISTINCT a SELECT has. -/
inductive Distinct where
  | plain
  | on (es : List Expr)
deriving Inhabited, BEq, Repr

/-- A SELECT. -/
structure Select where
  distinct : Option Distinct
  top : Option String
  projection : List SelectItem
  from_ : List TableWithJoins
  selection : Option Expr
  groupBy : GroupBy
  having : Option Expr
deriving Inhabited, BEq, Repr

/-- The body of a query. -/
inductive Body where
  | select (s : Select)
  | values (explicitRow : Bool) (rows : List (List Expr))
  /-- Any other body (set operations, parenthesised queries), by its printed form. -/
  | printed (text : String)
deriving Inhabited, BEq, Repr

/-- A query: a body with ordering and a window of rows. -/
structure Query where
  ctes : Option String
  body : Body
  orderBy : Option (List OrderItem)
  limit : Option Expr
  offset : Option (Expr × String)
  limitBy : List Expr
  fetch : Option String
deriving Inhabited, BEq, Repr

/-- A statement. -/
inductive Statement where
  | query (q : Query)
  | insert (table : List Ident) (columns : List Ident) (source : Option Query)
  | delete (from_ : List TableWithJoins) (selection : Option Expr)
  | other (keyword : String)
deriving Inhabited, Repr

end Tabula.Sql
