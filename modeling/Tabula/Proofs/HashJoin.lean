import Mathlib.Data.List.Induction
import Tabula.Relation.Join

/-!
# The hash join is the nested-loop join

Main statement, `joinRows_eq_nestedLoop`.
-/

namespace Tabula

/-! ### Cells as keys -/

namespace Value

theorem same_refl (a : Value) : same a a := by
  cases a <;> simp [same]

theorem same_symm {a b : Value} (h : same a b) : same b a := by
  cases a <;> cases b <;> simp only [same, Bool.false_eq_true] at h ⊢
  all_goals exact BEq.symm h

theorem same_trans {a b c : Value} (hab : same a b) (hbc : same b c) : same a c := by
  cases a <;> cases b <;> cases c <;> simp only [same, Bool.false_eq_true] at hab hbc ⊢
  all_goals exact BEq.trans hab hbc

instance equivBEq : EquivBEq Value where
  rfl := same_refl _
  symm := same_symm
  trans := same_trans

instance lawfulHashable : LawfulHashable Value where
  hash_eq {a b} h := by
    change same a b at h
    cases a <;> cases b <;> simp_all [same, hash]

end Value

namespace Join

/-! ### The nested-loop join -/

/-- Two join keys match when neither is null and they are equal as cells. -/
def keysMatch (a b : Value) : Bool :=
  !a.isNull && !b.isNull && a == b

theorem keysMatch_comm (a b : Value) : keysMatch a b = keysMatch b a := by
  unfold keysMatch
  rw [BEq.comm (a := a)]
  cases a.isNull <;> cases b.isNull <;> rfl

/-- A main row and a joined row pair up when their keys match. A row without its key field
has the null key, which matches nothing. -/
def pairs (ctx : JoinContext) (m j : Row) : Bool :=
  keysMatch (m.resolveOrNull ctx.left (some ctx.mainTable))
    (j.resolveOrNull ctx.right (some ctx.joinTable))

/-- Fails with `invalidField` on the key field unless every row has it. -/
def requireKeys (rows : List Row) (name table : String) : Except Error Unit :=
  if rows.all fun r => (r.resolve name (some table)).isSome then .ok ()
  else .error (.invalidField name)

/-- The nested-loop join: each main row against every joined row, or for RIGHT each joined
row against every main row, after the keys of both sides are checked. -/
def nestedLoop (kind : JoinKind) (ctx : JoinContext) (main joined : List Row) :
    Except Error (List Row) :=
  let sh := shape joined
  match kind with
  | .inner => do
    requireKeys joined ctx.right ctx.joinTable
    requireKeys main ctx.left ctx.mainTable
    pure (main.flatMap fun m =>
      (joined.filter (pairs ctx m)).map fun j => resultRow ctx sh false m (some j))
  | .left => do
    requireKeys joined ctx.right ctx.joinTable
    requireKeys main ctx.left ctx.mainTable
    pure (main.flatMap fun m =>
      let js := joined.filter (pairs ctx m)
      if js.isEmpty then [resultRow ctx sh true m none]
      else js.map fun j => resultRow ctx sh true m (some j))
  | .right => do
    requireKeys main ctx.left ctx.mainTable
    requireKeys joined ctx.right ctx.joinTable
    pure (joined.flatMap fun j =>
      let ms := main.filter (pairs ctx · j)
      if ms.isEmpty then [resultRow ctx sh true (nullMain main) (some j)]
      else ms.map fun m => resultRow ctx sh true m (some j))

/-! ### The index -/

/-- Adding one keyed row to the index. -/
theorem index_append_singleton (ps : List (Value × Row)) (p : Value × Row) :
    index (ps ++ [p]) =
      if p.1.isNull then index ps
      else (index ps).insert p.1 ((index ps).getD p.1 [] ++ [p.2]) := by
  simp only [index, List.foldl_append, List.foldl_cons, List.foldl_nil]

/-- The index holds under a key the rows whose key is non-null and equal to it, in order. -/
theorem getD_index (ps : List (Value × Row)) (k : Value) :
    (index ps).getD k [] = (ps.filter fun p => !p.1.isNull && p.1 == k).map (·.2) := by
  induction ps using List.reverseRecOn with
  | nil => simp [index]
  | append_singleton ps p ih =>
    rw [index_append_singleton, List.filter_append, List.map_append, ← ih]
    by_cases hnull : p.1.isNull
    · simp [hnull]
    · rw [if_neg hnull, Std.HashMap.getD_insert]
      by_cases hk : p.1 == k
      · simp [hnull, hk, Std.HashMap.getD_congr hk]
      · simp [hnull, hk]

/-- Probing the index of rows keyed by `key` gives the rows whose key matches, in order. -/
theorem probe_index (rows : List Row) (key : Row → Value) (k : Value) :
    probe (index (rows.map fun r => (key r, r))) k =
      rows.filter fun r => keysMatch (key r) k := by
  unfold probe
  by_cases hk : k.isNull
  · simp [keysMatch, hk]
  · simp [getD_index, List.filter_map, Function.comp_def, keysMatch, hk]

/-- Probing the index of the joined rows with a main row's key gives the row's partners. -/
theorem probe_index_joined (ctx : JoinContext) (m : Row) (joined : List Row) :
    probe (index (joined.map fun j => (j.resolveOrNull ctx.right (some ctx.joinTable), j)))
      (m.resolveOrNull ctx.left (some ctx.mainTable)) = joined.filter (pairs ctx m) := by
  rw [probe_index]
  congr
  funext j
  exact keysMatch_comm _ _

/-- Probing the index of the main rows with a joined row's key gives the row's partners. -/
theorem probe_index_main (ctx : JoinContext) (main : List Row) (j : Row) :
    probe (index (main.map fun m => (m.resolveOrNull ctx.left (some ctx.mainTable), m)))
      (j.resolveOrNull ctx.right (some ctx.joinTable)) = main.filter (pairs ctx · j) :=
  probe_index main _ _

/-! ### Key checks -/

/-- Looking up every row's key and going on with it fails at the first row without its key
field, and otherwise goes on with each row's key. -/
theorem mapM_requireField {β : Type} (rows : List Row) (name table : String)
    (f : Row → Value → β) :
    rows.mapM (fun r => requireField r name table >>= fun k => pure (f r k)) =
      requireKeys rows name table >>= fun _ =>
        pure (rows.map fun r => f r (r.resolveOrNull name (some table))) := by
  induction rows with
  | nil => rfl
  | cons r rows ih =>
    rw [List.mapM_cons, ih]
    unfold requireField requireKeys
    simp only [List.all_cons, List.map_cons, Row.resolveOrNull]
    split
    · rename_i v h
      simp only [h, Option.isSome_some, Bool.true_and, Option.getD_some]
      split <;> rfl
    · rename_i h
      simp only [h, Option.isSome_none, Bool.false_and]
      rfl

theorem keyed_eq (rows : List Row) (name table : String) :
    keyed rows name table =
      requireKeys rows name table >>= fun _ =>
        pure (rows.map fun r => (r.resolveOrNull name (some table), r)) := by
  rw [← mapM_requireField rows name table fun r k => (k, r)]
  rfl

end Join

/-! ### The join -/

/-- The hash join computes the nested-loop join, failures included. -/
theorem joinRows_eq_nestedLoop (kind : JoinKind) (ctx : JoinContext) (main joined : List Row) :
    joinRows kind ctx main joined = Join.nestedLoop kind ctx main joined := by
  cases kind <;>
    simp only [joinRows, Join.inner, Join.left, Join.right, Join.nestedLoop, Join.keyed_eq,
      Join.mapM_requireField, map_bind, map_pure, bind_assoc, pure_bind,
      Join.probe_index_joined, Join.probe_index_main, List.flatMap_def]

end Tabula
