import Tabula.Predicate

/-!
# LIKE patterns match as SQL says

Main statement, `like_holds_iff_matches`.
-/

namespace Tabula

/-- SQL LIKE on the characters of a pattern and of a text. -/
inductive LikeMatches : List Char → List Char → Prop
  | nil : LikeMatches [] []
  | percent {p t : List Char} (s : List Char) : LikeMatches p t → LikeMatches ('%' :: p) (s ++ t)
  | underscore {p t : List Char} (c : Char) : LikeMatches p t → LikeMatches ('_' :: p) (c :: t)
  | literal {a c : Char} {p t : List Char} (hp : a ≠ '%') (hu : a ≠ '_')
      (hf : Text.fold a = Text.fold c) : LikeMatches p t → LikeMatches (a :: p) (c :: t)

namespace LikeMatches

variable {a : Char} {p t : List Char}

theorem nil_iff : LikeMatches [] t ↔ t = [] := by
  constructor
  · rintro ⟨⟩
    rfl
  · rintro rfl
    exact .nil

theorem percent_iff : LikeMatches ('%' :: p) t ↔ ∃ s u, t = s ++ u ∧ LikeMatches p u := by
  constructor
  · intro h
    cases h with
    | percent s h => exact ⟨s, _, rfl, h⟩
    | literal hp => exact absurd rfl hp
  · rintro ⟨s, u, rfl, h⟩
    exact .percent s h

theorem underscore_iff : LikeMatches ('_' :: p) t ↔ ∃ c u, t = c :: u ∧ LikeMatches p u := by
  constructor
  · intro h
    cases h with
    | underscore c h => exact ⟨c, _, rfl, h⟩
    | literal _ hu => exact absurd rfl hu
  · rintro ⟨c, u, rfl, h⟩
    exact .underscore c h

theorem literal_iff (hp : a ≠ '%') (hu : a ≠ '_') :
    LikeMatches (a :: p) t ↔ ∃ c u, t = c :: u ∧ Text.fold a = Text.fold c ∧ LikeMatches p u := by
  constructor
  · intro h
    cases h with
    | percent => exact absurd rfl hp
    | underscore => exact absurd rfl hu
    | literal _ _ hf h => exact ⟨_, _, rfl, hf, h⟩
  · rintro ⟨c, u, rfl, hf, h⟩
    exact .literal hp hu hf h

end LikeMatches

theorem Text.sameFold_iff (a c : Char) : Text.sameFold a c = true ↔ Text.fold a = Text.fold c := by
  unfold Text.sameFold
  constructor
  · intro h
    rcases Bool.or_eq_true_iff.mp h with h | h
    · rw [beq_iff_eq.mp h]
    · exact beq_iff_eq.mp h
  · intro h
    simp [h]

namespace LikePattern

/-! ## The rule by recursion -/

/-- The element of a pattern that a character of its text stands for. -/
def tokenOf (c : Char) : LikeToken :=
  if c == '%' then .anyRun else if c == '_' then .anyOne else .lit c

theorem ofString_eq (s : String) : ofString s = s.toList.map tokenOf := rfl

theorem acceptsChars_anyRun_iff (ps : LikePattern) (t : List Char) :
    acceptsChars (.anyRun :: ps) t = true ↔ ∃ s u, t = s ++ u ∧ acceptsChars ps u = true := by
  induction t with
  | nil =>
    rw [acceptsChars]
    constructor
    · intro h
      exact ⟨[], [], rfl, h⟩
    · rintro ⟨s, u, hsu, h⟩
      obtain ⟨rfl, rfl⟩ := List.append_eq_nil_iff.mp hsu.symm
      exact h
  | cons c t ih =>
    rw [acceptsChars, Bool.or_eq_true, ih]
    constructor
    · rintro (h | ⟨s, u, rfl, h⟩)
      · exact ⟨[], c :: t, rfl, h⟩
      · exact ⟨c :: s, u, rfl, h⟩
    · rintro ⟨s, u, hsu, h⟩
      cases s with
      | nil => exact .inl (by simpa [hsu] using h)
      | cons d s =>
        obtain ⟨rfl, rfl⟩ := List.cons_eq_cons.mp hsu
        exact .inr ⟨s, u, rfl, h⟩

theorem acceptsChars_anyRun_of {ps : LikePattern} {t : List Char} (h : acceptsChars ps t = true) :
    acceptsChars (.anyRun :: ps) t = true :=
  (acceptsChars_anyRun_iff ps t).mpr ⟨[], t, rfl, h⟩

/-- The recursive matcher decides SQL LIKE. -/
theorem acceptsChars_iff (p t : List Char) :
    acceptsChars (p.map tokenOf) t = true ↔ LikeMatches p t := by
  induction p generalizing t with
  | nil => simp [acceptsChars, LikeMatches.nil_iff]
  | cons a p ih =>
    by_cases hp : a = '%'
    · subst hp
      simp [tokenOf, acceptsChars_anyRun_iff, ih, LikeMatches.percent_iff]
    by_cases hu : a = '_'
    · subst hu
      cases t <;> simp [tokenOf, acceptsChars, ih, LikeMatches.underscore_iff, and_assoc]
    have hlit : tokenOf a = .lit a := by simp [tokenOf, hp, hu]
    cases t <;>
      simp [hlit, acceptsChars, ih, LikeMatches.literal_iff hp hu, Text.sameFold_iff, and_assoc]

instance decidableLikeMatches : DecidableRel LikeMatches := fun p t =>
  decidable_of_iff _ (acceptsChars_iff p t)

/-! ## Sets of positions -/

variable (p : LikePattern)

/-- Some position of a set from which the rest of the pattern matches the text. -/
def Reaches (set : List Nat) (t : List Char) : Prop :=
  ∃ i ∈ set, acceptsChars (p.drop i) t = true

/-- A set of positions within the pattern that holds the position after each `%` it holds. -/
structure Closed (set : List Nat) : Prop where
  bounded : ∀ i ∈ set, i ≤ p.length
  skip : ∀ i ∈ set, p[i]? = some .anyRun → i + 1 ∈ set

/-- The moves of one position on reading a character: a `%` stays where it is, while `_`
and a literal of the same folding move on by one. -/
def Next (c : Char) (i j : Nat) : Prop :=
  (p[i]? = some .anyRun ∧ j = i) ∨ (p[i]? = some .anyOne ∧ j = i + 1) ∨
    ∃ a, p[i]? = some (.lit a) ∧ Text.sameFold a c = true ∧ j = i + 1

variable {p}

theorem drop_eq_cons_of_getElem? {i : Nat} {x : LikeToken} (h : p[i]? = some x) :
    p.drop i = x :: p.drop (i + 1) := by
  obtain ⟨hi, hx⟩ := List.getElem?_eq_some_iff.mp h
  rw [List.drop_eq_getElem_cons hi, hx]

theorem getElem?_of_drop_eq_cons {i : Nat} {x : LikeToken} {rest : LikePattern}
    (h : p.drop i = x :: rest) : p[i]? = some x ∧ rest = p.drop (i + 1) := by
  constructor
  · rw [← List.head?_drop, h]
    rfl
  · rw [← List.tail_drop, h]
    rfl

/-! ## Closing a set under `%` -/

section Close

variable {t : List Char}

/-- The positions `close` adds in one round: those after a `%` at a position of `todo`. -/
theorem mem_close_next {todo acc : List Nat} {j : Nat} :
    j ∈ todo.filterMap (fun (i : Nat) =>
        match p.toArray[i]? with
        | some .anyRun => if acc.contains (i + 1) then none else some (i + 1)
        | _ => none) ↔
      ∃ i ∈ todo, p[i]? = some .anyRun ∧ j = i + 1 ∧ j ∉ acc := by
  rw [List.mem_filterMap]
  constructor
  · rintro ⟨i, hi, h⟩
    simp only [List.getElem?_toArray] at h
    split at h
    · next hx =>
      split at h
      · cases h
      · next hc =>
        cases h
        exact ⟨i, hi, hx, rfl, by simpa using hc⟩
    · cases h
  · rintro ⟨i, hi, hx, rfl, hj⟩
    refine ⟨i, hi, ?_⟩
    simp [hx, hj]

/-- Adding the positions after a `%` changes no set of rests that match. -/
theorem reaches_close_go {todo acc : List Nat} (fuel : Nat) (hsub : ∀ i ∈ todo, i ∈ acc) :
    Reaches p (close.go p.toArray todo fuel acc) t ↔ Reaches p acc t := by
  induction fuel generalizing todo acc with
  | zero => rfl
  | succ fuel ih =>
    simp only [close.go]
    split
    · rfl
    · rw [ih (fun i hi => List.mem_append_right _ hi)]
      constructor
      · rintro ⟨j, hj, hm⟩
        rcases List.mem_append.mp hj with hj | hj
        · exact ⟨j, hj, hm⟩
        · obtain ⟨i, hi, hx, rfl, -⟩ := mem_close_next.mp hj
          refine ⟨i, hsub i hi, ?_⟩
          rw [drop_eq_cons_of_getElem? hx]
          exact acceptsChars_anyRun_of hm
      · rintro ⟨j, hj, hm⟩
        exact ⟨j, List.mem_append_left _ hj, hm⟩

theorem bounded_close_go {todo acc : List Nat} (fuel : Nat) (h : ∀ i ∈ acc, i ≤ p.length) :
    ∀ i ∈ close.go p.toArray todo fuel acc, i ≤ p.length := by
  induction fuel generalizing todo acc with
  | zero => exact h
  | succ fuel ih =>
    simp only [close.go]
    split
    · exact h
    · refine ih fun j hj => ?_
      rcases List.mem_append.mp hj with hj | hj
      · exact h j hj
      · obtain ⟨i, -, hx, rfl, -⟩ := mem_close_next.mp hj
        have := (List.getElem?_eq_some_iff.mp hx).1
        omega

/-- The worklist invariant of `close`: every `%` of the set is followed in it, or waits in
`todo`; and the positions waiting are at least as far on as the rounds already run. -/
theorem skip_close_go {todo acc : List Nat} (fuel : Nat) (hsub : ∀ i ∈ todo, i ∈ acc)
    (hwait : ∀ i ∈ acc, p[i]? = some .anyRun → i + 1 ∈ acc ∨ i ∈ todo)
    (hfar : ∀ i ∈ todo, p.length ≤ fuel + i) :
    ∀ i ∈ close.go p.toArray todo fuel acc, p[i]? = some .anyRun →
      i + 1 ∈ close.go p.toArray todo fuel acc := by
  induction fuel generalizing todo acc with
  | zero =>
    intro i hi hx
    rcases hwait i hi hx with h | h
    · exact h
    · have hlt := (List.getElem?_eq_some_iff.mp hx).1
      have := hfar i h
      omega
  | succ fuel ih =>
    simp only [close.go]
    split
    · next hnil =>
      intro i hi hx
      rcases hwait i hi hx with h | h
      · exact h
      · by_cases hin : i + 1 ∈ acc
        · exact hin
        · have hmem := mem_close_next.mpr ⟨i, h, hx, rfl, hin⟩
          exact absurd (List.isEmpty_iff.mp hnil) (List.ne_nil_of_mem hmem)
    · refine ih (fun i hi => List.mem_append_right _ hi) ?_ ?_
      · intro i hi hx
        rcases List.mem_append.mp hi with hi | hi
        · rcases hwait i hi hx with h | h
          · exact .inl (List.mem_append_left _ h)
          · by_cases hin : i + 1 ∈ acc
            · exact .inl (List.mem_append_left _ hin)
            · exact .inl (List.mem_append_right _ (mem_close_next.mpr ⟨i, h, hx, rfl, hin⟩))
        · exact .inr hi
      · intro j hj
        obtain ⟨i, hi, -, rfl, -⟩ := mem_close_next.mp hj
        have := hfar i hi
        omega

theorem reaches_close (set : List Nat) : Reaches p (close p.toArray set) t ↔ Reaches p set t :=
  reaches_close_go _ fun _ h => h

theorem closed_close {set : List Nat} (h : ∀ i ∈ set, i ≤ p.length) :
    Closed p (close p.toArray set) where
  bounded := bounded_close_go _ h
  skip := skip_close_go _ (fun _ h => h) (fun i hi _ => .inr hi)
    (fun i hi => by simp)

end Close

/-! ## Reading one character -/

/-- Membership in a fold that adds, for each element, the moves that `move` allows. -/
theorem mem_foldl_moves {f : List Nat → Nat → List Nat} {move : Nat → Nat → Prop}
    (hf : ∀ acc i j, j ∈ f acc i ↔ j ∈ acc ∨ move i j) :
    ∀ (set acc : List Nat) (j : Nat), j ∈ set.foldl f acc ↔ j ∈ acc ∨ ∃ i ∈ set, move i j
  | [], acc, j => by simp
  | i :: set, acc, j => by
    rw [List.foldl_cons, mem_foldl_moves hf set, hf]
    simp only [List.mem_cons, exists_eq_or_imp, or_assoc]

/-- The rests from a closed set match `c :: t` exactly when, after one move on `c`, they
match `t`. -/
theorem reaches_cons_iff {set : List Nat} (hc : Closed p set) (c : Char) (t : List Char) :
    Reaches p set (c :: t) ↔ ∃ i ∈ set, ∃ j, Next p c i j ∧ acceptsChars (p.drop j) t = true := by
  constructor
  · rintro ⟨i, hi, hm⟩
    induction hk : p.length - i generalizing i with
    | zero =>
      have hnil : p.drop i = [] := List.drop_eq_nil_of_le (by omega)
      rw [hnil] at hm
      simp [acceptsChars] at hm
    | succ k ih =>
      cases hd : p.drop i with
      | nil => rw [hd] at hm; simp [acceptsChars] at hm
      | cons x rest =>
        obtain ⟨hx, rfl⟩ := getElem?_of_drop_eq_cons hd
        rw [hd] at hm
        cases x with
        | anyRun =>
          rw [acceptsChars, Bool.or_eq_true] at hm
          rcases hm with hm | hm
          · exact ih (i + 1) (hc.skip i hi hx) hm (by omega)
          · exact ⟨i, hi, i, .inl ⟨hx, rfl⟩, by rw [hd]; exact hm⟩
        | anyOne =>
          rw [acceptsChars] at hm
          exact ⟨i, hi, i + 1, .inr (.inl ⟨hx, rfl⟩), hm⟩
        | lit a =>
          rw [acceptsChars, Bool.and_eq_true] at hm
          exact ⟨i, hi, i + 1, .inr (.inr ⟨a, hx, hm.1, rfl⟩), hm.2⟩
  · rintro ⟨i, hi, j, hnext, hm⟩
    refine ⟨i, hi, ?_⟩
    rcases hnext with ⟨hx, rfl⟩ | ⟨hx, rfl⟩ | ⟨a, hx, ha, rfl⟩
    · rw [drop_eq_cons_of_getElem? hx] at hm ⊢
      rw [acceptsChars, hm, Bool.or_true]
    · rw [drop_eq_cons_of_getElem? hx, acceptsChars]
      exact hm
    · rw [drop_eq_cons_of_getElem? hx, acceptsChars, ha, hm]
      rfl

/-- Adding a position unless it is there already. -/
theorem mem_insertNew {acc : List Nat} {k j : Nat} :
    j ∈ (if acc.contains k then acc else acc ++ [k]) ↔ j ∈ acc ∨ j = k := by
  by_cases hk : k ∈ acc
  · simp only [List.contains_iff_mem, hk, if_true]
    exact ⟨.inl, fun h => h.elim id fun e => e ▸ hk⟩
  · simp [hk]

/-- Adding a position when a test passes, unless it is there already. -/
theorem mem_insertIf {acc : List Nat} {b : Bool} {k j : Nat} :
    j ∈ (if (b && !acc.contains k) = true then acc ++ [k] else acc) ↔ j ∈ acc ∨ (b = true ∧ j = k) := by
  by_cases hk : k ∈ acc
  · have hno : (b && !acc.contains k) = false := by simp [hk]
    rw [hno]
    exact ⟨.inl, fun h => h.elim id fun h => h.2 ▸ hk⟩
  · cases b <;> simp [hk]

theorem mem_step_moves (c : Char) (set : List Nat) (j : Nat) :
    j ∈ set.foldl (fun (acc : List Nat) (i : Nat) =>
        match p.toArray[i]? with
        | some .anyRun => if acc.contains i then acc else acc ++ [i]
        | some .anyOne => if acc.contains (i + 1) then acc else acc ++ [i + 1]
        | some (.lit a) => if Text.sameFold a c && !acc.contains (i + 1) then acc ++ [i + 1] else acc
        | none => acc) [] ↔ ∃ i ∈ set, Next p c i j := by
  rw [@mem_foldl_moves _ (Next p c)]
  · simp
  · intro acc i j
    simp only [List.getElem?_toArray]
    cases hx : p[i]? with
    | none => simp [Next, hx]
    | some x =>
      cases x with
      | anyRun => simpa [Next, hx] using mem_insertNew
      | anyOne => simpa [Next, hx] using mem_insertNew
      | lit a =>
          simp only
          rw [mem_insertIf]
          simp [Next, hx]

theorem reaches_step {set : List Nat} (hc : Closed p set) (c : Char) (t : List Char) :
    Reaches p set (c :: t) ↔ Reaches p (step p.toArray set c) t := by
  rw [reaches_cons_iff hc, step, reaches_close]
  constructor
  · rintro ⟨i, hi, j, hnext, hm⟩
    exact ⟨j, (mem_step_moves c set j).mpr ⟨i, hi, hnext⟩, hm⟩
  · rintro ⟨j, hj, hm⟩
    obtain ⟨i, hi, hnext⟩ := (mem_step_moves c set j).mp hj
    exact ⟨i, hi, j, hnext, hm⟩

theorem closed_step {set : List Nat} (hc : Closed p set) (c : Char) :
    Closed p (step p.toArray set c) := by
  refine closed_close fun j hj => ?_
  obtain ⟨i, hi, hnext⟩ := (mem_step_moves c set j).mp hj
  have hbound := hc.bounded i hi
  rcases hnext with ⟨hx, rfl⟩ | ⟨hx, rfl⟩ | ⟨a, hx, -, rfl⟩ <;>
    · have := (List.getElem?_eq_some_iff.mp hx).1
      omega

/-- Reading a text character by character keeps the meaning of a closed set. -/
theorem reaches_foldl_step (u t : List Char) :
    ∀ {set : List Nat}, Closed p set →
      (Reaches p set (u ++ t) ↔ Reaches p (u.foldl (step p.toArray) set) t) ∧
        Closed p (u.foldl (step p.toArray) set) := by
  induction u with
  | nil => exact fun hc => ⟨Iff.rfl, hc⟩
  | cons c u ih =>
    intro set hc
    obtain ⟨hreach, hclosed⟩ := ih (closed_step hc c)
    exact ⟨(reaches_step hc c (u ++ t)).trans hreach, hclosed⟩

/-- At the end of the text a closed set matches exactly when it holds the end of the
pattern. -/
theorem reaches_nil_iff {set : List Nat} (hc : Closed p set) :
    Reaches p set [] ↔ p.length ∈ set := by
  constructor
  · rintro ⟨i, hi, hm⟩
    induction hk : p.length - i generalizing i with
    | zero =>
      have := hc.bounded i hi
      have hi' : i = p.length := by omega
      exact hi' ▸ hi
    | succ k ih =>
      cases hd : p.drop i with
      | nil =>
        have := List.drop_eq_nil_iff.mp hd
        omega
      | cons x rest =>
        obtain ⟨hx, rfl⟩ := getElem?_of_drop_eq_cons hd
        rw [hd] at hm
        cases x with
        | anyRun =>
          rw [acceptsChars] at hm
          exact ih (i + 1) (hc.skip i hi hx) hm (by omega)
        | anyOne => simp [acceptsChars] at hm
        | lit a => simp [acceptsChars] at hm
  · intro h
    exact ⟨p.length, h, by simp [acceptsChars]⟩

/-- Running the set of positions over a text decides the same as the recursive rule. -/
theorem accepts_eq_acceptsChars (s : String) : p.accepts s = acceptsChars p s.toList := by
  have hstart : Closed p (close p.toArray [0]) := closed_close (by simp)
  obtain ⟨hreach, hend⟩ := reaches_foldl_step s.toList [] hstart
  apply Bool.eq_iff_iff.mpr
  rw [accepts, List.size_toArray, List.contains_iff_mem, ← reaches_nil_iff hend, ← hreach,
    List.append_nil, reaches_close]
  simp [Reaches]

end LikePattern

/-! ## LIKE conditions -/

/-- A LIKE condition is false on a null cell or pattern, and otherwise holds exactly when the
unquoted pattern matches the cell's text. -/
theorem like_holds_iff_matches {row : Row} {field : String} {table : Option String} {v : Value}
    (l : Value) (hv : row.resolve field table = some v) :
    (Predicate.compile ⟨field, .like, l⟩).eval row table =
      .ok (!l.isNull && !v.isNull && decide (LikeMatches (unquote l.display).toList v.display.toList)) := by
  have hlike : ∀ pat s : String,
      (LikePattern.ofString pat).accepts s = decide (LikeMatches pat.toList s.toList) := by
    intro pat s
    rw [LikePattern.accepts_eq_acceptsChars, LikePattern.ofString_eq]
    exact Bool.eq_iff_iff.mpr ((LikePattern.acceptsChars_iff _ _).trans (by simp))
  simp only [Predicate.eval, hv, Predicate.compile]
  cases l <;> cases v <;> simp [Predicate.likeHolds, Value.isNull, Value.display, hlike]
  -- what is left compares two `decide`s whose instances still name the unreduced display
  all_goals rfl

/-- A pattern with both wildcards and a regular-expression metacharacter, against a text in
other case. -/
theorem like_holds_iff_matches_people :
    (Row.ofPairs [("name", .text "A.Bc")]).resolve "name" none = some (.text "A.Bc") ∧
      (Predicate.compile ⟨"name", .like, .text "'a._%'"⟩).eval (Row.ofPairs [("name", .text "A.Bc")])
          none = .ok true := by
  have hm : LikeMatches ['a', '.', '_', '%'] ['A', '.', 'B', 'c'] :=
    .literal (by decide) (by decide) (by decide) <| .literal (by decide) (by decide) rfl <|
      .underscore 'B' <| .percent ['c'] .nil
  refine ⟨rfl, ?_⟩
  rw [like_holds_iff_matches _ rfl]
  show Except.ok (true && true && decide (LikeMatches ['a', '.', '_', '%'] ['A', '.', 'B', 'c'])) = _
  rw [decide_eq_true hm]
  rfl

end Tabula
