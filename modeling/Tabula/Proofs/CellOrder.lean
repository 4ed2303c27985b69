import Tabula.Proofs.Grouping
import Tabula.Proofs.Sorting

/-!
# The sorting order of cells against their equality as keys

`Value.sortCmp` is a lawful total order whose ties are same keys, though the two zeros
are one key and two places (`sortCmp_total_order_coarsened_by_same`).
-/

namespace Tabula.Number

open Float.Model Float.Model.UnpackedFloat

/-! ## Doubles as sign and magnitude -/

/-- The sign that the top bit of a bit pattern stands for. -/
def signOf (n : Nat) : Sign :=
  if n / 2 ^ 63 % 2 = 0 then .positive else .negative

/-- The unpacked double of a sign and the 63 bits below it: the top 11 of them are the
exponent field and the other 52 the fraction. -/
def ofMagnitude (sg : Sign) (m : Nat) : UnpackedFloat :=
  if m / 2 ^ 52 = 2047 then (if m % 2 ^ 52 = 0 then .infinity sg else .notANumber)
  else if m / 2 ^ 52 = 0 then
    (if h : m % 2 ^ 52 = 0 then .zero sg else .finite sg (m % 2 ^ 52) (-1074) (Nat.pos_of_ne_zero h))
  else .finite sg (2 ^ 52 + m % 2 ^ 52) ((m / 2 ^ 52 : Nat) - 1075) (by omega)

/-- A magnitude with its sign applied: both zeros are `0`. -/
def signed : Sign → Nat → Int
  | .positive, m => m
  | .negative, m => -(m : Int)

/-- Unpacking a bit pattern reads its sign bit and its 63 magnitude bits. -/
theorem unpack_eq_ofMagnitude (b : BitVec 64) :
    UnpackedFloat.unpack Format.binary64 b = ofMagnitude (signOf b.toNat) (b.toNat % 2 ^ 63) := by
  have hlt := b.isLt
  have he : (@unpackExponent Format.binary64 b).toNat = b.toNat % 2 ^ 63 / 2 ^ 52 := by
    simp only [unpackExponent, BitVec.toNat_cast, BitVec.extractLsb_toNat, Nat.shiftRight_eq_div_pow]
    omega
  have hm : (@unpackMantissa Format.binary64 b).toNat = b.toNat % 2 ^ 63 % 2 ^ 52 := by
    simp only [unpackMantissa, BitVec.toNat_cast, BitVec.extractLsb_toNat, Nat.shiftRight_zero]
    omega
  have hs : Sign.ofBitVec (@unpackSign Format.binary64 b) = signOf b.toNat := by
    have h : (@unpackSign Format.binary64 b).toNat = b.toNat / 2 ^ 63 % 2 := by
      simp [unpackSign, Nat.shiftRight_eq_div_pow]
    simp only [Sign.ofBitVec, signOf, ← h]
    simp [BitVec.toNat_eq]
  have happ : (1#1 ++ @unpackMantissa Format.binary64 b).toNat =
      2 ^ 52 + b.toNat % 2 ^ 63 % 2 ^ 52 := by
    rw [BitVec.toNat_append, hm, BitVec.toNat_ofNat, Nat.shiftLeft_eq, Nat.one_mul]
    exact (Nat.two_pow_add_eq_or_of_lt (Nat.mod_lt _ (Nat.two_pow_pos 52)) 1).symm
  have hbias : Format.binary64.exponentBias = 1023 := rfl
  have hones : (-1#11 : BitVec 11).toNat = 2047 := by decide
  have hzero : (0#52 : BitVec 52).toNat = 0 := rfl
  have hzero' : (0#11 : BitVec 11).toNat = 0 := rfl
  simp only [UnpackedFloat.unpack, hs, BitVec.toNat_eq, he, hm, happ, ofMagnitude, hones, hzero,
    hzero']
  split_ifs <;> first | rfl | (congr 1; rw [hbias]; omega)

theorem ofMagnitude_negative (m : Nat) : ofMagnitude .negative m = (ofMagnitude .positive m).neg := by
  unfold ofMagnitude
  split_ifs <;> rfl

/-- Negating both sides turns an IEEE comparison round. -/
theorem compare_neg_neg (u v : UnpackedFloat) : u.neg.compare v.neg = v.compare u := by
  rcases u with s | _ | s | ⟨s, m, e, h⟩ <;> rcases v with t | _ | t | ⟨t, n, f, k⟩ <;>
    (try cases s) <;> (try cases t) <;>
    simp [UnpackedFloat.compare, UnpackedFloat.neg, Neg.neg, Ordering.swap_then, Int.compare_swap,
      Nat.compare_swap] <;> rfl

theorem compare_ofMagnitude_self (sg : Sign) {m : Nat} (hm : m ≤ 2047 * 2 ^ 52) :
    (ofMagnitude sg m).compare (ofMagnitude sg m) = some .eq := by
  unfold ofMagnitude
  cases sg <;> split_ifs <;> first | omega | simp [UnpackedFloat.compare]
  all_goals rfl

/-- Below the magnitude of infinity, a larger magnitude is a larger double. -/
theorem compare_ofMagnitude_lt {m n : Nat} (hn : n ≤ 2047 * 2 ^ 52) (h : m < n) :
    (ofMagnitude .positive m).compare (ofMagnitude .positive n) = some .lt := by
  unfold ofMagnitude
  split_ifs <;>
    simp only [UnpackedFloat.compare, Option.some.injEq, reduceCtorEq, Ordering.then_eq_lt,
      Int.compare_eq_lt, Int.compare_eq_eq, Nat.compare_eq_lt, true_and] <;> omega

theorem compare_ofMagnitude_positive {m n : Nat} (hm : m ≤ 2047 * 2 ^ 52) (hn : n ≤ 2047 * 2 ^ 52) :
    (ofMagnitude .positive m).compare (ofMagnitude .positive n) = some (compare (m : Int) n) := by
  rcases Nat.lt_trichotomy m n with h | rfl | h
  · rw [compare_ofMagnitude_lt hn h, Int.compare_eq_lt.mpr (by omega)]
  · rw [compare_ofMagnitude_self _ hm, Int.compare_eq_eq.mpr rfl]
  · rw [← Coerced.unpacked_compare_swap, compare_ofMagnitude_lt hm h, Int.compare_eq_gt.mpr (by omega)]
    rfl

theorem compare_negative_positive : compare Sign.negative Sign.positive = .lt := rfl

/-- A negative double lies below a positive one, unless both are zero. -/
theorem compare_ofMagnitude_mixed {m n : Nat} (hm : m ≤ 2047 * 2 ^ 52) (hn : n ≤ 2047 * 2 ^ 52) :
    (ofMagnitude .negative m).compare (ofMagnitude .positive n) =
      some (compare (-(m : Int)) (n : Int)) := by
  by_cases hz : m = 0 ∧ n = 0
  · obtain ⟨rfl, rfl⟩ := hz
    rfl
  · rw [Int.compare_eq_lt.mpr (by omega)]
    unfold ofMagnitude
    split_ifs <;>
      simp only [UnpackedFloat.compare, compare_negative_positive, Option.some.injEq, reduceCtorEq] <;>
      omega

theorem compare_neg_neg_int (a b : Int) : compare (-a) (-b) = compare b a := by
  rcases Int.lt_trichotomy a b with h | rfl | h
  · rw [Int.compare_eq_gt.mpr (by omega), Int.compare_eq_gt.mpr h]
  · rw [Int.compare_eq_eq.mpr rfl, Int.compare_eq_eq.mpr rfl]
  · rw [Int.compare_eq_lt.mpr (by omega), Int.compare_eq_lt.mpr h]

/-- The IEEE comparison of two unpacked doubles, other than NaN, is the comparison of their
signed magnitudes. -/
theorem compare_ofMagnitude (sg₁ sg₂ : Sign) {m n : Nat} (hm : m ≤ 2047 * 2 ^ 52)
    (hn : n ≤ 2047 * 2 ^ 52) :
    (ofMagnitude sg₁ m).compare (ofMagnitude sg₂ n) = some (compare (signed sg₁ m) (signed sg₂ n)) := by
  cases sg₁ <;> cases sg₂
  · rw [ofMagnitude_negative, ofMagnitude_negative, compare_neg_neg,
      compare_ofMagnitude_positive hn hm, signed, signed, compare_neg_neg_int]
  · exact compare_ofMagnitude_mixed hm hn
  · rw [← Coerced.unpacked_compare_swap, compare_ofMagnitude_mixed hn hm, signed, signed,
      Option.map_some, Int.compare_swap]
  · exact compare_ofMagnitude_positive hm hn

/-! ## Doubles -/

/-- The place of a double in the numeric order, read off its bits: the magnitude bits with
the sign applied, so that both zeros are `0`. -/
def valueKey (x : Float) : Int :=
  signed (signOf x.toBits.toNat) (x.toBits.toNat % 2 ^ 63)

theorem unpack_toModel (x : Float) :
    x.toModel.unpack = ofMagnitude (signOf x.toBits.toNat) (x.toBits.toNat % 2 ^ 63) :=
  unpack_eq_ofMagnitude x.toModel.toBits.toBitVec

/-- A double is NaN exactly when its magnitude bits lie above those of infinity. -/
theorem isNaN_iff (x : Float) : x.isNaN = true ↔ 2047 * 2 ^ 52 < x.toBits.toNat % 2 ^ 63 := by
  have hlt : x.toBits.toNat % 2 ^ 63 < 2 ^ 63 := Nat.mod_lt _ (Nat.two_pow_pos 63)
  change x.toModel.unpack.isNaN = true ↔ _
  rw [unpack_toModel]
  unfold ofMagnitude
  split_ifs <;> simp [UnpackedFloat.isNaN] <;> omega

theorem magnitude_le_of_not_isNaN {x : Float} (h : ¬x.isNaN) :
    x.toBits.toNat % 2 ^ 63 ≤ 2047 * 2 ^ 52 :=
  Nat.le_of_not_lt fun hlt => h ((isNaN_iff x).mpr hlt)

/-- Two doubles other than NaN compare as their places in the numeric order. -/
theorem compare_toModel {x y : Float} (hx : ¬x.isNaN) (hy : ¬y.isNaN) :
    x.toModel.unpack.compare y.toModel.unpack = some (compare (valueKey x) (valueKey y)) := by
  rw [unpack_toModel, unpack_toModel]
  exact compare_ofMagnitude _ _ (magnitude_le_of_not_isNaN hx) (magnitude_le_of_not_isNaN hy)

theorem lt_iff_valueKey {x y : Float} (hx : ¬x.isNaN) (hy : ¬y.isNaN) :
    x < y ↔ valueKey x < valueKey y := by
  rw [Coerced.float_lt_iff, compare_toModel hx hy, Option.some.injEq, Int.compare_eq_lt]

theorem beq_iff_valueKey {x y : Float} (hx : ¬x.isNaN) (hy : ¬y.isNaN) :
    (x == y) = true ↔ valueKey x = valueKey y := by
  rw [Coerced.float_beq_eq, compare_toModel hx hy, beq_iff_eq, Option.some.injEq, Int.compare_eq_eq]

/-- A double equals zero exactly when its magnitude bits are all clear: `0.0` and `-0.0`. -/
theorem beq_zero_iff (x : Float) : (x == 0) = true ↔ x.toBits.toNat % 2 ^ 63 = 0 := by
  have hz : ¬(0 : Float).isNaN := by decide
  have hkey : valueKey 0 = 0 := by decide
  by_cases hx : x.isNaN
  · have hne : x.toBits.toNat % 2 ^ 63 ≠ 0 := by
      have := (isNaN_iff x).mp hx
      omega
    simpa [Coerced.float_beq_eq, Float.unpack_of_isNaN hx, UnpackedFloat.compare] using hne
  · rw [beq_iff_valueKey hx hz, hkey, valueKey]
    cases signOf x.toBits.toNat <;> simp [signed] <;> omega

theorem toBits_injective {x y : Float} (h : x.toBits = y.toBits) : x = y := by
  rcases x with ⟨⟨bx, vx⟩⟩
  rcases y with ⟨⟨bY, vy⟩⟩
  cases h
  rfl

/-- The sign bit of a double is set exactly when its bit pattern is at least `2 ^ 63`. -/
theorem isNegative_eq (x : Float) : isNegative x = decide (2 ^ 63 ≤ x.toBits.toNat) := by
  have hb := x.toBits.toNat_lt
  rw [isNegative, Nat.pow_eq, Bool.eq_iff_iff, beq_iff_eq, decide_eq_true_iff]
  omega

theorem signOf_toBits (x : Float) :
    signOf x.toBits.toNat = if 2 ^ 63 ≤ x.toBits.toNat then .negative else .positive := by
  have hb := x.toBits.toNat_lt
  unfold signOf
  by_cases h : 2 ^ 63 ≤ x.toBits.toNat
  · rw [if_neg (by omega), if_pos h]
  · rw [if_pos (by omega), if_neg h]

/-- The place of a double in the numeric order: its magnitude, negated when the sign bit
is set. -/
theorem valueKey_eq (x : Float) :
    valueKey x = if isNegative x then -((x.toBits.toNat % 2 ^ 63 : Nat) : Int)
      else ((x.toBits.toNat % 2 ^ 63 : Nat) : Int) := by
  rw [valueKey, signOf_toBits, isNegative_eq]
  simp only [decide_eq_true_eq]
  split_ifs <;> rfl

theorem eq_iff_toBits {x y : Float} : x = y ↔ x.toBits.toNat = y.toBits.toNat :=
  ⟨fun h => h ▸ rfl, fun h => toBits_injective (UInt64.toNat_inj.mp h)⟩

end Tabula.Number

namespace Tabula.Value

open Number

/-! ## Cells -/

/-- The kind of a cell in the sorting order: nothing, then numbers, then texts. -/
def rank : Value → Nat
  | .null => 0
  | .number _ => 1
  | .text _ => 2

/-- Cells of an earlier kind sort first. -/
theorem sortCmp_of_rank_lt {a b : Value} (h : a.rank < b.rank) : sortCmp a b = .lt := by
  cases a <;> cases b <;> simp_all [rank, sortCmp]

/-- The sorting key of a double is its place in the numeric order, moved one down for
negative doubles, so that `-0.0` sorts just below `0.0`. -/
theorem totalKey_eq (x : Float) :
    totalKey x = valueKey x - if isNegative x then 1 else 0 := by
  have hb := x.toBits.toNat_lt
  rw [totalKey, valueKey, signOf_toBits, isNegative_eq, Nat.pow_eq]
  simp only [decide_eq_true_eq]
  by_cases h : 2 ^ 63 ≤ x.toBits.toNat
  · rw [if_neg (by omega), if_pos h, if_pos h, signed]
    omega
  · rw [if_pos (by omega), if_neg h, if_neg h, signed]
    omega

/-- The sorting key tells apart every two bit patterns, hence every two doubles. -/
theorem totalKey_eq_iff {x y : Float} : totalKey x = totalKey y ↔ x = y := by
  have hx := x.toBits.toNat_lt
  have hy := y.toBits.toNat_lt
  rw [eq_iff_toBits]
  simp only [totalKey, Nat.pow_eq]
  split_ifs <;> omega

/-- Numbers other than NaN sort by value, with `-0.0` just before `0.0`. -/
theorem sortCmp_number_lt_iff {x y : Float} (hx : ¬x.isNaN) (hy : ¬y.isNaN) :
    sortCmp (.number x) (.number y) = .lt ↔
      x < y ∨ (x == y) = true ∧ isNegative x = true ∧ isNegative y = false := by
  rw [sortCmp, cmpInt_eq_compare, Int.compare_eq_lt, lt_iff_valueKey hx hy, beq_iff_valueKey hx hy,
    totalKey_eq, totalKey_eq, valueKey_eq, valueKey_eq]
  cases isNegative x <;> cases isNegative y <;> simp <;> omega

/-- Texts sort lexicographically, character by character. -/
theorem sortCmp_text_lt_iff (s t : String) : sortCmp (.text s) (.text t) = .lt ↔ s < t :=
  compareOfLessAndEq_eq_lt

theorem eq_of_sortCmp_eq {a b : Value} (h : sortCmp a b = .eq) : a = b := by
  cases a <;> cases b <;> simp only [sortCmp, reduceCtorEq] at h
  case null.null => rfl
  case number.number x y =>
    rw [cmpInt_eq_compare, Int.compare_eq_eq, totalKey_eq_iff] at h
    rw [h]
  case text.text s t => rw [Std.LawfulEqOrd.eq_of_compare h]

/-- Only equal cells tie: together with `transCmp_sortCmp`, the sorting order is a total
order on cells. -/
instance lawfulEqCmp_sortCmp : Std.LawfulEqCmp sortCmp where
  eq_of_compare := eq_of_sortCmp_eq

/-- The bits that number equality compares: `0` for both zeros, the bits of the NaN of
`0.0 / 0.0` for every NaN, and the double's own bits otherwise. -/
theorem numberBits_eq (x : Float) :
    numberBits x = if x.toBits.toNat % 2 ^ 63 = 0 then 0
      else if 2047 * 2 ^ 52 < x.toBits.toNat % 2 ^ 63 then 0x7FF8000000000000
      else x.toBits.toNat := by
  have hnan : (0.0 / 0.0 : Float).toBits.toNat = 0x7FF8000000000000 := by decide
  simp only [numberBits, ← isNaN_iff, ← beq_zero_iff, hnan]

/-- Two doubles are one key when they are the same double, both zeros or both NaN. -/
theorem numberBits_eq_iff (x y : Float) :
    numberBits x = numberBits y ↔
      x = y ∨ (x == 0) = true ∧ (y == 0) = true ∨ x.isNaN = true ∧ y.isNaN = true := by
  by_cases hxy : x = y
  · simp [hxy]
  have hx := x.toBits.toNat_lt
  have hy := y.toBits.toNat_lt
  simp only [hxy, false_or]
  rw [eq_iff_toBits] at hxy
  rw [numberBits_eq, numberBits_eq, beq_zero_iff, beq_zero_iff, isNaN_iff, isNaN_iff]
  split_ifs <;> constructor <;> intro h <;> first | exact h.elim | omega

/-- Two cells are one key exactly when they tie in the sorting order, or are two zeros or
two NaNs. -/
theorem same_iff (a b : Value) :
    (a == b) = true ↔ sortCmp a b = .eq ∨ ∃ x y, a = .number x ∧ b = .number y ∧
      ((x == 0) = true ∧ (y == 0) = true ∨ x.isNaN = true ∧ y.isNaN = true) := by
  change same a b = true ↔ _
  cases a <;> cases b <;> simp only [same, sortCmp, reduceCtorEq]
  case number.number x y =>
    rw [beq_iff_eq, numberBits_eq_iff, cmpInt_eq_compare, Int.compare_eq_eq, totalKey_eq_iff]
    simp
  all_goals simp

/-- The sorting order of cells is a lawful total order: nothing, numbers, texts. Its ties are
equal cells; equality as keys also joins the two zeros and all NaNs. -/
theorem sortCmp_total_order_coarsened_by_same :
    Std.TransCmp sortCmp ∧ Std.LawfulEqCmp sortCmp ∧
      (∀ a b : Value, a.rank < b.rank → sortCmp a b = .lt) ∧
      (∀ x y : Float, ¬x.isNaN → ¬y.isNaN →
        (sortCmp (.number x) (.number y) = .lt ↔
          x < y ∨ (x == y) = true ∧ isNegative x = true ∧ isNegative y = false)) ∧
      (∀ s t : String, sortCmp (.text s) (.text t) = .lt ↔ s < t) ∧
      (∀ a b : Value, (a == b) = true ↔ sortCmp a b = .eq ∨ ∃ x y, a = .number x ∧
        b = .number y ∧ ((x == 0) = true ∧ (y == 0) = true ∨ x.isNaN = true ∧ y.isNaN = true)) :=
  ⟨transCmp_sortCmp, lawfulEqCmp_sortCmp, fun _ _ => sortCmp_of_rank_lt,
    fun _ _ => sortCmp_number_lt_iff, sortCmp_text_lt_iff, same_iff⟩

/-- The two zeros are one key but two places in the sorting order. -/
theorem sortCmp_splits_signed_zeros :
    sortCmp (.number (-0.0)) (.number 0.0) = .lt ∧
      (Value.number (-0.0) == Value.number 0.0) = true := by
  decide

end Tabula.Value
