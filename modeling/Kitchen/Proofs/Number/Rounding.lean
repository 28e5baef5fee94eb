import Kitchen.Number.Binary64
import Mathlib.Data.Int.Log
import Mathlib.Algebra.Order.Floor.Semifield
import Mathlib.Data.Rat.Floor
import Mathlib.Tactic.FieldSimp
import Mathlib.Tactic.Linarith
import Mathlib.Tactic.Positivity
import Mathlib.Tactic.Ring

/-!
# Rounding to binary64

The rank that a fraction is rounded to depends on its value alone, not on how the fraction is written.
A magnitude of its own is rounded to itself.
-/

namespace Kitchen.Binary64

theorem cast_twoTo (n : Nat) : ((twoTo n : Nat) : ℚ) = 2 ^ n := Nat.cast_pow 2 n

theorem two_zpow_pos (n : Int) : (0 : ℚ) < 2 ^ n := zpow_pos (by norm_num) n

/-- The whole number nearest to a value, a half to the even one. -/
def nearest (q : ℚ) : Nat :=
  if 2 * (q - ⌊q⌋₊) < 1 then ⌊q⌋₊
  else if 1 < 2 * (q - ⌊q⌋₊) then ⌊q⌋₊ + 1
  else if ⌊q⌋₊ % 2 = 0 then ⌊q⌋₊ else ⌊q⌋₊ + 1

theorem divideToEven_eq (num : Nat) {den : Nat} (hden : 0 < den) :
    divideToEven num den = nearest ((num : ℚ) / den) := by
  have hpos : (0 : ℚ) < den := by exact_mod_cast hden
  have hfloor : ⌊(num : ℚ) / den⌋₊ = num / den := Nat.floor_div_eq_div num den
  have hrest : (num : ℚ) / den - (num / den : Nat) = (num % den : Nat) / den := by
    have hsplit : (num : ℚ) = den * (num / den : Nat) + (num % den : Nat) := by
      exact_mod_cast (Nat.div_add_mod num den).symm
    field_simp
    linarith
  have hbelow : 2 * ((num % den : Nat) / den : ℚ) < 1 ↔ 2 * (num % den) < den := by
    rw [← mul_div_assoc, div_lt_one hpos]
    exact_mod_cast Iff.rfl
  have habove : 1 < 2 * ((num % den : Nat) / den : ℚ) ↔ den < 2 * (num % den) := by
    rw [← mul_div_assoc, one_lt_div hpos]
    exact_mod_cast Iff.rfl
  rw [divideToEven, nearest, hfloor, hrest]
  simp only [hbelow, habove]

theorem nearest_natCast (n : Nat) : nearest n = n := by
  rw [nearest, Nat.floor_natCast, sub_self, mul_zero, if_pos one_pos]

theorem nearest_of_lt_half {q : ℚ} (h : 2 * q < 1) : nearest q = 0 := by
  have hfloor : ⌊q⌋₊ = 0 := Nat.floor_eq_zero.mpr (by linarith)
  rw [nearest, hfloor, Nat.cast_zero, sub_zero, if_pos h]

/-- A fraction, shifted by a number of binary places, as another fraction. -/
private theorem exists_shifted (num : Nat) {den : Nat} (hden : 0 < den) (shift : Int) :
    ∃ a b : Nat, 0 < b ∧ (a : ℚ) / b = num / den * 2 ^ shift ∧ floorShifted num den shift = a / b ∧
      divideShifted num den shift = divideToEven a b := by
  have hpos : (0 : ℚ) < den := by exact_mod_cast hden
  cases shift with
  | ofNat k =>
    refine ⟨num * twoTo k, den, hden, ?_, rfl, rfl⟩
    have hcast : ((num * twoTo k : Nat) : ℚ) = num * 2 ^ k := by rw [Nat.cast_mul, cast_twoTo]
    rw [hcast, Int.ofNat_eq_natCast, zpow_natCast]
    ring
  | negSucc k =>
    refine ⟨num, den * twoTo (k + 1), Nat.mul_pos hden (Nat.pow_pos (by decide)), ?_, rfl, rfl⟩
    have hcast : ((den * twoTo (k + 1) : Nat) : ℚ) = den * 2 ^ (k + 1) := by
      rw [Nat.cast_mul, cast_twoTo]
    rw [hcast, zpow_negSucc]
    field_simp

theorem floorShifted_eq (num : Nat) {den : Nat} (hden : 0 < den) (shift : Int) :
    floorShifted num den shift = ⌊(num : ℚ) / den * 2 ^ shift⌋₊ := by
  obtain ⟨a, b, hb, hvalue, hfloor, -⟩ := exists_shifted num hden shift
  rw [hfloor, ← hvalue, Nat.floor_div_eq_div]

theorem divideShifted_eq (num : Nat) {den : Nat} (hden : 0 < den) (shift : Int) :
    divideShifted num den shift = nearest ((num : ℚ) / den * 2 ^ shift) := by
  obtain ⟨a, b, hb, hvalue, -, hdivide⟩ := exists_shifted num hden shift
  rw [hdivide, ← hvalue, divideToEven_eq a hb]

/-- The binary places by which a value is shifted before it is rounded. -/
def shiftOf (v : ℚ) : Int := min (52 - Int.log 2 v) 1074

/-- The rank that a value is rounded to. -/
def rankOf (v : ℚ) : Nat := (1074 - shiftOf v).toNat * twoTo 52 + nearest (v * 2 ^ shiftOf v)

/-- A value lies between the powers of two that its numerator and denominator set. -/
private theorem ratio_bounds {num den : Nat} (hnum : 0 < num) (hden : 0 < den) :
    (2 : ℚ) ^ ((Nat.log2 num : Int) - Nat.log2 den - 1) < num / den ∧
      (num : ℚ) / den < 2 ^ ((Nat.log2 num : Int) - Nat.log2 den + 1) := by
  have hpos : (0 : ℚ) < den := by exact_mod_cast hden
  have hnumLow : (2 : ℚ) ^ (Nat.log2 num : Int) ≤ num := by
    rw [zpow_natCast]
    exact_mod_cast Nat.log2_self_le (by omega)
  have hnumHigh : (num : ℚ) < 2 ^ ((Nat.log2 num : Int) + 1) := by
    rw [← Nat.cast_succ, zpow_natCast]
    exact_mod_cast Nat.lt_log2_self
  have hdenLow : (2 : ℚ) ^ (Nat.log2 den : Int) ≤ den := by
    rw [zpow_natCast]
    exact_mod_cast Nat.log2_self_le (by omega)
  have hdenHigh : (den : ℚ) < 2 ^ ((Nat.log2 den : Int) + 1) := by
    rw [← Nat.cast_succ, zpow_natCast]
    exact_mod_cast Nat.lt_log2_self
  constructor
  · rw [lt_div_iff₀ hpos]
    calc (2 : ℚ) ^ ((Nat.log2 num : Int) - Nat.log2 den - 1) * den
        < 2 ^ ((Nat.log2 num : Int) - Nat.log2 den - 1) * 2 ^ ((Nat.log2 den : Int) + 1) :=
          mul_lt_mul_of_pos_left hdenHigh (two_zpow_pos _)
      _ = 2 ^ (Nat.log2 num : Int) := by
          rw [← zpow_add₀ (by norm_num)]
          congr 1
          omega
      _ ≤ num := hnumLow
  · rw [div_lt_iff₀ hpos]
    calc (num : ℚ) < 2 ^ ((Nat.log2 num : Int) + 1) := hnumHigh
      _ = 2 ^ ((Nat.log2 num : Int) - Nat.log2 den + 1) * 2 ^ (Nat.log2 den : Int) := by
          rw [← zpow_add₀ (by norm_num)]
          congr 1
          omega
      _ ≤ 2 ^ ((Nat.log2 num : Int) - Nat.log2 den + 1) * den :=
          mul_le_mul_of_nonneg_left hdenLow (two_zpow_pos _).le

/-- A fraction is rounded as its value is. -/
theorem roundRank_eq {num den : Nat} (hnum : 0 < num) (hden : 0 < den) :
    roundRank num den = rankOf ((num : ℚ) / den) := by
  obtain ⟨v, hv⟩ : ∃ v : ℚ, v = num / den := ⟨_, rfl⟩
  have hpos : 0 < v := by
    rw [hv]
    positivity
  obtain ⟨hlow, hhigh⟩ := ratio_bounds hnum hden
  rw [← hv] at hlow hhigh
  obtain ⟨guess, hguess⟩ : ∃ guess : Int, guess = 53 - ((Nat.log2 num : Int) - Nat.log2 den) := ⟨_, rfl⟩
  have htwo : ((2 : Nat) : ℚ) = 2 := Nat.cast_ofNat
  have hlog := (Int.zpow_le_iff_le_log one_lt_two hpos).mp (htwo ▸ hlow.le)
  have hlog' := (Int.lt_zpow_iff_log_lt one_lt_two hpos).mp (htwo ▸ hhigh)
  have hfits : floorShifted num den guess < twoTo 53 ↔ Int.log 2 v < 53 - guess := by
    have hcast : ((twoTo 53 : Nat) : ℚ) = 2 ^ (53 - guess) * 2 ^ guess := by
      rw [← zpow_add₀ two_ne_zero, sub_add_cancel, cast_twoTo]
      rfl
    rw [floorShifted_eq num hden, ← hv, Nat.floor_lt (mul_pos hpos (two_zpow_pos _)).le, hcast,
      mul_lt_mul_iff_left₀ (two_zpow_pos _), ← Int.lt_zpow_iff_log_lt one_lt_two hpos, htwo]
  have hfitted : (if floorShifted num den guess < twoTo 53 then guess else guess - 1) = 52 - Int.log 2 v := by
    split
    case isTrue h =>
      have := hfits.mp h
      omega
    case isFalse h =>
      have := mt hfits.mpr h
      omega
  rw [roundRank, ← hguess]
  simp only [hfitted]
  rw [divideShifted_eq num hden, ← hv]
  rfl

/-! ## Magnitudes -/

/-- The value of a magnitude. -/
def value (rank : Nat) : ℚ := significand rank * 2 ^ exponent rank

/-- The significand of a magnitude has 53 bits, unless the magnitude is among the smallest. -/
private theorem significand_cases (rank : Nat) :
    (significand rank = rank ∧ rank < twoTo 52 ∧ exponent rank = -1074) ∨
      (twoTo 52 ≤ significand rank ∧ significand rank < twoTo 53 ∧ -1074 ≤ exponent rank ∧
        ((exponent rank + 1074).toNat * twoTo 52 + significand rank = rank)) := by
  have hwidth : twoTo 52 = 4503599627370496 := by decide
  have hwidth' : twoTo 53 = 9007199254740992 := by decide
  by_cases hsmall : rank < twoTo 52
  · exact .inl ⟨if_pos hsmall, hsmall, if_pos hsmall⟩
  · right
    rw [significand, if_neg hsmall, exponent, if_neg hsmall, hwidth, hwidth']
    rw [hwidth] at hsmall
    omega

/-- A magnitude is rounded to itself. -/
theorem rankOf_value {rank : Nat} (hpos : 0 < rank) : rankOf (value rank) = rank := by
  have hmul (n : Int) : value rank * 2 ^ n = significand rank * 2 ^ (exponent rank + n) := by
    rw [value, mul_assoc, ← zpow_add₀ two_ne_zero]
  have htwo : ((2 : Nat) : ℚ) = 2 := Nat.cast_ofNat
  rcases significand_cases rank with ⟨hsignificand, hsmall, hexponent⟩ |
    ⟨hlow, hhigh, hexponent, hrank⟩
  · have hvalue : 0 < value rank := by
      rw [value, hsignificand]
      exact mul_pos (by exact_mod_cast hpos) (two_zpow_pos _)
    have hlog : Int.log 2 (value rank) < -1022 := by
      rw [← Int.lt_zpow_iff_log_lt one_lt_two hvalue, value, hsignificand, hexponent, htwo]
      calc (rank : ℚ) * 2 ^ (-1074 : Int) < 2 ^ (52 : Int) * 2 ^ (-1074 : Int) :=
            mul_lt_mul_of_pos_right (by exact_mod_cast hsmall) (two_zpow_pos _)
        _ = 2 ^ (-1022 : Int) := by rw [← zpow_add₀ two_ne_zero]; rfl
    have hshift : shiftOf (value rank) = 1074 := by
      rw [shiftOf]
      omega
    rw [rankOf, hshift, hmul, hexponent, hsignificand]
    simp [nearest_natCast]
  · have hvalue : 0 < value rank := by
      rw [value]
      exact mul_pos (by exact_mod_cast lt_of_lt_of_le (Nat.pow_pos (by decide)) hlow) (two_zpow_pos _)
    have hlog : Int.log 2 (value rank) = 52 + exponent rank := by
      apply le_antisymm
      · rw [← Int.lt_add_one_iff, ← Int.lt_zpow_iff_log_lt one_lt_two hvalue, value, htwo,
          show 52 + exponent rank + 1 = 53 + exponent rank by omega, zpow_add₀ two_ne_zero]
        exact mul_lt_mul_of_pos_right (by exact_mod_cast hhigh) (two_zpow_pos _)
      · rw [← Int.zpow_le_iff_le_log one_lt_two hvalue, value, htwo, zpow_add₀ two_ne_zero]
        exact mul_le_mul_of_nonneg_right (by exact_mod_cast hlow) (two_zpow_pos _).le
    have hshift : shiftOf (value rank) = -exponent rank := by
      rw [shiftOf, hlog]
      omega
    rw [rankOf, hshift, hmul, add_neg_cancel, zpow_zero, mul_one, nearest_natCast, sub_neg_eq_add,
      add_comm (1074 : Int)]
    exact hrank

/-- A value far above all magnitudes is rounded to none of them. -/
theorem rankBound_le_rankOf {v : ℚ} (h : 2 ^ (1025 : Int) ≤ v) : rankBound ≤ rankOf v := by
  have htwo : ((2 : Nat) : ℚ) = 2 := Nat.cast_ofNat
  have hlog : 1025 ≤ Int.log 2 v :=
    (Int.zpow_le_iff_le_log one_lt_two ((two_zpow_pos _).trans_le h)).mp (htwo ▸ h)
  have hshift : 2047 ≤ (1074 - shiftOf v).toNat := by
    rw [shiftOf]
    omega
  exact Nat.le_add_right_of_le (Nat.mul_le_mul_right _ hshift)

/-- A value far below all magnitudes but zero is rounded to zero. -/
theorem rankOf_eq_zero {v : ℚ} (hpos : 0 < v) (h : v < 2 ^ (-1075 : Int)) : rankOf v = 0 := by
  have htwo : ((2 : Nat) : ℚ) = 2 := Nat.cast_ofNat
  have hlog : Int.log 2 v < -1075 := (Int.lt_zpow_iff_log_lt one_lt_two hpos).mp (htwo ▸ h)
  have hshift : shiftOf v = 1074 := by
    rw [shiftOf]
    omega
  have hhalf : 2 * (v * 2 ^ (1074 : Int)) < 1 := by
    calc 2 * (v * 2 ^ (1074 : Int)) < 2 * (2 ^ (-1075 : Int) * 2 ^ (1074 : Int)) :=
          mul_lt_mul_of_pos_left (mul_lt_mul_of_pos_right h (two_zpow_pos 1074)) two_pos
      _ = 1 := by
          rw [← zpow_add₀ two_ne_zero]
          norm_num
  rw [rankOf, hshift, nearest_of_lt_half hhalf]
  rfl

end Kitchen.Binary64
