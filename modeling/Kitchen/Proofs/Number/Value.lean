import Kitchen.Proofs.Number.Decimal
import Mathlib.Algebra.Field.Rat
import Mathlib.Tactic.NormNum

/-!
# The value of a decimal

Two decimals may be the same number in different digits. A decimal read back from its written form has
the same value, and so has the integer that it is taken for.
-/

namespace Kitchen.Decimal

/-- The number that digits and a scale stand for. -/
def value (d : Decimal) : ℚ := d.digits * 10 ^ (-d.scale)

theorem cast_tenTo (k : Nat) : ((tenTo k : Nat) : ℚ) = 10 ^ k := by
  rw [← Nat.cast_ofNat, ← Nat.cast_pow]
  rfl

theorem value_ofInt (n : Int) : (ofInt n).value = n := by
  simp [value, ofInt]

theorem value_of_scale_neg {d : Decimal} {zeros : Nat} (h : d.scale = .negSucc zeros) :
    d.value = ((d.digits * tenTo (zeros + 1) : Int) : ℚ) := by
  rw [value, h, Int.neg_negSucc, zpow_natCast, Int.cast_mul, Int.cast_natCast,
    cast_tenTo]

theorem value_eq_intCast_iff {d : Decimal} {places : Nat} (h : d.scale = .ofNat places) (n : Int) :
    d.value = n ↔ d.digits = n * tenTo places := by
  have hne : (10 : ℚ) ^ places ≠ 0 := pow_ne_zero _ (by norm_num)
  rw [value, h, Int.ofNat_eq_natCast, zpow_neg, zpow_natCast, ← div_eq_mul_inv, div_eq_iff hne,
    ← cast_tenTo]
  norm_cast

theorem value_writtenOut (d : Decimal) : d.writtenOut.value = d.value := by
  obtain hsame | ⟨zeros, hscale, _, hzeros⟩ := d.writtenOut_cases
  · rw [hsame]
  · rw [hzeros, value_of_scale_neg hscale]
    exact value_ofInt _

/-- The integer that a decimal is taken for is its value, and fits 64 bits. -/
theorem value_of_toInteger {d : Decimal} {n : Int} (h : d.toInteger = .integer n) :
    d.value = n ∧ -(twoTo 63 : Int) ≤ n ∧ n < twoTo 63 := by
  by_cases hzero : d.digits = 0
  · rw [toInteger, if_pos hzero] at h
    cases h
    exact ⟨by simp [value, hzero], by decide, by decide⟩
  · simp only [toInteger, if_neg hzero, integerWidth_lt_saturatingSub] at h
    by_cases hwide : integerWidth < d.magnitude.length - d.scale
    · rw [if_pos hwide] at h
      cases h
    by_cases hnarrow : d.magnitude.length ≤ d.scale
    · rw [if_neg hwide, if_pos hnarrow] at h
      cases h
    rw [if_neg hwide, if_neg hnarrow] at h
    cases hscale : d.scale with
    | ofNat places =>
      simp only [hscale] at h
      by_cases hmod : d.digits.natAbs % tenTo places = 0
      · simp only [hmod, if_true] at h
        obtain ⟨hfits, hn⟩ := ite_eq_iff.mp h |>.resolve_right (by simp)
        cases hn
        refine ⟨?_, hfits⟩
        obtain ⟨whole, hwhole⟩ : (tenTo places : Int) ∣ d.digits :=
          Int.natCast_dvd.mpr (Nat.dvd_of_mod_eq_zero hmod)
        have hne : (tenTo places : Int) ≠ 0 := Int.natCast_ne_zero.mpr (tenTo_pos places).ne'
        rw [value_eq_intCast_iff hscale, hwhole, Int.mul_tdiv_cancel_left _ hne, Int.mul_comm]
      · simp only [hmod, if_false] at h
        cases h
    | negSucc zeros =>
      simp only [hscale] at h
      obtain ⟨hfits, hn⟩ := ite_eq_iff.mp h |>.resolve_right (by simp)
      cases hn
      exact ⟨value_of_scale_neg hscale, hfits⟩

/-- A decimal whose value is an integer of 64 bits is taken for it: its digits and its scale leave no
more than the digits of the integer before the point. -/
theorem toInteger_of_value {d : Decimal} {n : Int} (h : d.value = n) (hlo : -(twoTo 63 : Int) ≤ n)
    (hhi : n < twoTo 63) : d.toInteger = .integer n := by
  cases hscale : d.scale with
  | negSucc zeros =>
    have hn : d.digits * tenTo (zeros + 1) = n := by
      rw [value_of_scale_neg hscale] at h
      exact Int.cast_inj.mp h
    have hfits : fitsInt64 n = true := fitsInt64_iff.mpr ⟨hlo, hhi⟩
    rw [toInteger_of_nonpos (zeros + 1) hscale, hn, if_pos hfits]
  | ofNat places =>
    have hdigits := (value_eq_intCast_iff hscale n).mp h
    by_cases hzero : n = 0
    · have hnone : d.digits = 0 := by rw [hdigits, hzero, Int.zero_mul]
      rw [toInteger, if_pos hnone, hzero]
    have hpos : 0 < n.natAbs := Int.natAbs_pos.mpr hzero
    have habs : d.digits.natAbs = n.natAbs * tenTo places := by
      rw [hdigits, Int.natAbs_mul, Int.natAbs_natCast]
    have hsome : d.digits ≠ 0 := by
      have := Nat.mul_pos hpos (tenTo_pos places)
      omega
    have hwidth : (d.magnitude.length : Int) - d.scale = (Nat.toDigits 10 n.natAbs).length := by
      rw [magnitude, habs, toDigits_mul_tenTo hpos, List.length_append, List.length_replicate, hscale,
        Int.ofNat_eq_natCast]
      omega
    have hlong : 0 < (Nat.toDigits 10 n.natAbs).length := Nat.length_toDigits_pos
    have hshort : (Nat.toDigits 10 n.natAbs).length ≤ 19 := by
      refine (lt_tenTo_iff (by decide)).mp ?_
      have hwide : twoTo 63 < tenTo 19 := by decide
      omega
    have hmod : d.digits.natAbs % tenTo places = 0 := by rw [habs, Nat.mul_mod_left]
    have hquotient : d.digits.tdiv (tenTo places) = n := by
      rw [hdigits, Int.mul_tdiv_cancel _ (Int.natCast_ne_zero.mpr (tenTo_pos places).ne')]
    rw [toInteger, if_neg hsome]
    simp only [integerWidth_lt_saturatingSub, hwidth]
    rw [if_neg (by rw [integerWidth]; omega), if_neg (by omega)]
    simp only [hscale, hmod, if_true, hquotient]
    exact if_pos ⟨hlo, hhi⟩

theorem toInteger_eq_integer_iff {d : Decimal} {n : Int} :
    d.toInteger = .integer n ↔ d.value = n ∧ -(twoTo 63 : Int) ≤ n ∧ n < twoTo 63 :=
  ⟨value_of_toInteger, fun ⟨h, hlo, hhi⟩ => toInteger_of_value h hlo hhi⟩

end Kitchen.Decimal
