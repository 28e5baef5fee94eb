import Kitchen.Number.Shortest
import Kitchen.Proofs.Number.Rounding
import Kitchen.Proofs.Number.Value

/-!
# Shortest digits read back

The digits found for a magnitude are rounded to the magnitude, from whichever grid they come. So does
every decimal of the same value.
-/

namespace Kitchen.Binary64

/-- The value of digits and the power of ten of their last place. -/
def decimalValue (digits : Nat) (unit : Int) : ℚ := digits * 10 ^ unit

theorem decimalValue_pos {digits : Nat} (h : 0 < digits) (unit : Int) : 0 < decimalValue digits unit :=
  mul_pos (Nat.cast_pos.mpr h) (zpow_pos (by norm_num) unit)

/-- Zeros at the end of the digits move the unit. -/
theorem decimalValue_mul_tenTo (digits zeros : Nat) (unit : Int) :
    decimalValue (digits * tenTo zeros) unit = decimalValue digits (zeros + unit) := by
  rw [decimalValue, decimalValue, zpow_add₀ (by norm_num), zpow_natCast, Nat.cast_mul,
    Decimal.cast_tenTo, mul_assoc]

/-- A decimal as a fraction. -/
private theorem cast_mul_tenTo (digits e : Nat) :
    ((digits * tenTo e : Nat) : ℚ) / (1 : Nat) = decimalValue digits (.ofNat e) := by
  rw [Nat.cast_one, div_one, Nat.cast_mul, Decimal.cast_tenTo, decimalValue, Int.ofNat_eq_natCast,
    zpow_natCast]

private theorem cast_div_tenTo (digits e : Nat) :
    (digits : ℚ) / (tenTo (e + 1) : Nat) = decimalValue digits (.negSucc e) := by
  rw [Decimal.cast_tenTo, decimalValue, zpow_negSucc, div_eq_mul_inv]

theorem rankOfDecimal_eq {digits : Nat} (h : 0 < digits) (unit : Int) :
    rankOfDecimal digits unit = rankOf (decimalValue digits unit) := by
  cases unit with
  | ofNat e => rw [rankOfDecimal, roundRank_eq (Nat.mul_pos h (tenTo_pos e)) one_pos, cast_mul_tenTo]
  | negSucc e => rw [rankOfDecimal, roundRank_eq h (tenTo_pos _), cast_div_tenTo]

/-! ## Decimals far outside the range -/

/-- Digits lie below the power of ten with as many zeros. -/
private theorem decimalValue_lt (digits : Nat) (unit : Int) :
    decimalValue digits unit < 10 ^ ((Nat.toDigits 10 digits).length + unit) := by
  have hlt : digits < tenTo (Nat.toDigits 10 digits).length :=
    (lt_tenTo_iff Nat.length_toDigits_pos).mpr le_rfl
  rw [zpow_add₀ (by norm_num), zpow_natCast, ← Decimal.cast_tenTo, decimalValue]
  exact mul_lt_mul_of_pos_right (Nat.cast_lt.mpr hlt) (zpow_pos (by norm_num) unit)

private theorem le_decimalValue {digits : Nat} (h : 0 < digits) (unit : Int) :
    10 ^ ((Nat.toDigits 10 digits).length - 1 + unit) ≤ decimalValue digits unit := by
  have hlong : 0 < (Nat.toDigits 10 digits).length := Nat.length_toDigits_pos
  have hcast : ((Nat.toDigits 10 digits).length : Int) - 1 = ((Nat.toDigits 10 digits).length - 1 : Nat) := by
    omega
  rw [hcast, zpow_add₀ (by norm_num), zpow_natCast, ← Decimal.cast_tenTo, decimalValue]
  exact mul_le_mul_of_nonneg_right (Nat.cast_le.mpr (tenTo_length_toDigits_le h))
    (zpow_pos (by norm_num) unit).le

private theorem ten_zpow_le {m n : Int} (h : m ≤ n) : (10 : ℚ) ^ m ≤ 10 ^ n :=
  zpow_le_zpow_right₀ (by norm_num) h

/-- Ten is more than three factors of two. -/
private theorem two_zpow_le_ten_zpow {m n : Int} (hn : 0 ≤ n) (h : m ≤ 3 * n) : (2 : ℚ) ^ m ≤ 10 ^ n :=
  calc (2 : ℚ) ^ m ≤ 2 ^ (3 * n) := zpow_le_zpow_right₀ (by norm_num) h
    _ = 8 ^ n := by
      rw [zpow_mul]
      norm_num
    _ ≤ 10 ^ n := zpow_le_zpow_left₀ hn (by norm_num) (by norm_num)

theorem ofRank_of_le {rank : Nat} (h : rankBound ≤ rank) (negative : Bool) :
    ofRank negative rank = .infinite negative := dif_neg (Nat.not_lt.mpr h)

/-- A decimal is read as the number nearest to its value. The bounds on its digits cut off what is
rounded to infinity or to zero anyway. -/
theorem ofDecimal_eq {digits : Nat} (h : 0 < digits) (negative : Bool) (unit : Int) :
    ofDecimal negative digits unit = ofRank negative (rankOf (decimalValue digits unit)) := by
  rw [ofDecimal.eq_def, if_neg h.ne']
  by_cases hlarge : 400 < (Nat.toDigits 10 digits).length + unit
  · have hbound : (2 : ℚ) ^ (1025 : Int) ≤ decimalValue digits unit :=
      calc (2 : ℚ) ^ (1025 : Int) ≤ 10 ^ (400 : Int) := two_zpow_le_ten_zpow (by decide) (by decide)
        _ ≤ 10 ^ ((Nat.toDigits 10 digits).length - 1 + unit) := ten_zpow_le (by omega)
        _ ≤ decimalValue digits unit := le_decimalValue h unit
    simp only [if_pos hlarge, ofRank_of_le (rankBound_le_rankOf hbound)]
  by_cases hsmall : (Nat.toDigits 10 digits).length + unit < -400
  · have hbound : decimalValue digits unit < 2 ^ (-1075 : Int) :=
      calc decimalValue digits unit < 10 ^ ((Nat.toDigits 10 digits).length + unit) :=
            decimalValue_lt digits unit
        _ ≤ 10 ^ (-401 : Int) := ten_zpow_le (by omega)
        _ ≤ 2 ^ (-1075 : Int) := by
          rw [zpow_neg, zpow_neg]
          exact inv_anti₀ (two_zpow_pos 1075) (two_zpow_le_ten_zpow (by decide) (by decide))
    simp only [if_neg hlarge, if_pos hsmall, rankOf_eq_zero (decimalValue_pos h unit) hbound]
  · simp only [if_neg hlarge, if_neg hsmall]
    rw [← rankOfDecimal_eq h]
    cases unit with
    | ofNat e => exact if_neg (Nat.mul_pos h (tenTo_pos e)).ne'
    | negSucc e => exact if_neg h.ne'

/-! ## Digits of a magnitude -/

/-- Digits and a unit that read back as a magnitude. -/
def ReadsBack (rank : Nat) (decimal : Nat × Int) : Prop :=
  0 < decimal.1 ∧ rankOf (decimalValue decimal.1 decimal.2) = rank

variable {rank : Nat}

private theorem readsBack_gridDigits? {tie : TieRule} {num den digits : Nat} {unit : Int}
    (h : gridDigits? tie rank num den unit = some digits) : ReadsBack rank (digits, unit) := by
  have hreads {n : Nat} (hpos : 0 < n) (hrank : (rankOfDecimal n unit == rank) = true) :
      ReadsBack rank (n, unit) := ⟨hpos, by rw [← rankOfDecimal_eq hpos]; exact eq_of_beq hrank⟩
  obtain ⟨low, hlow⟩ : ∃ low, low = (inUnits num den unit).1 / (inUnits num den unit).2 := ⟨_, rfl⟩
  simp only [gridDigits?, ← hlow] at h
  split at h
  · cases h
  · rename_i hlowReads hhighReads
    cases h
    obtain ⟨hpos, hrank⟩ := Bool.and_eq_true_iff.mp hlowReads
    exact hreads (of_decide_eq_true hpos) hrank
  · rename_i hlowReads hhighReads
    cases h
    exact hreads (Nat.succ_pos low) hhighReads
  · rename_i hlowReads hhighReads
    obtain ⟨hpos, hrank⟩ := Bool.and_eq_true_iff.mp hlowReads
    obtain hnearer | hnearer := Option.some.inj h ▸ ite_eq_or_eq _ (low + 1) low <;> rw [hnearer]
    · exact hreads (Nat.succ_pos low) hhighReads
    · exact hreads (of_decide_eq_true hpos) hrank

private theorem significand_pos (h : 0 < rank) : 0 < significand rank := by
  rw [significand]
  split
  · exact h
  · exact Nat.add_pos_left (Nat.pow_pos (by decide)) _

/-- The exact digits of a magnitude have its value. -/
private theorem readsBack_exactDigits (h : 0 < rank) : ReadsBack rank (exactDigits rank) := by
  have hsignificand := significand_pos h
  rw [ReadsBack, exactDigits]
  cases hexponent : exponent rank with
  | ofNat e =>
    refine ⟨Nat.mul_pos hsignificand (Nat.pow_pos (by decide)), ?_⟩
    have hvalue : decimalValue (significand rank * twoTo e) 0 = value rank := by
      rw [decimalValue, value, hexponent, zpow_zero, mul_one, Nat.cast_mul, cast_twoTo,
        Int.ofNat_eq_natCast, zpow_natCast]
    rw [hvalue, rankOf_value h]
  | negSucc e =>
    refine ⟨Nat.mul_pos hsignificand (Nat.pow_pos (by decide)), ?_⟩
    have hten : (10 : ℚ) ^ (e + 1) = 5 ^ (e + 1) * 2 ^ (e + 1) := by
      rw [← mul_pow]
      norm_num
    have hvalue : decimalValue (significand rank * Nat.pow 5 (e + 1)) (-(e + 1 : Int)) = value rank := by
      have hfive : ((Nat.pow 5 (e + 1) : Nat) : ℚ) = 5 ^ (e + 1) := Nat.cast_pow 5 (e + 1)
      rw [decimalValue, value, hexponent, ← Int.negSucc_eq, zpow_negSucc, zpow_negSucc, Nat.cast_mul,
        hfive, hten]
      field_simp
    rw [hvalue, rankOf_value h]

private theorem readsBack_shortestFrom (tie : TieRule) (h : 0 < rank) (num den : Nat) (point : Int)
    (grids : Nat) : ReadsBack rank (shortestFrom tie rank num den point grids) := by
  induction grids with
  | zero => exact readsBack_exactDigits h
  | succ grids ih =>
    rw [shortestFrom]
    split
    · rename_i hdigits
      exact readsBack_gridDigits? hdigits
    · exact ih

/-- A zero at the end of digits is worth a place of the unit. -/
private theorem readsBack_dropZeros (fuel : Nat) :
    ∀ digits unit, ReadsBack rank (digits, unit) → ReadsBack rank (dropZeros fuel digits unit) := by
  induction fuel with
  | zero => exact fun _ _ h => h
  | succ fuel ih =>
    intro digits unit h
    rw [dropZeros]
    split
    case isFalse => exact h
    case isTrue hzero =>
      obtain ⟨hmod, hne⟩ := Bool.and_eq_true_iff.mp hzero
      have hten : digits / 10 * tenTo 1 = digits :=
        Nat.div_mul_cancel (Nat.dvd_of_mod_eq_zero (eq_of_beq hmod))
      have hvalue : decimalValue (digits / 10) (unit + 1) = decimalValue digits unit := by
        rw [add_comm, ← Nat.cast_one (R := Int), ← decimalValue_mul_tenTo, hten]
      have hpos : 0 < digits / 10 := by
        have hdigits : 0 < digits := h.1
        have hsplit : digits / 10 * 10 = digits := hten
        omega
      exact ih _ _ ⟨hpos, hvalue ▸ h.2⟩

/-- The shortest digits of a magnitude read back as the magnitude. -/
theorem readsBack_shortest (tie : TieRule) (h : 0 < rank) : ReadsBack rank (shortest tie rank) := by
  rw [shortest, if_neg h.ne']
  exact readsBack_dropZeros 20 _ _ (readsBack_shortestFrom tie h _ _ _ 17)

end Kitchen.Binary64
