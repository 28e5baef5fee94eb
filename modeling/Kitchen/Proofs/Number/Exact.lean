import Kitchen.Number.Binary64

/-!
# Exact numbers

A natural number of 53 bits is the number nearest to it: it is rounded to itself.
-/

namespace Kitchen

theorem twoTo_add (m n : Nat) : twoTo (m + n) = twoTo m * twoTo n := Nat.pow_add 2 m n

theorem twoTo_pos (n : Nat) : 0 < twoTo n := Nat.pow_pos (by decide)

namespace Binary64

variable {n : Nat}

/-- The significand of a number of 53 bits, shifted to its place. -/
private theorem shifted_bounds (hn : n ≠ 0) (hlt : n < twoTo 53) :
    Nat.log2 n ≤ 52 ∧ twoTo 52 ≤ n * twoTo (52 - Nat.log2 n) ∧
      n * twoTo (52 - Nat.log2 n) < twoTo 53 := by
  have hlog : Nat.log2 n < 53 := (Nat.log2_lt hn).mpr hlt
  have hlow : twoTo (Nat.log2 n) ≤ n := Nat.log2_self_le hn
  have hhigh : n < twoTo (Nat.log2 n + 1) := Nat.lt_log2_self
  have hsum : Nat.log2 n + (52 - Nat.log2 n) = 52 := by omega
  have hsum' : Nat.log2 n + 1 + (52 - Nat.log2 n) = 53 := by omega
  refine ⟨by omega, ?_, ?_⟩
  · calc twoTo 52 = twoTo (Nat.log2 n) * twoTo (52 - Nat.log2 n) := by rw [← twoTo_add, hsum]
      _ ≤ n * twoTo (52 - Nat.log2 n) := Nat.mul_le_mul_right _ hlow
  · calc n * twoTo (52 - Nat.log2 n)
        < twoTo (Nat.log2 n + 1) * twoTo (52 - Nat.log2 n) :=
          Nat.mul_lt_mul_of_pos_right hhigh (twoTo_pos _)
      _ = twoTo 53 := by rw [← twoTo_add, hsum']

private theorem divideToEven_one (n : Nat) : divideToEven n 1 = n := by
  rw [divideToEven, Nat.div_one, Nat.mod_one]
  rfl

private theorem roundRank_one (hn : n ≠ 0) (hlt : n < twoTo 53) :
    roundRank n 1 = (1022 + Nat.log2 n) * twoTo 52 + n * twoTo (52 - Nat.log2 n) := by
  obtain ⟨hlog, hlow, _⟩ := shifted_bounds hn hlt
  obtain ⟨shift, hshift⟩ : ∃ shift, shift = 52 - Nat.log2 n := ⟨_, rfl⟩
  rw [← hshift] at hlow ⊢
  have hone : Nat.log2 1 = 0 := by decide
  have hguess : (53 : Int) - ((Nat.log2 n : Int) - Nat.log2 1) = .ofNat (shift + 1) := by
    rw [hone, Int.ofNat_eq_natCast]
    omega
  -- With one place more the significand has 54 bits.
  have hwide : ¬floorShifted n 1 (.ofNat (shift + 1)) < twoTo 53 := by
    have hdouble : n * twoTo (shift + 1) = n * twoTo shift * 2 := by
      rw [twoTo_add, ← Nat.mul_assoc]
    have htwice : twoTo 53 = twoTo 52 * 2 := twoTo_add 52 1
    rw [floorShifted, Nat.div_one, hdouble, htwice]
    omega
  have hfitted : Int.ofNat (shift + 1) - 1 = .ofNat shift := by
    rw [Int.ofNat_eq_natCast, Int.ofNat_eq_natCast]
    omega
  have hmin : min (Int.ofNat shift) 1074 = .ofNat shift := by
    rw [Int.ofNat_eq_natCast]
    omega
  have hexponent : (1074 - Int.ofNat shift).toNat = 1022 + Nat.log2 n := by
    rw [Int.ofNat_eq_natCast]
    omega
  rw [roundRank]
  simp only [hguess, if_neg hwide, hfitted, hmin, hexponent]
  rw [divideShifted, divideToEven_one]

/-- The fraction of a rank with 53 bits in the significand and no larger exponent. -/
private theorem ratio_of_shift {rank m shift : Nat} (hshift : shift ≤ 52) (hlow : twoTo 52 ≤ m)
    (hhigh : m < twoTo 53) (hrank : rank = (1022 + (52 - shift)) * twoTo 52 + m) :
    ratio rank = (m, twoTo shift) := by
  have hwidth : twoTo 52 = 4503599627370496 := by decide
  have hwidth' : twoTo 53 = 9007199254740992 := by decide
  rw [hwidth] at hlow hrank
  rw [hwidth'] at hhigh
  have hsignificand : significand rank = m := by
    rw [significand, hwidth, if_neg (by omega)]
    omega
  have hexponent : exponent rank = -(shift : Int) := by
    rw [exponent, hwidth, if_neg (by omega)]
    omega
  simp only [ratio, hsignificand, hexponent]
  cases shift with
  | zero =>
    change (m * 1, 1) = (m, 1)
    rw [Nat.mul_one]
  | succ shift => rfl

private theorem isWhole_and_truncate_of_ratio {rank : Fin (2047 * twoTo 52)} {den : Nat}
    (hden : 0 < den) (h : ratio rank = (n * den, den)) :
    (finite false rank).isWhole = true ∧ (finite false rank).truncate = n := by
  constructor
  · rw [isWhole, h]
    exact beq_iff_eq.mpr (Nat.mul_mod_left n den)
  · have hfloor : floorMagnitude rank = n := by
      rw [floorMagnitude, h]
      exact Nat.mul_div_cancel n hden
    rw [truncate, hfloor]
    rfl

/-- A natural number of 53 bits is a whole number of its own value. -/
theorem isWhole_and_truncate_ofNat (hlt : n < twoTo 53) :
    (ofNat n).isWhole = true ∧ (ofNat n).truncate = n := by
  by_cases hn : n = 0
  · subst hn
    decide +kernel
  · obtain ⟨hlog, hlow, hhigh⟩ := shifted_bounds hn hlt
    obtain ⟨shift, hshift⟩ : ∃ shift, shift = 52 - Nat.log2 n := ⟨_, rfl⟩
    have hrank := roundRank_one hn hlt
    rw [← hshift] at hlow hhigh hrank
    rw [show Nat.log2 n = 52 - shift by omega] at hrank
    have hfinite : roundRank n 1 < 2047 * twoTo 52 := by
      have hwidth : twoTo 52 = 4503599627370496 := by decide
      have hwidth' : twoTo 53 = 9007199254740992 := by decide
      rw [hwidth] at hrank ⊢
      omega
    have hratio := ratio_of_shift (by omega) hlow hhigh hrank
    have hnumber : ofNat n = .finite false ⟨roundRank n 1, hfinite⟩ := by
      rw [ofNat, ofRatio, if_neg hn, ofRank, dif_pos hfinite]
    rw [hnumber]
    exact isWhole_and_truncate_of_ratio (twoTo_pos shift) hratio

end Binary64
end Kitchen
