import Kitchen.Number.Decimal
import Kitchen.Number.Reading
import Kitchen.Text.Blank

/-!
# Digits

The decimal digits of a number and their reading. Digits are read back as the number that they
write, whatever zeros stand before them, and their count bounds the number between powers of ten.
-/

namespace Kitchen

open Text

/-! ## Characters -/

theorem Text.isAsciiDigit_iff {c : Char} : isAsciiDigit c = true ↔ 48 ≤ c.toNat ∧ c.toNat ≤ 57 := by
  simp [isAsciiDigit, Char.le_def, UInt32.le_iff_toNat_le]

theorem Text.ne_of_isAsciiDigit {c other : Char} (h : isAsciiDigit c = true)
    (hother : isAsciiDigit other = false) : c ≠ other := by
  rintro rfl
  rw [h] at hother
  cases hother

theorem Text.isBlank_of_isAsciiDigit {c : Char} (h : isAsciiDigit c = true) : isBlank c = false := by
  obtain ⟨hlo, hhi⟩ := isAsciiDigit_iff.mp h
  simp only [isBlank, CodeRanges.has, blankRanges, CodeRanges.contains]
  rw [if_neg (by omega), if_neg (by omega), if_pos (by omega)]
  simp
  omega

theorem Text.trimChars_eq_self {s : List Char} (h : ∀ c ∈ s, isBlank c = false) :
    trimChars s = s := by
  have hdrop {t : List Char} (ht : ∀ c ∈ t, isBlank c = false) : t.dropWhile isBlank = t := by
    cases t with
    | nil => rfl
    | cons c t => rw [List.dropWhile_cons_of_neg (by simp [ht c])]
  rw [trimChars, hdrop h, hdrop (by simpa using h), List.reverse_reverse]

/-! ## The digits of a number -/

/-- Text that consists of digits. -/
def AllDigits (s : List Char) : Prop := ∀ c ∈ s, isAsciiDigit c = true

theorem AllDigits.append {s t : List Char} (hs : AllDigits s) (ht : AllDigits t) :
    AllDigits (s ++ t) := fun c hc => (List.mem_append.mp hc).elim (hs c) (ht c)

/-- Digits end at the first character that is none. -/
theorem AllDigits.takeWhile_append {s t : List Char} {c : Char} (hs : AllDigits s)
    (hc : isAsciiDigit c = false) : (s ++ c :: t).takeWhile isAsciiDigit = s := by
  rw [List.takeWhile_append_of_pos hs, List.takeWhile_cons_of_neg (by simp [hc]), List.append_nil]

theorem AllDigits.dropWhile_append {s t : List Char} {c : Char} (hs : AllDigits s)
    (hc : isAsciiDigit c = false) : (s ++ c :: t).dropWhile isAsciiDigit = c :: t := by
  rw [List.dropWhile_append_of_pos hs, List.dropWhile_cons_of_neg (by simp [hc])]

theorem allDigits_replicate (zeros : Nat) : AllDigits (List.replicate zeros '0') := by
  intro c hc
  rw [List.eq_of_mem_replicate hc]
  decide

theorem allDigits_toDigits (n : Nat) : AllDigits (Nat.toDigits 10 n) := by
  intro c hc
  have hdigit := Nat.isDigit_of_mem_toDigits (by decide) (by decide) hc
  simp only [Char.isDigit, ge_iff_le, Bool.and_eq_true, decide_eq_true_eq,
    UInt32.le_iff_toNat_le] at hdigit
  exact isAsciiDigit_iff.mpr hdigit

theorem decimalNumber_eq (s : List Char) : decimalNumber s = Nat.ofDigitChars 10 s 0 := by
  simp only [decimalNumber, Nat.ofDigitChars, digitValue, Nat.mul_comm]

theorem decimalNumber_toDigits (n : Nat) : decimalNumber (Nat.toDigits 10 n) = n := by
  rw [decimalNumber_eq, Nat.ofDigitChars_ten_toDigits]

theorem toDigits_injective {n m : Nat} (h : Nat.toDigits 10 n = Nat.toDigits 10 m) : n = m := by
  rw [← decimalNumber_toDigits n, h, decimalNumber_toDigits]

theorem toList_natToString (n : Nat) : (toString n).toList = Nat.toDigits 10 n := Nat.toList_repr

theorem natToString_injective {n m : Nat} (h : toString n = toString m) : n = m := by
  have hlists := congrArg String.toList h
  rw [toList_natToString, toList_natToString] at hlists
  exact toDigits_injective hlists

/-- Zeros in front do not count. -/
theorem decimalNumber_replicate_append (zeros : Nat) (s : List Char) :
    decimalNumber (List.replicate zeros '0' ++ s) = decimalNumber s := by
  rw [decimalNumber_eq, decimalNumber_eq, Nat.ofDigitChars_append, Nat.ofDigitChars_replicate_zero,
    Nat.mul_zero]

theorem tenTo_zero : tenTo 0 = 1 := rfl

theorem tenTo_succ (k : Nat) : tenTo (k + 1) = tenTo k * 10 := rfl

theorem tenTo_pos (k : Nat) : 0 < tenTo k := Nat.pow_pos (by decide)

/-- Multiplied by a power of ten a number gets zeros at its end. -/
theorem toDigits_mul_tenTo {n : Nat} (hn : 0 < n) (k : Nat) :
    Nat.toDigits 10 (n * tenTo k) = Nat.toDigits 10 n ++ List.replicate k '0' := by
  induction k with
  | zero => simp [tenTo]
  | succ k ih =>
    have hpos : 0 < n * tenTo k := Nat.mul_pos hn (tenTo_pos k)
    have hstep := Nat.toDigits_append_toDigits (b := 10) (d := 0) (by decide) hpos (by decide)
    rw [tenTo_succ, ← Nat.mul_assoc, Nat.mul_comm _ 10, ← Nat.add_zero (10 * _), ← hstep, ih,
      List.append_assoc, Nat.toDigits_zero, List.replicate_succ']

theorem decimalNumber_append_replicate (s : List Char) (zeros : Nat) :
    decimalNumber (s ++ List.replicate zeros '0') = decimalNumber s * tenTo zeros := by
  rw [decimalNumber_eq, decimalNumber_eq, Nat.ofDigitChars_append, Nat.ofDigitChars_replicate_zero,
    Nat.mul_comm]
  rfl

/-- A number is below a power of ten if and only if it has no more digits. -/
theorem lt_tenTo_iff {n k : Nat} (hk : 0 < k) : n < tenTo k ↔ (Nat.toDigits 10 n).length ≤ k :=
  (Nat.length_toDigits_le_iff (by decide) hk).symm

/-- A number is no less than the power of ten with as many digits. -/
theorem tenTo_length_toDigits_le {n : Nat} (hn : 0 < n) :
    tenTo ((Nat.toDigits 10 n).length - 1) ≤ n := by
  by_cases hone : (Nat.toDigits 10 n).length = 1
  · rw [hone]
    exact hn
  · have hpos : 0 < (Nat.toDigits 10 n).length := Nat.length_toDigits_pos
    refine Nat.not_lt.mp fun hlt => ?_
    have hle := (lt_tenTo_iff (by omega)).mp hlt
    omega

theorem head?_toDigits_ne_zero {n : Nat} (hn : 0 < n) : (Nat.toDigits 10 n).head? ≠ some '0' := by
  induction n using Nat.strongRecOn with
  | ind n ih =>
    rw [Nat.toDigits_eq_if (by decide)]
    split
    · rename_i hlt
      have hdigit : ∀ m < 10, 0 < m → some m.digitChar ≠ some '0' := by decide
      exact hdigit n hlt hn
    · rw [List.head?_append, Option.or_of_isSome (List.isSome_head?.mpr Nat.toDigits_ne_nil)]
      exact ih (n / 10) (by omega) (by omega)

/-! ## Signs -/

/-- The integer of a sign and a magnitude. -/
def ofSign (negative : Bool) (n : Nat) : Int := if negative then -(n : Int) else n

theorem ofSign_natAbs (n : Int) : ofSign (decide (n < 0)) n.natAbs = n := by
  by_cases hneg : n < 0
  · rw [ofSign, decide_eq_true hneg, if_pos rfl, Int.ofNat_natAbs_of_nonpos (Int.le_of_lt hneg),
      Int.neg_neg]
  · rw [ofSign, decide_eq_false hneg, if_neg Bool.false_ne_true,
      Int.natAbs_of_nonneg (Int.not_lt.mp hneg)]

theorem ofSign_mul (negative : Bool) (n m : Nat) : ofSign negative (n * m) = ofSign negative n * m := by
  cases negative with
  | false => exact Int.natCast_mul n m
  | true =>
    change -((n * m : Nat) : Int) = -(n : Int) * m
    rw [Int.natCast_mul, Int.neg_mul]

/-- A text that begins with a digit has no sign. -/
theorem splitSign_of_digit {s : List Char} {c : Char} (h : s.head? = some c)
    (hdigit : isAsciiDigit c = true) : splitSign s = (false, s) := by
  unfold splitSign
  split
  · exact absurd (Option.some.inj h ▸ hdigit) (by decide)
  · exact absurd (Option.some.inj h ▸ hdigit) (by decide)
  · rfl

theorem AllDigits.splitSign_eq {s : List Char} (h : AllDigits s) : splitSign s = (false, s) := by
  cases s with
  | nil => rfl
  | cons c s => exact splitSign_of_digit rfl (h c List.mem_cons_self)

theorem splitSign_append (d : Decimal) {body : List Char} (hbody : AllDigits body) :
    splitSign (d.sign ++ body) = (decide (d.digits < 0), body) := by
  by_cases hneg : d.digits < 0
  · simp [Decimal.sign, hneg, splitSign]
  · simp [Decimal.sign, hneg, hbody.splitSign_eq]

/-- Digits behind a sign are an exponent. -/
theorem readExponent?_of_splitSign {s body : List Char} {negative : Bool}
    (h : splitSign s = (negative, body)) (hbody : AllDigits body) (hne : body ≠ []) :
    readExponent? s = some (ofSign negative (decimalNumber body)) := by
  have hall : body.all isAsciiDigit = true := List.all_eq_true.mpr hbody
  rw [readExponent?, h]
  simp only [List.isEmpty_eq_false_iff.mpr hne, hall, Bool.not_true, Bool.or_false,
    Bool.false_eq_true, if_false]
  rfl

/-- A written integer is a sign and digits. -/
theorem toList_toString (n : Int) :
    (toString n).toList = (Decimal.ofInt n).sign ++ Nat.toDigits 10 n.natAbs := by
  rw [Int.toString_eq_repr, Int.repr_eq_if]
  by_cases hneg : n < 0
  · have habs : (-n).toNat = n.natAbs := by omega
    rw [if_neg (by omega), habs]
    simp [Decimal.ofInt, Decimal.sign, hneg, Nat.toList_repr]
  · have habs : n.toNat = n.natAbs := by omega
    rw [if_pos (by omega), habs]
    simp [Decimal.ofInt, Decimal.sign, hneg, Nat.toList_repr]

end Kitchen
