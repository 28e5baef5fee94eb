import Kitchen.Proofs.Dish.Hub
import Kitchen.Proofs.Number.Value

/-!
# Integers of 64 bits

A decimal or a text becomes a number exactly where its value is an integer of 64 bits. The reader of
plain digits comes before the reader of decimals and never decides by itself; the widths that are
compared before the value is worked out rule out no integer.
-/

namespace Kitchen

open Text

namespace Dish

theorem wholeOfDecimal_eq_ok_iff {value : Decimal} {n : Int64} :
    wholeOfDecimal value = .ok n ↔ value.value = n.toInt := by
  have hlo : -(twoTo 63 : Int) ≤ n.toInt := n.le_toInt
  have hhi : n.toInt < (twoTo 63 : Int) := n.toInt_lt
  constructor
  · intro h
    rw [wholeOfDecimal] at h
    cases hwhole : value.toInteger with
    | tooLarge => rw [hwhole] at h; cases h
    | notWhole => rw [hwhole] at h; cases h
    | integer k =>
      rw [hwhole] at h
      cases h
      obtain ⟨hvalue, hlo, hhi⟩ := Decimal.toInteger_eq_integer_iff.mp hwhole
      rw [Int64.toInt_ofInt_of_le hlo hhi]
      exact hvalue
  · intro h
    rw [wholeOfDecimal, Decimal.toInteger_eq_integer_iff.mpr ⟨h, hlo, hhi⟩]
    exact congrArg Except.ok n.ofInt_toInt

/-- A text without content writes zero, and any other text the value of the decimal in it. -/
def WritesWhole (text : String) (n : Int64) : Prop :=
  trimChars text.toList = [] ∧ n = 0 ∨
    ∃ value, Decimal.ofChars? (trimChars text.toList) = some value ∧ value.value = n.toInt

theorem readWhole_of_eq_nil {text : String} (h : trimChars text.toList = []) :
    readWhole text = .ok 0 := by
  simp only [readWhole, h, List.isEmpty_nil, if_true]

/-- Where plain digits are read first, the decimal in the text has the same value. -/
theorem readWhole_of_ofChars? {text : String} {value : Decimal}
    (h : Decimal.ofChars? (trimChars text.toList) = some value) :
    readWhole text = wholeOfDecimal value := by
  have hbody : trimChars text.toList ≠ [] := fun hnone => by
    rw [hnone] at h
    cases h
  simp only [readWhole, List.isEmpty_eq_false_iff.mpr hbody, Bool.false_eq_true, if_false]
  cases hdigits : readInt64? (trimChars text.toList) with
  | none => simp only [h]
  | some k =>
    obtain ⟨hread, hfits⟩ := Option.filter_eq_some_iff.mp hdigits
    obtain rfl : Decimal.ofInt k = value :=
      Option.some.inj ((Decimal.ofChars?_of_readInteger? hread).symm.trans h)
    rw [wholeOfDecimal, Decimal.toInteger_of_nonpos 0 rfl]
    simp only [Decimal.ofInt, tenTo_zero, Int.natCast_one, Int.mul_one, hfits, if_true]

theorem readWhole_eq_ok_iff {text : String} {n : Int64} :
    readWhole text = .ok n ↔ WritesWhole text n := by
  by_cases hbody : trimChars text.toList = []
  · have hnone : Decimal.ofChars? (trimChars text.toList) = none := by rw [hbody]; rfl
    rw [readWhole_of_eq_nil hbody, WritesWhole, hnone]
    simp only [hbody, true_and, reduceCtorEq, false_and, exists_false, or_false]
    exact ⟨fun h => (Except.ok.inj h).symm, fun h => congrArg Except.ok h.symm⟩
  cases hvalue : Decimal.ofChars? (trimChars text.toList) with
  | some value =>
    rw [readWhole_of_ofChars? hvalue, wholeOfDecimal_eq_ok_iff, WritesWhole, hvalue]
    simp only [hbody, false_and, false_or, Option.some.injEq, exists_eq_left']
  | none =>
    have hdigits : readInt64? (trimChars text.toList) = none := by
      cases hread : readInt64? (trimChars text.toList) with
      | none => rfl
      | some k =>
        rw [Decimal.ofChars?_of_readInteger? (Option.filter_eq_some_iff.mp hread).1] at hvalue
        cases hvalue
    have hrefused : readWhole text = .error (.notNumber (String.ofList (trimChars text.toList))) := by
      simp only [readWhole, List.isEmpty_eq_false_iff.mpr hbody, Bool.false_eq_true, if_false, hdigits,
        hvalue]
    rw [hrefused, WritesWhole, hvalue]
    simp only [hbody, reduceCtorEq, false_and, exists_false, or_self]

section Conversions

variable {read : Except ContentFault Int64} {source : Kind}

private theorem convert_eq_ok_iff (n : Int64) :
    (read.map number).mapError (DishError.malformed source .number) = .ok (number n) ↔
      read = .ok n := by
  constructor
  · intro h
    cases read with
    | error fault => cases h
    | ok k =>
      cases h
      rfl
  · intro h
    rw [h]
    rfl

private theorem malformed_of_forall_ne (h : ∀ n : Int64, read ≠ .ok n) :
    ∃ fault, (read.map number).mapError (DishError.malformed source .number) =
      .error (.malformed source .number fault) := by
  cases read with
  | error fault => exact ⟨fault, rfl⟩
  | ok k => exact absurd rfl (h k)

end Conversions

/-- Decimals and texts become numbers exactly where they stand for an integer of 64 bits, and are
refused as malformed where they stand for none. -/
theorem convert_number_iff :
    (∀ (value : Decimal) (n : Int64),
      (bigNumber value).convert .number = .ok (number n) ↔ value.value = n.toInt) ∧
    (∀ value : Decimal,
      (∀ k : Int, -(twoTo 63 : Int) ≤ k → k < twoTo 63 → value.value ≠ k) →
        ∃ fault, (bigNumber value).convert .number = .error (.malformed .bigNumber .number fault)) ∧
    (∀ (text : String) (n : Int64),
      (string text).convert .number = .ok (number n) ↔ WritesWhole text n) ∧
    ∀ text : String, (∀ n : Int64, ¬ WritesWhole text n) →
      ∃ fault, (string text).convert .number = .error (.malformed .string .number fault) := by
  refine ⟨fun value n => ?_, fun value hnone => ?_, fun text n => ?_, fun text hnone => ?_⟩
  · exact (convert_eq_ok_iff n).trans wholeOfDecimal_eq_ok_iff
  · refine malformed_of_forall_ne fun n h => ?_
    exact hnone n.toInt n.le_toInt n.toInt_lt (wholeOfDecimal_eq_ok_iff.mp h)
  · exact (convert_eq_ok_iff n).trans readWhole_eq_ok_iff
  · exact malformed_of_forall_ne fun n h => hnone n (readWhole_eq_ok_iff.mp h)

/-- The least integer of 64 bits with a place behind the point, and the next one after the greatest. -/
theorem convert_number_iff_bounds :
    (bigNumber ⟨-92233720368547758080, 1⟩).convert .number = .ok (number (-9223372036854775808)) ∧
    (∃ fault, (bigNumber ⟨9223372036854775808, 0⟩).convert .number =
      .error (.malformed .bigNumber .number fault)) ∧
    (string " 9.2e1 ").convert .number = .ok (number 92) ∧
    ∃ fault, (string "0x10").convert .number = .error (.malformed .string .number fault) := by
  refine ⟨(convert_number_iff.1 _ _).mpr ?_, convert_number_iff.2.1 _ ?_,
    (convert_number_iff.2.2.1 _ _).mpr ?_, convert_number_iff.2.2.2 _ ?_⟩
  · have hleast : (-9223372036854775808 : Int64).toInt = -9223372036854775808 := by decide
    rw [hleast, Decimal.value]
    norm_num
  · intro k _ hhi h
    rw [show (⟨9223372036854775808, 0⟩ : Decimal) = .ofInt 9223372036854775808 from rfl,
      Decimal.value_ofInt, Int.cast_inj] at h
    have hbound : ((twoTo 63 : Nat) : Int) = 9223372036854775808 := rfl
    omega
  · have hread : Decimal.ofChars? (trimChars " 9.2e1 ".toList) = some ⟨92, 0⟩ := by decide
    refine .inr ⟨⟨92, 0⟩, hread, ?_⟩
    exact Decimal.value_ofInt 92
  · have hread : Decimal.ofChars? (trimChars "0x10".toList) = none := by decide
    have hbody : trimChars "0x10".toList ≠ [] := by decide
    rintro n (⟨hnone, -⟩ | ⟨value, hvalue, -⟩)
    · exact hbody hnone
    · rw [hread] at hvalue
      cases hvalue

end Dish
end Kitchen
