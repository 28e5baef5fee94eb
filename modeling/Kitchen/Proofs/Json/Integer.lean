import Kitchen.Json.Printer
import Kitchen.Json.Reader
import Kitchen.Proofs.Number.Digits

/-!
# Integers as JSON

An integer of 64 bits is a document in the same digits.
-/

namespace Kitchen.Json

open Text

/-- No character that could go on with a number comes next. -/
def EndsNumber (s : List Char) : Prop :=
  ∀ c, s.head? = some c → isAsciiDigit c = false ∧ c ≠ '.' ∧ c ≠ 'e' ∧ c ≠ 'E'

theorem endsNumber_nil : EndsNumber [] := by
  intro c hc
  cases hc

/-- A significand is read to its end where 64 bits hold it. -/
theorem readSignificand_eq {s rest : List Char} (hs : AllDigits s) (hrest : EndsNumber rest) {n : Nat}
    (hfits : Nat.ofDigitChars 10 s n < twoTo 64) :
    readSignificand n (s ++ rest) = (Nat.ofDigitChars 10 s n, rest) := by
  induction s generalizing n with
  | nil =>
    cases rest with
    | nil => rfl
    | cons d rest =>
      have hd : isAsciiDigit d = false := (hrest d rfl).1
      rw [List.nil_append, readSignificand, if_neg (by simp [hd])]
      rfl
  | cons c s ih =>
    have hdigit : isAsciiDigit c = true := hs c List.mem_cons_self
    have hnext : 10 * n + (c.toNat - '0'.toNat) = n * 10 + digitValue c := by
      rw [Nat.mul_comm, digitValue]
    rw [Nat.ofDigitChars_cons, hnext] at hfits ⊢
    have hle : n * 10 + digitValue c ≤ Nat.ofDigitChars 10 s (n * 10 + digitValue c) := by
      rw [Nat.ofDigitChars_eq_ofDigitChars_zero]
      exact Nat.le_add_right_of_le (Nat.le_mul_of_pos_left _ (tenTo_pos _))
    rw [List.cons_append, readSignificand, if_pos hdigit, if_pos (Nat.lt_of_le_of_lt hle hfits)]
    exact ih (fun d hd => hs d (List.mem_cons_of_mem c hd)) hfits

/-- Behind its digits a whole number ends where nothing goes on with it. -/
theorem readAfterWhole_of_ends {rest : List Char} (hrest : EndsNumber rest) (negative : Bool) (n : Nat) :
    readAfterWhole negative n rest =
      if negative = false then .ok (.whole n, rest)
      else if n = 0 ∨ twoTo 63 < n then .ok (.binary (-(Binary64.ofNat n)), rest)
      else .ok (.whole (-(n : Int)), rest) := by
  rw [readAfterWhole]
  · rintro r rfl
    exact (hrest '.' rfl).2.1 rfl
  · rintro r rfl
    exact (hrest 'e' rfl).2.2.1 rfl
  · rintro r rfl
    exact (hrest 'E' rfl).2.2.2 rfl

theorem readNumber_toDigits (negative : Bool) {n : Nat} (hn : n < twoTo 64) {rest : List Char}
    (hrest : EndsNumber rest) :
    readNumber negative (Nat.toDigits 10 n ++ rest) = readAfterWhole negative n rest := by
  rcases Nat.eq_zero_or_pos n with rfl | hpos
  · cases rest with
    | nil => rfl
    | cons d rest =>
      have hd : isAsciiDigit d = false := (hrest d rfl).1
      have hdigits : Nat.toDigits 10 0 = ['0'] := rfl
      simp [hdigits, readNumber, hd]
  · have hall := allDigits_toDigits n
    have hhead := head?_toDigits_ne_zero hpos
    have hread : Nat.ofDigitChars 10 (Nat.toDigits 10 n) 0 = n := Nat.ofDigitChars_ten_toDigits
    cases hdigits : Nat.toDigits 10 n with
    | nil => exact absurd hdigits Nat.toDigits_ne_nil
    | cons c s =>
      rw [hdigits] at hall hhead hread
      have hzero : c ≠ '0' := fun hc => hhead (congrArg some hc)
      have hfirst : 10 * 0 + (c.toNat - '0'.toNat) = digitValue c := Nat.zero_add _
      rw [Nat.ofDigitChars_cons, hfirst] at hread
      have hsignificand : readSignificand (digitValue c) (s ++ rest) = (n, rest) := by
        rw [readSignificand_eq (fun d hd => hall d (List.mem_cons_of_mem c hd)) hrest (hread ▸ hn), hread]
      rw [List.cons_append]
      simp only [readNumber.eq_def, if_neg hzero, if_pos (hall c List.mem_cons_self), hsignificand]
      cases rest with
      | nil => rfl
      | cons d rest =>
        have hd : isAsciiDigit d = false := (hrest d rfl).1
        simp [hd]

theorem skipSpace_cons {c : Char} (h : isSpace c = false) (s : List Char) :
    skipSpace (c :: s) = c :: s := by
  rw [skipSpace, List.dropWhile_cons_of_neg (by simp [h])]

theorem isSpace_of_isAsciiDigit {c : Char} (h : isAsciiDigit c = true) : isSpace c = false := by
  have hne (other : Char) (hother : isAsciiDigit other = false) : c ≠ other :=
    ne_of_isAsciiDigit h hother
  simp [isSpace, hne ' ' rfl, hne '\n' rfl, hne '\t' rfl, hne '\r' rfl]

section Values

variable {n : Nat} {rest : List Char} (fuel depth : Nat)

theorem readValue_toDigits (hn : n < twoTo 64) (hrest : EndsNumber rest) :
    readValue (fuel + 1) depth (Nat.toDigits 10 n ++ rest) = .ok (.number (.whole n), rest) := by
  have hall := allDigits_toDigits n
  have hnumber := readNumber_toDigits false hn hrest
  rw [readAfterWhole_of_ends hrest, if_pos rfl] at hnumber
  cases hdigits : Nat.toDigits 10 n with
  | nil => exact absurd hdigits Nat.toDigits_ne_nil
  | cons c s =>
    rw [hdigits] at hall hnumber
    have hdigit := hall c List.mem_cons_self
    rw [List.cons_append] at hnumber ⊢
    rw [readValue, skipSpace_cons (isSpace_of_isAsciiDigit hdigit)]
    split
    -- No value but a number starts with a digit.
    case h_1 =>
      rename_i heq
      cases heq
    case h_9 =>
      rename_i heq
      obtain ⟨rfl, rfl⟩ := List.cons.inj heq
      simp only [if_pos hdigit, hnumber]
      rfl
    all_goals
      rename_i heq
      obtain ⟨rfl, -⟩ := List.cons.inj heq
      exact absurd hdigit (by decide)

theorem readValue_minus_toDigits (hpos : 0 < n) (hn : n ≤ twoTo 63) (hrest : EndsNumber rest) :
    readValue (fuel + 1) depth ('-' :: Nat.toDigits 10 n ++ rest) =
      .ok (.number (.whole (-(n : Int))), rest) := by
  have hwide : n < twoTo 64 := Nat.lt_of_le_of_lt hn (by decide)
  have hnumber := readNumber_toDigits true hwide hrest
  rw [readAfterWhole_of_ends hrest, if_neg (by simp), if_neg (by omega)] at hnumber
  rw [List.cons_append, readValue, skipSpace_cons rfl]
  simp only [hnumber]
  rfl

/-- An integer that 64 bits hold with a sign or without one is read from its digits. -/
theorem readValue_toString {n : Int} (hlo : -(twoTo 63 : Int) ≤ n) (hhi : n < twoTo 64)
    (hrest : EndsNumber rest) :
    readValue (fuel + 1) depth ((toString n).toList ++ rest) = .ok (.number (.whole n), rest) := by
  rw [toList_toString]
  by_cases hneg : n < 0
  · have hmagnitude : -(n.natAbs : Int) = n := by omega
    rw [Decimal.sign, if_pos (by exact hneg), List.singleton_append,
      readValue_minus_toDigits fuel depth (by omega) (by omega) hrest, hmagnitude]
  · have hmagnitude : (n.natAbs : Int) = n := by omega
    rw [Decimal.sign, if_neg (by exact hneg), List.nil_append,
      readValue_toDigits fuel depth (by omega) hrest, hmagnitude]

end Values

/-- An integer of 64 bits is a document in its digits. -/
theorem parse_toString {n : Int} (hlo : -(twoTo 63 : Int) ≤ n) (hhi : n < twoTo 64) :
    parse (toString n) = .ok (.number (.whole n)) := by
  have hvalue := readValue_toString (3 * (toString n).toList.length + 2) depthLimit hlo hhi endsNumber_nil
  rw [List.append_nil] at hvalue
  rw [parse, readDocument, hvalue]
  rfl

end Kitchen.Json
