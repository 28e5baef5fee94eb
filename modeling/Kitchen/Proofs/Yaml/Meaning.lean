import Kitchen.Proofs.Number.Written
import Kitchen.Yaml.Resolution

/-!
# Plain scalars that write numbers

The written form of a finite number stands for the number, and the digits of a natural number for
that one. No such text is taken for anything else.
-/

namespace Kitchen.Yaml

open Text

/-! ## Words -/

/-- A text begins with a digit, or with a sign and a digit. -/
def startsNumber (s : List Char) : Bool := (dropSign s).head?.any isAsciiDigit

/-- What begins like a number is none of some words that do not. -/
theorem not_contains_of_startsNumber {words : List String} {s : List Char} (hs : startsNumber s = true)
    (hwords : words.all (!startsNumber ·.toList) = true) : words.contains (String.ofList s) = false := by
  rw [List.contains_eq_mem, decide_eq_false_iff_not]
  intro hmem
  have hword := List.all_eq_true.mp hwords _ hmem
  rw [String.toList_ofList, hs] at hword
  cases hword

theorem dropSign_of_digit {s : List Char} {c : Char} (h : s.head? = some c) (hc : isAsciiDigit c = true) :
    dropSign s = s := by
  unfold dropSign
  split
  · exact absurd (Option.some.inj h ▸ hc) (by decide)
  · exact absurd (Option.some.inj h ▸ hc) (by decide)
  · rfl

theorem startsNumber_of_digit {s : List Char} {c : Char} (h : s.head? = some c) (hc : isAsciiDigit c = true) :
    startsNumber s = true := by
  rw [startsNumber, dropSign_of_digit h hc, h]
  exact hc

section Fractions

variable {s : List Char} (h : Binary64.IsFraction s) (negative : Bool)

include h

private theorem ne_of_head {c : Char} (hc : isAsciiDigit c = false) (rest : List Char) : s ≠ c :: rest := by
  obtain ⟨d, hhead, hdigit⟩ := h.head
  rintro rfl
  obtain rfl := Option.some.inj hhead
  rw [hc] at hdigit
  cases hdigit

private theorem dropSign_signed : dropSign ((if negative then ['-'] else []) ++ s) = s := by
  cases negative with
  | true => rfl
  | false =>
    obtain ⟨c, hhead, hdigit⟩ := h.head
    exact dropSign_of_digit hhead hdigit

theorem startsNumber_signed : startsNumber ((if negative then ['-'] else []) ++ s) = true := by
  obtain ⟨c, hhead, hdigit⟩ := h.head
  rw [startsNumber, dropSign_signed h, hhead]
  exact hdigit

private theorem based?_fraction : based? s = none := by
  unfold based?
  split
  · exact absurd (h.zero _ _ rfl) (by decide)
  · exact absurd (h.zero _ _ rfl) (by decide)
  · exact absurd (h.zero _ _ rfl) (by decide)
  · rfl

private theorem hasLeadingZero_signed :
    hasLeadingZero ((if negative then ['-'] else []) ++ s) = false := by
  rw [hasLeadingZero, dropSign_signed h]
  split
  · rename_i c rest heq
    obtain rfl := h.zero _ _ rfl
    rfl
  · rfl

private theorem digits?_fraction : digits? 10 s = none := by
  obtain ⟨c, hc, hmark⟩ := h.mark
  have hbad : (isHexDigit c && decide (hexValue c < 10)) = false := by
    rcases hmark with rfl | rfl <;> decide
  have hall : s.all (fun c => isHexDigit c && decide (hexValue c < 10)) = false :=
    List.all_eq_false.mpr ⟨c, hc, by simp [hbad]⟩
  rw [digits?, hall, Bool.and_false]
  rfl

private theorem natural?_signed : natural? ((if negative then ['-'] else []) ++ s) = none := by
  cases negative with
  | true =>
    have hdigits : digits? 10 ('-' :: s) = none := rfl
    simp [natural?, based?, hdigits]
  | false =>
    rw [if_neg Bool.false_ne_true, List.nil_append]
    unfold natural?
    split
    · exact absurd rfl (ne_of_head h (by decide) _)
    · simp [based?_fraction h, digits?_fraction h]

private theorem negative?_signed : negative? ((if negative then ['-'] else []) ++ s) = none := by
  cases negative with
  | true => simp [negative?, based?_fraction h, digits?_fraction h]
  | false =>
    rw [if_neg Bool.false_ne_true, List.nil_append]
    unfold negative?
    split
    · exact absurd rfl (ne_of_head h (by decide) _)
    · rfl

private theorem integer?_signed : integer? ((if negative then ['-'] else []) ++ s) = none := by
  rw [integer?, natural?_signed h, negative?_signed h]
  rfl

private theorem float?_signed {x : Binary64} (hfinite : x.isFinite = true)
    (hread : Binary64.ofChars? ((if negative then ['-'] else []) ++ s) = some x) :
    float? ((if negative then ['-'] else []) ++ s) = some x := by
  have hnumber := startsNumber_signed h negative
  obtain ⟨t, ht⟩ : ∃ t, t = (if negative then ['-'] else []) ++ s := ⟨_, rfl⟩
  rw [← ht] at hread hnumber ⊢
  have hplus (rest : List Char) : t ≠ '+' :: rest := by
    rw [ht]
    cases negative with
    | true => simp
    | false => exact ne_of_head h (by decide) _
  have hinf : [".inf", ".Inf", ".INF"].contains (String.ofList t) = false :=
    not_contains_of_startsNumber hnumber (by decide)
  have hminus : ["-.inf", "-.Inf", "-.INF"].contains (String.ofList t) = false :=
    not_contains_of_startsNumber hnumber (by decide)
  have hnan : [".nan", ".NaN", ".NAN"].contains (String.ofList t) = false :=
    not_contains_of_startsNumber hnumber (by decide)
  have hhead : t.head? ≠ some '+' := fun hc =>
    have ⟨rest, hrest⟩ := List.head?_eq_some_iff.mp hc
    hplus rest hrest
  unfold float?
  split
  · exact absurd rfl (hplus _)
  · simp only [hinf, hminus, hnan, hhead, hread]
    simp [hfinite]

end Fractions

/-- The written form of a finite number stands for the number. -/
theorem meaning_float {x : Binary64} (hfinite : x.isFinite = true) :
    meaning (Binary64.yaml.text x) = .float x := by
  have hread : Binary64.ofChars? (Binary64.yaml.chars x) = some x :=
    Binary64.ofChars?_chars rfl hfinite
  cases x with
  | nan => cases hfinite
  | infinite negative => cases hfinite
  | finite negative rank =>
    have hfraction := 
      (Binary64.writes_magnitude rfl rank.val : Binary64.Writes _ (Binary64.yaml.magnitude rank)).isFraction
    obtain ⟨s, hs⟩ : ∃ s, s = Binary64.yaml.chars (.finite negative rank) := ⟨_, rfl⟩
    have hnumber : startsNumber s = true := hs ▸ startsNumber_signed hfraction negative
    have hinteger : integer? s = none := hs ▸ integer?_signed hfraction negative
    have hzero : hasLeadingZero s = false := hs ▸ hasLeadingZero_signed hfraction negative
    have hfloat : float? s = some (.finite negative rank) :=
      hs ▸ float?_signed hfraction negative hfinite hread
    have hnull : isNull (String.ofList s) = false := not_contains_of_startsNumber hnumber (by decide)
    have hbool : bool? (String.ofList s) = none := by
      rw [bool?, not_contains_of_startsNumber hnumber (by decide),
        not_contains_of_startsNumber hnumber (by decide)]
      rfl
    have hempty : s.isEmpty = false := by
      cases s with
      | nil => cases hnumber
      | cons c s => rfl
    rw [Binary64.FloatFormat.text, ← hs]
    simp only [meaning, String.toList_ofList, hempty, hnull, hbool, hinteger, hzero, hfloat,
      Bool.or_false, Bool.false_eq_true, if_false]

/-! ## Natural numbers -/

private theorem digits?_of_allDigits {s : List Char} (h : AllDigits s) (hne : s ≠ []) :
    digits? 10 s = some (decimalNumber s) := by
  have hvalue (c : Char) (hc : c ∈ s) : hexValue c = digitValue c := if_pos (h c hc)
  have hall : s.all (fun c => isHexDigit c && decide (hexValue c < 10)) = true := by
    refine List.all_eq_true.mpr fun c hc => ?_
    have hdigit := h c hc
    have hrange := isAsciiDigit_iff.mp hdigit
    have hsmall : digitValue c < 10 := by
      have hcode : '0'.toNat = 48 := rfl
      rw [digitValue, hcode]
      omega
    simp [isHexDigit, hdigit, hvalue c hc, hsmall]
  have hfold : s.foldl (fun n c => n * 10 + hexValue c) 0 = decimalNumber s :=
    List.foldl_ext _ _ 0 fun n c hc => by rw [hvalue c hc]
  rw [digits?, hall, List.isEmpty_eq_false_iff.mpr hne, hfold]
  rfl

/-- The digits of a natural number write the number. -/
theorem natural?_toString (n : Nat) : natural? (toString n).toList = some n := by
  obtain ⟨s, hs⟩ : ∃ s, s = Nat.toDigits 10 n := ⟨_, rfl⟩
  have hdigits : AllDigits s := hs ▸ allDigits_toDigits n
  have hbased : based? s = none := by
    unfold based?
    split
    · exact absurd (hdigits 'x' (by simp)) (by decide)
    · exact absurd (hdigits 'o' (by simp)) (by decide)
    · exact absurd (hdigits 'b' (by simp)) (by decide)
    · rfl
  have hzero : hasLeadingZero s = false := by
    obtain ⟨c, rest, hcons⟩ := List.exists_cons_of_ne_nil (hs ▸ Nat.toDigits_ne_nil)
    have hhead : s.head? = some c := by rw [hcons]; rfl
    rw [hasLeadingZero, dropSign_of_digit hhead (hdigits c (List.mem_of_mem_head? hhead))]
    split
    · rename_i c rest
      obtain rfl | hpos := Nat.eq_zero_or_pos n
      · cases hs
      · exact absurd (congrArg List.head? hs.symm) (head?_toDigits_ne_zero hpos)
    · rfl
  have hread : digits? 10 s = some n := by
    rw [hs, digits?_of_allDigits (allDigits_toDigits n) Nat.toDigits_ne_nil, decimalNumber_toDigits]
  rw [toList_natToString, ← hs]
  unfold natural?
  split
  · exact absurd (hdigits '+' (by simp)) (by decide)
  · simp [hbased, hzero, hread]

end Kitchen.Yaml
