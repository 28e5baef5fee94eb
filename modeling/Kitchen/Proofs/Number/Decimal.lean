import Kitchen.Proofs.Number.Digits
import Mathlib.Data.List.TakeWhile

/-!
# Reading written decimals

The written form of a decimal is read back, whatever its scale: as the same digits and scale, but for
zeros that have been written out before the point, which have become digits.
-/

namespace Kitchen

open Text

/-! ## Digits behind a sign -/

private theorem readDigits?_eq (s : List Char) :
    Decimal.readDigits? s =
      if (splitSign s).2.isEmpty || (splitSign s).2.head? == some '_' then none
      else if ((splitSign s).2.filter (· != '_')).all isAsciiDigit then
        some (ofSign (splitSign s).1 (decimalNumber ((splitSign s).2.filter (· != '_'))))
      else none := rfl

private theorem readPower?_eq (s : List Char) :
    Decimal.readPower? s =
      if (splitSign s).2.isEmpty || !(splitSign s).2.all isAsciiDigit then none
      else if -(twoTo 127 : Int) ≤ ofSign (splitSign s).1 (decimalNumber (splitSign s).2) ∧
          ofSign (splitSign s).1 (decimalNumber (splitSign s).2) < twoTo 127 then
        some (ofSign (splitSign s).1 (decimalNumber (splitSign s).2))
      else none := rfl

private theorem readInteger?_eq (s : List Char) :
    readInteger? s =
      if (splitSign s).2.isEmpty || !(splitSign s).2.all isAsciiDigit then none
      else some (ofSign (splitSign s).1 (decimalNumber (splitSign s).2)) := rfl

private theorem readInteger?_eq_none {s : List Char} {c : Char} (h : c ∈ s)
    (hdigit : isAsciiDigit c = false) (hminus : c ≠ '-') (hplus : c ≠ '+') :
    readInteger? s = none := by
  have hmem : c ∈ (splitSign s).2 := by
    unfold splitSign
    split
    · exact (List.mem_cons.mp h).resolve_left hminus
    · exact (List.mem_cons.mp h).resolve_left hplus
    · exact h
  have hall : (splitSign s).2.all isAsciiDigit = false :=
    List.all_eq_false.mpr ⟨c, hmem, by simp [hdigit]⟩
  simp only [readInteger?, readExponent?, hall, Bool.not_false, Bool.or_true, if_true]

private theorem readDigits?_of_allDigits {s : List Char} (h : AllDigits (splitSign s).2)
    (hne : (splitSign s).2 ≠ []) :
    Decimal.readDigits? s = some (ofSign (splitSign s).1 (decimalNumber (splitSign s).2)) := by
  have hunderscore (c : Char) (hc : c ∈ (splitSign s).2) : c ≠ '_' :=
    ne_of_isAsciiDigit (h c hc) (by decide)
  have hall : (splitSign s).2.all isAsciiDigit = true := List.all_eq_true.mpr h
  have hfilter : (splitSign s).2.filter (· != '_') = (splitSign s).2 :=
    List.filter_eq_self.mpr fun c hc => bne_iff_ne.mpr (hunderscore c hc)
  have hhead : ((splitSign s).2.head? == some '_') = false := by
    cases hbody : (splitSign s).2 with
    | nil => rfl
    | cons c rest => simpa using hunderscore c (by simp [hbody])
  rw [readDigits?_eq]
  simp only [List.isEmpty_eq_false_iff.mpr hne, hhead, Bool.or_false, Bool.false_eq_true, if_false,
    hfilter, hall, if_true]

section Signed

variable {d : Decimal} {body : List Char}

theorem readInteger?_append (hbody : AllDigits body) (hne : body ≠ []) :
    readInteger? (d.sign ++ body) = some (ofSign (decide (d.digits < 0)) (decimalNumber body)) :=
  readExponent?_of_splitSign (splitSign_append d hbody) hbody hne

private theorem readDigits?_append (hbody : AllDigits body) (hne : body ≠ []) :
    Decimal.readDigits? (d.sign ++ body) =
      some (ofSign (decide (d.digits < 0)) (decimalNumber body)) := by
  have hsplit := splitSign_append d hbody
  rw [readDigits?_of_allDigits (by rwa [hsplit]) (by rwa [hsplit]), hsplit]

end Signed

private theorem readPower?_toString {n : Int} (hlo : -(twoTo 127 : Int) ≤ n) (hhi : n < twoTo 127) :
    Decimal.readPower? (toString n).toList = some n := by
  have hdigits := allDigits_toDigits n.natAbs
  have hall : (Nat.toDigits 10 n.natAbs).all isAsciiDigit = true := List.all_eq_true.mpr hdigits
  have hsign : ofSign (decide ((Decimal.ofInt n).digits < 0)) n.natAbs = n := ofSign_natAbs n
  rw [toList_toString, readPower?_eq, splitSign_append _ hdigits]
  simp only [List.isEmpty_eq_false_iff.mpr Nat.toDigits_ne_nil, hall, Bool.not_true, Bool.or_false,
    Bool.false_eq_true, if_false, decimalNumber_toDigits, hsign]
  rw [if_pos ⟨hlo, hhi⟩]

namespace Decimal

/-! ## Mantissa and exponent -/

section Mantissa

variable {s : List Char}

private theorem ofChars?_mantissa (hs : ∀ c ∈ s, isExponentMark c = false) (hne : s ≠ [])
    (hscale : isScale (splitPoint s).2 = true) :
    ofChars? s = (readDigits? (splitPoint s).1).map fun digits => ⟨digits, (splitPoint s).2⟩ := by
  have htake : s.takeWhile (!isExponentMark ·) = s :=
    List.takeWhile_eq_self_iff.mpr fun c hc => by rw [hs c hc]; rfl
  have hdrop : s.dropWhile (!isExponentMark ·) = [] :=
    List.dropWhile_eq_nil_iff.mpr fun c hc => by rw [hs c hc]; rfl
  unfold ofChars?
  simp only [htake, hdrop, Int.sub_zero, Option.bind_some, Option.bind_eq_bind, hscale]
  simp only [List.isEmpty_eq_false_iff.mpr hne, Bool.false_eq_true, if_false, Bool.not_true,
    Option.pure_def]
  cases readDigits? (splitPoint s).1 <;> rfl

private theorem ofChars?_exponent (hs : ∀ c ∈ s, isExponentMark c = false) (hne : s ≠ [])
    {exponent : List Char} {power : Int} (hpower : readPower? exponent = some power)
    (hscale : isScale ((splitPoint s).2 - power) = true) :
    ofChars? (s ++ 'E' :: exponent) =
      (readDigits? (splitPoint s).1).map fun digits => ⟨digits, (splitPoint s).2 - power⟩ := by
  have hmark : (!isExponentMark 'E') = false := rfl
  have htake : (s ++ 'E' :: exponent).takeWhile (!isExponentMark ·) = s := by
    rw [List.takeWhile_append_of_pos fun c hc => by rw [hs c hc]; rfl,
      List.takeWhile_cons_of_neg (by rw [hmark]; simp), List.append_nil]
  have hdrop : (s ++ 'E' :: exponent).dropWhile (!isExponentMark ·) = 'E' :: exponent := by
    rw [List.dropWhile_append_of_pos fun c hc => by rw [hs c hc]; rfl,
      List.dropWhile_cons_of_neg (by rw [hmark]; simp)]
  unfold ofChars?
  simp only [htake, hdrop, hpower, Option.bind_some, Option.bind_eq_bind, hscale]
  simp only [List.isEmpty_eq_false_iff.mpr hne, Bool.false_eq_true, if_false, Bool.not_true,
    Option.pure_def]
  cases readDigits? (splitPoint s).1 <;> rfl

private theorem splitPoint_eq_self (hs : ∀ c ∈ s, c ≠ '.') : splitPoint s = (s, 0) := by
  have htake : s.takeWhile (· != '.') = s :=
    List.takeWhile_eq_self_iff.mpr fun c hc => bne_iff_ne.mpr (hs c hc)
  have hdrop : s.dropWhile (· != '.') = [] :=
    List.dropWhile_eq_nil_iff.mpr fun c hc => bne_iff_ne.mpr (hs c hc)
  simp only [splitPoint, htake, hdrop]

private theorem splitPoint_append {places : List Char} (hs : ∀ c ∈ s, c ≠ '.')
    (hplaces : ∀ c ∈ places, c ≠ '_') :
    splitPoint (s ++ '.' :: places) = (s ++ places, places.length) := by
  have htake : (s ++ '.' :: places).takeWhile (· != '.') = s := by
    rw [List.takeWhile_append_of_pos fun c hc => bne_iff_ne.mpr (hs c hc),
      List.takeWhile_cons_of_neg (by simp), List.append_nil]
  have hdrop : (s ++ '.' :: places).dropWhile (· != '.') = '.' :: places := by
    rw [List.dropWhile_append_of_pos fun c hc => bne_iff_ne.mpr (hs c hc),
      List.dropWhile_cons_of_neg (by simp)]
  have hfilter : places.filter (· != '_') = places :=
    List.filter_eq_self.mpr fun c hc => bne_iff_ne.mpr (hplaces c hc)
  simp only [splitPoint, htake, hdrop, hfilter]

end Mantissa

/-! ## Written forms -/

/-- The decimal that the written form of a decimal shows: zeros that are written out before the point
are digits. -/
def writtenOut (d : Decimal) : Decimal :=
  match d.scale with
  | .ofNat _ => d
  | .negSucc zeros =>
    if zeros + 1 ≤ positionalLimit then ⟨d.digits * tenTo (zeros + 1), 0⟩ else d

private theorem mem_sign_append {d : Decimal} {body : List Char} (hbody : AllDigits body) {c : Char}
    (h : c ∈ d.sign ++ body) : isAsciiDigit c = true ∨ c = '-' := by
  rcases List.mem_append.mp h with hsign | hdigit
  · unfold sign at hsign
    split at hsign
    · exact .inr (List.mem_singleton.mp hsign)
    · simp at hsign
  · exact .inl (hbody c hdigit)

private theorem ne_of_signed {c other : Char} (h : isAsciiDigit c = true ∨ c = '-')
    (hdigit : isAsciiDigit other = false) (hminus : other ≠ '-') : c ≠ other := by
  rcases h with h | rfl
  · exact ne_of_isAsciiDigit h hdigit
  · exact hminus.symm

private theorem isExponentMark_of_signed {c : Char} (h : isAsciiDigit c = true ∨ c = '-') :
    isExponentMark c = false := by
  have hlower : c ≠ 'e' := ne_of_signed h (by decide) (by decide)
  have hupper : c ≠ 'E' := ne_of_signed h (by decide) (by decide)
  simp [isExponentMark, hlower, hupper]

private theorem isScale_of_le {n : Nat} (h : n ≤ positionalLimit) : isScale n = true := by
  have hlimit : (positionalLimit : Int) < twoTo 63 := by decide
  simp only [isScale, Bool.and_eq_true, decide_eq_true_eq]
  omega

theorem isScale_ofInt (n : Int) : isScale (ofInt n).scale = true := isScale_of_le (Nat.zero_le _)

/-- What is read as an integer is read as the decimal of this integer. -/
theorem ofChars?_of_readInteger? {s : List Char} {n : Int} (h : readInteger? s = some n) :
    ofChars? s = some (ofInt n) := by
  rw [readInteger?_eq] at h
  split at h
  · cases h
  rename_i hdigits
  obtain rfl := Option.some.inj h
  simp only [Bool.or_eq_true, List.isEmpty_iff, Bool.not_eq_true', not_or, Bool.not_eq_false] at hdigits
  obtain ⟨hne, hall⟩ := hdigits
  have hbody : AllDigits (splitSign s).2 := List.all_eq_true.mp hall
  have hmem (c : Char) (hc : c ∈ s) : c = '-' ∨ c = '+' ∨ isAsciiDigit c = true := by
    have hsplit : s = '-' :: (splitSign s).2 ∨ s = '+' :: (splitSign s).2 ∨ s = (splitSign s).2 := by
      unfold splitSign
      split <;> simp
    rcases hsplit with hs | hs | hs <;> rw [hs] at hc
    · exact (List.mem_cons.mp hc).imp_right fun hd => .inr (hbody c hd)
    · exact .inr ((List.mem_cons.mp hc).imp_right (hbody c))
    · exact .inr (.inr (hbody c hc))
  have hother (c other : Char) (hc : c ∈ s) (hdigit : isAsciiDigit other = false)
      (hminus : other ≠ '-') (hplus : other ≠ '+') : c ≠ other := by
    rcases hmem c hc with rfl | rfl | hd
    · exact hminus.symm
    · exact hplus.symm
    · exact ne_of_isAsciiDigit hd hdigit
  have hmark (c : Char) (hc : c ∈ s) : isExponentMark c = false := by
    have hlower := hother c 'e' hc (by decide) (by decide) (by decide)
    have hupper := hother c 'E' hc (by decide) (by decide) (by decide)
    simp [isExponentMark, hlower, hupper]
  have hpoint : splitPoint s = (s, 0) :=
    splitPoint_eq_self fun c hc => hother c '.' hc (by decide) (by decide) (by decide)
  have hs : s ≠ [] := by
    rintro rfl
    exact hne rfl
  rw [ofChars?_mantissa hmark hs (by rw [hpoint]; exact isScale_of_le (Nat.zero_le _)), hpoint,
    readDigits?_of_allDigits hbody hne]
  rfl

/-- A whole number is read back from its sign and digits. -/
private theorem ofChars?_whole {d : Decimal} {body : List Char} (hbody : AllDigits body)
    (hne : body ≠ []) :
    ofChars? (d.sign ++ body) =
      some ⟨ofSign (decide (d.digits < 0)) (decimalNumber body), 0⟩ := by
  have hsigned (c : Char) (hc : c ∈ d.sign ++ body) := mem_sign_append hbody hc
  have hpoint : splitPoint (d.sign ++ body) = (d.sign ++ body, 0) :=
    splitPoint_eq_self fun c hc => ne_of_signed (hsigned c hc) (by decide) (by decide)
  rw [ofChars?_mantissa (fun c hc => isExponentMark_of_signed (hsigned c hc)) (by simp [hne])]
  · rw [hpoint, readDigits?_append hbody hne]
    rfl
  · rw [hpoint]
    exact isScale_of_le (Nat.zero_le _)

/-- A number with places is read back from its sign and the digits around the point. -/
private theorem ofChars?_places {d : Decimal} {whole places : List Char}
    (hwhole : AllDigits whole) (hplaces : AllDigits places) (hne : whole ≠ [])
    (hscale : isScale places.length = true) :
    ofChars? (d.sign ++ whole ++ '.' :: places) =
      some ⟨ofSign (decide (d.digits < 0)) (decimalNumber (whole ++ places)), places.length⟩ := by
  have hsigned (c : Char) (hc : c ∈ d.sign ++ whole) := mem_sign_append hwhole hc
  have hdigits := hwhole.append hplaces
  have hpoint : splitPoint (d.sign ++ whole ++ '.' :: places) =
      (d.sign ++ whole ++ places, places.length) :=
    splitPoint_append (fun c hc => ne_of_signed (hsigned c hc) (by decide) (by decide))
      fun c hc => ne_of_signed (.inl (hplaces c hc)) (by decide) (by decide)
  rw [ofChars?_mantissa _ (by simp)]
  · rw [hpoint, List.append_assoc, readDigits?_append hdigits (by simp [hne])]
    rfl
  · rw [hpoint]
    exact hscale
  · intro c hc
    rcases List.mem_append.mp hc with hc | hc
    · exact isExponentMark_of_signed (hsigned c hc)
    · rcases List.mem_cons.mp hc with rfl | hc
      · rfl
      · exact isExponentMark_of_signed (.inl (hplaces c hc))

private theorem ofSign_magnitude (d : Decimal) :
    ofSign (decide (d.digits < 0)) (decimalNumber d.magnitude) = d.digits := by
  rw [magnitude, decimalNumber_toDigits, ofSign_natAbs]

private theorem allDigits_magnitude (d : Decimal) : AllDigits d.magnitude := allDigits_toDigits _

private theorem magnitude_ne_nil (d : Decimal) : d.magnitude ≠ [] := Nat.toDigits_ne_nil

/-- Digits and an exponent are read back. -/
private theorem ofChars?_scientific {d : Decimal} (h : isScale d.scale = true) :
    ofChars? (d.sign ++ d.magnitude ++ ['E'] ++ (toString (-d.scale)).toList) = some d := by
  have hsigned (c : Char) (hc : c ∈ d.sign ++ d.magnitude) :=
    mem_sign_append (allDigits_magnitude d) hc
  have hpoint : splitPoint (d.sign ++ d.magnitude) = (d.sign ++ d.magnitude, 0) :=
    splitPoint_eq_self fun c hc => ne_of_signed (hsigned c hc) (by decide) (by decide)
  have hscale : -(twoTo 63 : Int) ≤ d.scale ∧ d.scale < twoTo 63 := by
    simpa [isScale] using h
  have hwide : (twoTo 63 : Int) < twoTo 127 := by decide
  have hpower : readPower? (toString (-d.scale)).toList = some (-d.scale) :=
    readPower?_toString (by omega) (by omega)
  have hback : ((0 : Nat) : Int) - -d.scale = d.scale := by omega
  rw [List.append_assoc _ ['E'], List.singleton_append,
    ofChars?_exponent (fun c hc => isExponentMark_of_signed (hsigned c hc))
      (by simp [magnitude_ne_nil]) hpower]
  · rw [hpoint, readDigits?_append (allDigits_magnitude d) (magnitude_ne_nil d), hback,
      Option.map_some, ofSign_magnitude]
  · rw [hpoint, hback]
    exact h

/-- The digits with zeros in front, so many that one stands before the point. -/
private def padded (d : Decimal) (places : Nat) : List Char :=
  List.replicate (places + 1 - d.magnitude.length) '0' ++ d.magnitude

private theorem allDigits_padded (d : Decimal) (places : Nat) : AllDigits (d.padded places) :=
  (allDigits_replicate _).append (allDigits_magnitude d)

private theorem lt_length_padded (d : Decimal) (places : Nat) : places < (d.padded places).length := by
  rw [padded, List.length_append, List.length_replicate]
  omega

section Forms

variable {d : Decimal}

private theorem positional_whole (h : d.scale = .ofNat 0) : d.positional = d.sign ++ d.magnitude := by
  simp only [positional, h]

private theorem positional_places {places : Nat} (h : d.scale = .ofNat (places + 1)) :
    d.positional =
      d.sign ++ (d.padded (places + 1)).take ((d.padded (places + 1)).length - (places + 1)) ++
        '.' :: (d.padded (places + 1)).drop ((d.padded (places + 1)).length - (places + 1)) := by
  simp only [positional, h, padded, List.append_assoc, List.singleton_append]

private theorem positional_zeros {zeros : Nat} (h : d.scale = .negSucc zeros) :
    d.positional = d.sign ++ (d.magnitude ++ List.replicate (zeros + 1) '0') := by
  simp only [positional, h]

theorem writtenOut_of_nonneg (h : 0 ≤ d.scale) : d.writtenOut = d := by
  unfold writtenOut
  split
  · rfl
  · omega

theorem writtenOut_of_limit_lt (h : positionalLimit < d.scale.natAbs) : d.writtenOut = d := by
  unfold writtenOut
  split
  · rfl
  · rw [if_neg (by omega)]

theorem writtenOut_of_zeros {zeros : Nat} (h : d.scale = .negSucc zeros)
    (hlimit : zeros + 1 ≤ positionalLimit) :
    d.writtenOut = ⟨d.digits * tenTo (zeros + 1), 0⟩ := by
  simp only [writtenOut, h, if_pos hlimit]

/-- What is written out of a decimal: itself, or the zeros that its scale asks for. -/
theorem writtenOut_cases (d : Decimal) :
    d.writtenOut = d ∨ ∃ zeros, d.scale = .negSucc zeros ∧ zeros + 1 ≤ positionalLimit ∧
      d.writtenOut = ⟨d.digits * tenTo (zeros + 1), 0⟩ := by
  cases hscale : d.scale with
  | ofNat places => exact .inl (writtenOut_of_nonneg (hscale ▸ Int.natCast_nonneg places))
  | negSucc zeros =>
    by_cases hlimit : zeros + 1 ≤ positionalLimit
    · exact .inr ⟨zeros, rfl, hlimit, writtenOut_of_zeros hscale hlimit⟩
    · refine .inl (writtenOut_of_limit_lt ?_)
      rw [hscale, Int.natAbs_negSucc]
      exact Nat.not_le.mp hlimit

private theorem ofChars?_positional_places {places : Nat} (h : d.scale = .ofNat (places + 1))
    (hlimit : places + 1 ≤ positionalLimit) : ofChars? d.positional = some d := by
  have hdigits := allDigits_padded d (places + 1)
  have hlong := lt_length_padded d (places + 1)
  have hback : ofSign (decide (d.digits < 0)) (decimalNumber (d.padded (places + 1))) = d.digits := by
    rw [padded, decimalNumber_replicate_append, ofSign_magnitude]
  rw [positional_places h]
  generalize hwhole : (d.padded (places + 1)).length - (places + 1) = whole
  have hplaces : ((d.padded (places + 1)).drop whole).length = places + 1 := by
    rw [List.length_drop]
    omega
  -- The padding leaves a digit before the point.
  have hne : (d.padded (places + 1)).take whole ≠ [] := by
    refine List.ne_nil_of_length_pos ?_
    rw [List.length_take]
    omega
  rw [ofChars?_places (fun c hc => hdigits c (List.mem_of_mem_take hc))
    (fun c hc => hdigits c (List.mem_of_mem_drop hc)) hne, hplaces, List.take_append_drop, hback]
  · rw [show ((places + 1 : Nat) : Int) = d.scale from h.symm]
  · rw [hplaces]
    exact isScale_of_le hlimit

private theorem ofChars?_positional_zeros {zeros : Nat} (h : d.scale = .negSucc zeros) :
    ofChars? d.positional = some ⟨d.digits * tenTo (zeros + 1), 0⟩ := by
  have hdigits := (allDigits_magnitude d).append (allDigits_replicate (zeros + 1))
  have hback : ofSign (decide (d.digits < 0)) (decimalNumber d.magnitude * tenTo (zeros + 1)) =
      d.digits * tenTo (zeros + 1) := by
    rw [ofSign_mul, ofSign_magnitude]
  rw [positional_zeros h, ofChars?_whole hdigits (by simp), decimalNumber_append_replicate, hback]

/-- What a written decimal shows is read from it. -/
theorem ofChars?_chars (h : isScale d.scale = true) : ofChars? d.chars = some d.writtenOut := by
  unfold chars
  by_cases hlimit : d.scale.natAbs ≤ positionalLimit
  · rw [if_pos hlimit]
    cases hscale : d.scale with
    | ofNat places =>
      rw [hscale, Int.ofNat_eq_natCast, Int.natAbs_natCast] at hlimit
      rw [writtenOut_of_nonneg (hscale ▸ Int.natCast_nonneg places)]
      cases places with
      | zero =>
        rw [positional_whole hscale, ofChars?_whole (allDigits_magnitude d) (magnitude_ne_nil d),
          ofSign_magnitude, show (0 : Int) = d.scale from hscale.symm]
      | succ places => exact ofChars?_positional_places hscale hlimit
    | negSucc zeros =>
      rw [hscale, Int.natAbs_negSucc] at hlimit
      rw [writtenOut_of_zeros hscale hlimit, ofChars?_positional_zeros hscale]
  · rw [if_neg hlimit, ofChars?_scientific h, writtenOut_of_limit_lt (Nat.not_le.mp hlimit)]

theorem chars_whole (h : d.scale = 0) : d.chars = d.sign ++ d.magnitude := by
  rw [chars, if_pos (by rw [h]; exact Nat.zero_le _), positional_whole h]

private theorem chars_zeros {zeros : Nat} (h : d.scale = .negSucc zeros)
    (hlimit : zeros + 1 ≤ positionalLimit) :
    d.chars = d.sign ++ (d.magnitude ++ List.replicate (zeros + 1) '0') := by
  rw [chars, if_pos (by rw [h]; exact hlimit), positional_zeros h]

/-- Zeros that are digits are written like zeros that are none, but behind a zero. -/
theorem chars_writtenOut (h : d.digits ≠ 0) : d.writtenOut.chars = d.chars := by
  obtain hsame | ⟨zeros, hscale, hlimit, hzeros⟩ := d.writtenOut_cases
  · rw [hsame]
  · have hpos : (0 : Int) < tenTo (zeros + 1) := Int.natCast_pos.mpr (tenTo_pos _)
    have hsign : d.digits * tenTo (zeros + 1) < 0 ↔ d.digits < 0 := by
      constructor
      · intro hneg
        exact Int.not_le.mp fun hle =>
          absurd (Int.mul_nonneg hle (Int.le_of_lt hpos)) (Int.not_le.mpr hneg)
      · exact fun hneg => Int.mul_neg_of_neg_of_pos hneg hpos
    have habs : (d.digits * tenTo (zeros + 1)).natAbs = d.digits.natAbs * tenTo (zeros + 1) := by
      rw [Int.natAbs_mul, Int.natAbs_natCast]
    rw [hzeros, chars_whole rfl, chars_zeros hscale hlimit, sign, sign, magnitude, magnitude, habs,
      toDigits_mul_tenTo (Int.natAbs_pos.mpr h), if_congr hsign rfl rfl]

private theorem mem_chars_of_places (h : 0 < d.scale ∨ positionalLimit < d.scale.natAbs) :
    '.' ∈ d.chars ∨ 'E' ∈ d.chars := by
  unfold chars
  by_cases hlimit : d.scale.natAbs ≤ positionalLimit
  · rw [if_pos hlimit]
    obtain ⟨places, hplaces⟩ : ∃ places : Nat, d.scale = .ofNat (places + 1) :=
      ⟨d.scale.toNat - 1, by rw [Int.ofNat_eq_natCast]; omega⟩
    rw [positional_places hplaces]
    exact .inl (by simp)
  · rw [if_neg hlimit]
    exact .inr (by simp)

private theorem mem_chars {c : Char} (h : c ∈ d.chars) :
    isAsciiDigit c = true ∨ c = '-' ∨ c = '.' ∨ c = 'E' := by
  have hsigned {e : Decimal} {body : List Char} (hbody : AllDigits body) (hc : c ∈ e.sign ++ body) :
      isAsciiDigit c = true ∨ c = '-' ∨ c = '.' ∨ c = 'E' :=
    (mem_sign_append hbody hc).imp_right .inl
  unfold chars at h
  by_cases hlimit : d.scale.natAbs ≤ positionalLimit
  · rw [if_pos hlimit] at h
    cases hscale : d.scale with
    | ofNat places =>
      cases places with
      | zero =>
        rw [positional_whole hscale] at h
        exact hsigned (allDigits_magnitude d) h
      | succ places =>
        have hdigits := allDigits_padded d (places + 1)
        rw [positional_places hscale, List.mem_append, List.mem_cons] at h
        rcases h with h | h | h
        · exact hsigned (fun c hc => hdigits c (List.mem_of_mem_take hc)) h
        · exact .inr (.inr (.inl h))
        · exact .inl (hdigits c (List.mem_of_mem_drop h))
    | negSucc zeros =>
      rw [positional_zeros hscale] at h
      exact hsigned ((allDigits_magnitude d).append (allDigits_replicate _)) h
  · rw [if_neg hlimit, toList_toString] at h
    rcases List.mem_append.mp h with h | h
    · rcases List.mem_append.mp h with h | h
      · exact hsigned (allDigits_magnitude d) h
      · exact .inr (.inr (.inr (List.mem_singleton.mp h)))
    · exact hsigned (allDigits_toDigits _) h

theorem trimChars_chars (d : Decimal) : trimChars d.chars = d.chars := by
  refine trimChars_eq_self fun c hc => ?_
  rcases mem_chars hc with h | rfl | rfl | rfl
  · exact isBlank_of_isAsciiDigit h
  · decide
  · decide
  · decide

theorem chars_ne_nil (h : isScale d.scale = true) : d.chars ≠ [] := by
  intro hnil
  have hread := ofChars?_chars h
  rw [hnil] at hread
  exact absurd hread (by simp [ofChars?])

/-- A written decimal is read as an integer where it shows one. -/
theorem readInteger?_chars (d : Decimal) :
    readInteger? d.chars =
      if 0 < d.scale ∨ positionalLimit < d.scale.natAbs then none
      else some (d.digits * tenTo d.scale.natAbs) := by
  split
  · rename_i hplaces
    rcases mem_chars_of_places hplaces with hmem | hmem
    · exact readInteger?_eq_none hmem (by decide) (by decide) (by decide)
    · exact readInteger?_eq_none hmem (by decide) (by decide) (by decide)
  · rename_i hplaces
    cases hscale : d.scale with
    | ofNat places =>
      obtain rfl : places = 0 := by
        rw [hscale, Int.ofNat_eq_natCast] at hplaces
        omega
      rw [chars_whole hscale, readInteger?_append (allDigits_magnitude d) (magnitude_ne_nil d),
        ofSign_magnitude]
      exact congrArg some (Int.mul_one _).symm
    | negSucc zeros =>
      rw [hscale, Int.natAbs_negSucc] at hplaces
      have hdigits := (allDigits_magnitude d).append (allDigits_replicate (zeros + 1))
      rw [chars_zeros hscale (by omega), readInteger?_append hdigits (by simp),
        decimalNumber_append_replicate, ofSign_mul, ofSign_magnitude]
      rfl

end Forms

/-! ## Whole values -/

theorem fitsInt64_iff {n : Int} : fitsInt64 n = true ↔ -(twoTo 63 : Int) ≤ n ∧ n < twoTo 63 := by
  rw [fitsInt64, Bool.and_eq_true, decide_eq_true_iff, decide_eq_true_iff]

private theorem not_fitsInt64 {n : Int} (h : tenTo 19 ≤ n.natAbs) : fitsInt64 n = false := by
  have hwide : twoTo 63 < tenTo 19 := by decide
  refine Bool.eq_false_iff.mpr fun hfits => ?_
  obtain ⟨hlo, hhi⟩ := fitsInt64_iff.mp hfits
  omega

/-- A difference that is kept within 64 bits is as wide as the difference itself. -/
theorem integerWidth_lt_saturatingSub {m n : Int} :
    integerWidth < saturatingSub m n ↔ integerWidth < m - n := by
  have hbound : ((twoTo 63 : Nat) : Int) = 9223372036854775808 := rfl
  rw [integerWidth, saturatingSub, hbound]
  omega

/-- A decimal without places is an integer of 64 bits or too large. -/
theorem toInteger_of_nonpos {d : Decimal} (zeros : Nat) (h : d.scale = -(zeros : Int)) :
    d.toInteger =
      if fitsInt64 (d.digits * tenTo zeros) then .integer (d.digits * tenTo zeros)
      else .tooLarge := by
  have hfits (n : Int) : (if -(twoTo 63 : Int) ≤ n ∧ n < twoTo 63 then ToInteger.integer n
      else .tooLarge) = if fitsInt64 n then .integer n else .tooLarge :=
    if_congr fitsInt64_iff.symm rfl rfl
  unfold toInteger
  by_cases hzero : d.digits = 0
  · rw [if_pos hzero, hzero, Int.zero_mul]
    rfl
  · have hlow : tenTo (d.magnitude.length - 1) ≤ d.digits.natAbs :=
      tenTo_length_toDigits_le (Int.natAbs_pos.mpr hzero)
    have hlen : 0 < d.magnitude.length := List.length_pos_iff.mpr (magnitude_ne_nil d)
    simp only [if_neg hzero, integerWidth_lt_saturatingSub]
    by_cases hwide : integerWidth < d.magnitude.length - d.scale
    -- So many digits and zeros are too large for 64 bits whatever they are.
    · rw [if_pos hwide, if_neg]
      refine Bool.eq_false_iff.mp (not_fitsInt64 ?_)
      have hwidth : 19 ≤ d.magnitude.length - 1 + zeros := by
        rw [integerWidth] at hwide
        omega
      calc tenTo 19 ≤ tenTo (d.magnitude.length - 1 + zeros) := Nat.pow_le_pow_right (by decide) hwidth
        _ = tenTo (d.magnitude.length - 1) * tenTo zeros := Nat.pow_add _ _ _
        _ ≤ d.digits.natAbs * tenTo zeros := Nat.mul_le_mul_right _ hlow
        _ = (d.digits * tenTo zeros).natAbs := by rw [Int.natAbs_mul, Int.natAbs_natCast]
    · rw [if_neg hwide, if_neg (by omega)]
      cases hscale : d.scale with
      | ofNat places =>
        obtain ⟨rfl, rfl⟩ : places = 0 ∧ zeros = 0 := by
          rw [hscale, Int.ofNat_eq_natCast] at h
          omega
        simp only [tenTo_zero, Nat.mod_one, if_true, Int.natCast_one, Int.tdiv_one, Int.mul_one]
        exact hfits _
      | negSucc more =>
        obtain rfl : zeros = more + 1 := by
          rw [hscale] at h
          omega
        exact hfits _

theorem toInteger_writtenOut (d : Decimal) : d.writtenOut.toInteger = d.toInteger := by
  obtain hsame | ⟨zeros, hscale, _, hzeros⟩ := d.writtenOut_cases
  · rw [hsame]
  · rw [hzeros, toInteger_of_nonpos 0 rfl, toInteger_of_nonpos (zeros + 1) hscale, tenTo_zero,
      Int.natCast_one, Int.mul_one]

end Decimal

end Kitchen
