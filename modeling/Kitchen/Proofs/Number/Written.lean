import Kitchen.Number.FloatFormat
import Kitchen.Number.Reading
import Kitchen.Proofs.Number.Shortest

/-!
# Written numbers read back

A finite number is read back from its written form, in every format that marks whole numbers. Such a
form is never taken for an integer, since it has a point or an exponent.
-/

namespace Kitchen

open Text

/-! ## Reading digits with a point and an exponent -/

section Reading

variable {whole places : List Char}

private theorem isAsciiDigit_point : isAsciiDigit '.' = false := by decide

private theorem isAsciiDigit_mark : isAsciiDigit 'e' = false := by decide

theorem readDecimal?_point (hwhole : AllDigits whole) (hne : whole ≠ []) (hplaces : AllDigits places) :
    readDecimal? (whole ++ '.' :: places) =
      some (decimalNumber (whole ++ places), -(places.length : Int)) := by
  have htake : places.takeWhile isAsciiDigit = places := List.takeWhile_eq_self_iff.mpr hplaces
  have hdrop : places.dropWhile isAsciiDigit = [] := List.dropWhile_eq_nil_iff.mpr hplaces
  rw [readDecimal?, hwhole.takeWhile_append isAsciiDigit_point,
    hwhole.dropWhile_append isAsciiDigit_point]
  simp [htake, hdrop, hne]

theorem readDecimal?_point_exponent (hwhole : AllDigits whole) (hne : whole ≠ [])
    (hplaces : AllDigits places) {power : List Char} {n : Int} (hpower : readExponent? power = some n) :
    readDecimal? (whole ++ '.' :: places ++ 'e' :: power) =
      some (decimalNumber (whole ++ places), n - places.length) := by
  rw [readDecimal?, List.append_assoc, List.cons_append, hwhole.takeWhile_append isAsciiDigit_point,
    hwhole.dropWhile_append isAsciiDigit_point]
  simp [hplaces.takeWhile_append isAsciiDigit_mark, hplaces.dropWhile_append isAsciiDigit_mark, hne,
    hpower]

theorem readDecimal?_exponent (hwhole : AllDigits whole) (hne : whole ≠ []) {power : List Char} {n : Int}
    (hpower : readExponent? power = some n) :
    readDecimal? (whole ++ 'e' :: power) = some (decimalNumber whole, n) := by
  rw [readDecimal?, hwhole.takeWhile_append isAsciiDigit_mark,
    hwhole.dropWhile_append isAsciiDigit_mark]
  simp [hne, hpower]

end Reading

namespace Binary64

/-- The text of a number with a point or an exponent: no digit stands behind a leading zero. -/
structure IsFraction (s : List Char) : Prop where
  head : ∃ c, s.head? = some c ∧ isAsciiDigit c = true
  zero : ∀ c rest, s = '0' :: c :: rest → c = '.'
  mark : ∃ c ∈ s, c = '.' ∨ c = 'e'
  chars : ∀ c ∈ s, isAsciiDigit c = true ∨ c = '.' ∨ c = 'e' ∨ c = '+' ∨ c = '-'

section Shapes

variable {whole tail : List Char}

/-- Digits with a point or an exponent somewhere behind them. -/
private theorem isFraction_append (hwhole : AllDigits whole) (hne : whole ≠ [])
    (hzero : (whole = ['0'] ∧ tail.head? = some '.') ∨ whole.head? ≠ some '0')
    (hmark : ∃ c ∈ tail, c = '.' ∨ c = 'e')
    (hchars : ∀ c ∈ tail, isAsciiDigit c = true ∨ c = '.' ∨ c = 'e' ∨ c = '+' ∨ c = '-') :
    IsFraction (whole ++ tail) where
  head := by
    cases whole with
    | nil => exact absurd rfl hne
    | cons c whole => exact ⟨c, rfl, hwhole c List.mem_cons_self⟩
  zero c rest h := by
    obtain ⟨rfl, hpoint⟩ | hzero := hzero
    · obtain rfl := (List.cons.inj h).2
      exact Option.some.inj hpoint
    · cases whole with
      | nil => exact absurd rfl hne
      | cons d whole => exact absurd (congrArg some (List.cons.inj h).1) hzero
  mark := by
    obtain ⟨c, hc, hcase⟩ := hmark
    exact ⟨c, List.mem_append_right _ hc, hcase⟩
  chars c hc := (List.mem_append.mp hc).elim (fun h => .inl (hwhole c h)) (hchars c)

private theorem isFraction_point (hwhole : AllDigits whole) (hne : whole ≠ []) (htail : AllDigits tail)
    (hzero : whole = ['0'] ∨ whole.head? ≠ some '0') : IsFraction (whole ++ '.' :: tail) := by
  refine isFraction_append hwhole hne (hzero.imp (⟨·, rfl⟩) id) ⟨'.', by simp, .inl rfl⟩ ?_
  intro c hc
  rcases List.mem_cons.mp hc with hc | hc
  · exact .inr (.inl hc)
  · exact .inl (htail c hc)

end Shapes

/-! ## Reading magnitudes -/

/-- A text writes a magnitude as a fraction. -/
structure Writes (rank : Nat) (s : List Char) : Prop where
  isFraction : IsFraction s
  reads : ∃ decimal, readDecimal? s = some decimal ∧
    ((rank = 0 ∧ decimal.1 = 0) ∨ ReadsBack rank decimal)

section Magnitudes

variable {rank n : Nat} {point : Int}

private theorem allDigits_zero : AllDigits ['0'] := allDigits_replicate 1

private theorem writes_zero : Writes 0 ['0', '.', '0'] where
  isFraction := isFraction_point allDigits_zero (by decide) allDigits_zero (.inl rfl)
  reads := ⟨(0, -1), by decide, .inl ⟨rfl, rfl⟩⟩

/-- Digits on both sides of a point write the magnitude that they read back as. -/
private theorem writes_point {whole places : List Char} (hwhole : AllDigits whole) (hne : whole ≠ [])
    (hplaces : AllDigits places) (hzero : whole = ['0'] ∨ whole.head? ≠ some '0')
    (h : ReadsBack rank (decimalNumber (whole ++ places), -(places.length : Int))) :
    Writes rank (whole ++ ['.'] ++ places) := by
  rw [List.append_assoc]
  exact ⟨isFraction_point hwhole hne hplaces hzero, _, readDecimal?_point hwhole hne hplaces, .inr h⟩

/-- Digits written out with a point write the magnitude that they read back as. -/
private theorem writes_positional (h : ReadsBack rank (n, point - (Nat.toDigits 10 n).length)) :
    Writes rank (positional true (Nat.toDigits 10 n) point) := by
  obtain ⟨digits, hdigits⟩ : ∃ digits, digits = Nat.toDigits 10 n := ⟨_, rfl⟩
  have hall : AllDigits digits := hdigits ▸ allDigits_toDigits n
  have hnumber : decimalNumber digits = n := hdigits ▸ decimalNumber_toDigits n
  have hlong : 0 < digits.length := hdigits ▸ Nat.length_toDigits_pos
  have hhead : digits.head? ≠ some '0' := hdigits ▸ head?_toDigits_ne_zero h.1
  rw [← hdigits] at h ⊢
  rw [positional]
  by_cases hsmall : point ≤ 0
  · -- Zeros stand between the point and the digits.
    have hplaces : AllDigits (List.replicate point.natAbs '0' ++ digits) :=
      (allDigits_replicate _).append hall
    have hread : decimalNumber (['0'] ++ (List.replicate point.natAbs '0' ++ digits)) = n := by
      rw [← List.append_assoc, ← List.replicate_one, List.replicate_append_replicate,
        decimalNumber_replicate_append, hnumber]
    have hunit : -((List.replicate point.natAbs '0' ++ digits).length : Int) = point - digits.length := by
      rw [List.length_append, List.length_replicate]
      omega
    rw [if_pos hsmall, List.append_assoc, ← List.singleton_append (l := ['.'])]
    exact writes_point allDigits_zero (List.cons_ne_nil _ _) hplaces (.inl rfl) (by rwa [hread, hunit])
  by_cases hinside : point.toNat < digits.length
  · -- The point stands among the digits.
    have hwhole : AllDigits (digits.take point.toNat) := fun c hc => hall c (List.mem_of_mem_take hc)
    have hplaces : AllDigits (digits.drop point.toNat) := fun c hc => hall c (List.mem_of_mem_drop hc)
    have hne : digits.take point.toNat ≠ [] := by
      rw [← List.length_pos_iff, List.length_take]
      omega
    have hread : decimalNumber (digits.take point.toNat ++ digits.drop point.toNat) = n := by
      rw [List.take_append_drop, hnumber]
    have hunit : -((digits.drop point.toNat).length : Int) = point - digits.length := by
      rw [List.length_drop]
      omega
    have hzero : (digits.take point.toNat).head? ≠ some '0' := by
      rwa [List.head?_take, if_neg (by omega)]
    simp only [if_neg hsmall, if_pos hinside]
    exact writes_point hwhole hne hplaces (.inr hzero) (by rwa [hread, hunit])
  · -- Zeros stand between the digits and the point.
    obtain ⟨zeros, hzeros⟩ : ∃ zeros, zeros = point.toNat - digits.length := ⟨_, rfl⟩
    have hwhole : AllDigits (digits ++ List.replicate zeros '0') := hall.append (allDigits_replicate _)
    have hread : decimalNumber (digits ++ List.replicate zeros '0' ++ ['0']) = n * tenTo (zeros + 1) := by
      rw [List.append_assoc, ← List.replicate_one, List.replicate_append_replicate,
        decimalNumber_append_replicate, hnumber]
    have hunit : ((zeros + 1 : Nat) : Int) + -1 = point - digits.length := by omega
    have hzero : (digits ++ List.replicate zeros '0').head? ≠ some '0' := by
      rwa [List.head?_append, Option.or_of_isSome (by simp; exact List.ne_nil_of_length_pos hlong)]
    simp only [if_neg hsmall, if_neg hinside, ← hzeros, if_true]
    rw [← List.singleton_append, ← List.append_assoc]
    refine writes_point hwhole (List.append_ne_nil_of_left_ne_nil (List.ne_nil_of_length_pos hlong) _)
      allDigits_zero (.inr hzero) ?_
    rw [hread]
    refine ⟨Nat.mul_pos h.1 (tenTo_pos _), ?_⟩
    rw [List.length_singleton, decimalValue_mul_tenTo, Nat.cast_one, hunit]
    exact h.2

/-- The sign of a power. -/
private theorem powerSign_cases (signs : Bool) (power : Int) :
    ∃ sign : List Char, (if power < 0 then ['-'] else if signs then ['+'] else []) = sign ∧
      (∀ c ∈ sign, c = '+' ∨ c = '-') ∧
      splitSign (sign ++ Nat.toDigits 10 power.natAbs) =
        (decide (power < 0), Nat.toDigits 10 power.natAbs) := by
  refine ⟨_, rfl, ?_, ?_⟩
  · split
    · simp
    · cases signs <;> simp
  · by_cases hneg : power < 0
    · rw [if_pos hneg, decide_eq_true hneg]
      rfl
    · rw [if_neg hneg, decide_eq_false hneg]
      cases signs with
      | true => rfl
      | false => exact (allDigits_toDigits _).splitSign_eq

/-- A first digit with an exponent behind it, and a point and the other digits between. -/
private theorem writes_scientific (signs : Bool)
    (h : ReadsBack rank (n, point - (Nat.toDigits 10 n).length)) :
    Writes rank (scientific signs (Nat.toDigits 10 n) point) := by
  obtain ⟨sign, hsign, hsignChars, hsplit⟩ := powerSign_cases signs (point - 1)
  have hpowerDigits := allDigits_toDigits (point - 1).natAbs
  have hpower := readExponent?_of_splitSign hsplit hpowerDigits Nat.toDigits_ne_nil
  rw [decimalNumber_toDigits, ofSign_natAbs] at hpower
  have hchars : ∀ c ∈ 'e' :: (sign ++ Nat.toDigits 10 (point - 1).natAbs),
      isAsciiDigit c = true ∨ c = '.' ∨ c = 'e' ∨ c = '+' ∨ c = '-' := by
    intro c hc
    rcases List.mem_cons.mp hc with hc | hc
    · exact .inr (.inr (.inl hc))
    rcases List.mem_append.mp hc with hc | hc
    · exact .inr (.inr (.inr (hsignChars c hc)))
    · exact .inl (hpowerDigits c hc)
  have hall := allDigits_toDigits n
  have hnumber := decimalNumber_toDigits n
  have hhead := head?_toDigits_ne_zero h.1
  rw [scientific.eq_def]
  simp only [hsign]
  rw [List.append_assoc, List.append_assoc, List.singleton_append]
  obtain ⟨d, places, hdigits⟩ : ∃ d places, Nat.toDigits 10 n = d :: places :=
    List.exists_cons_of_ne_nil Nat.toDigits_ne_nil
  rw [hdigits] at h hall hnumber hhead ⊢
  cases places with
  | nil =>
    refine ⟨isFraction_append hall (List.cons_ne_nil _ _) (.inr hhead) ⟨'e', by simp, .inr rfl⟩ hchars,
      _, readDecimal?_exponent hall (List.cons_ne_nil _ _) hpower, .inr ?_⟩
    rw [hnumber]
    exact h
  | cons e rest =>
    have hwhole : AllDigits [d] := fun c hc => hall c (List.mem_cons.mpr (.inl (List.mem_singleton.mp hc)))
    have hplaces : AllDigits (e :: rest) := fun c hc => hall c (List.mem_cons_of_mem d hc)
    have hread := readDecimal?_point_exponent hwhole (List.cons_ne_nil _ _) hplaces hpower
    have hunit : point - 1 - ((e :: rest).length : Int) = point - (d :: e :: rest).length := by
      simp only [List.length_cons]
      omega
    have hdigits : decimalNumber ([d] ++ e :: rest) = n := hnumber
    rw [hdigits, hunit, List.append_assoc] at hread
    have htail : ∀ c ∈ '.' :: (e :: rest) ++ 'e' :: (sign ++ Nat.toDigits 10 (point - 1).natAbs),
        isAsciiDigit c = true ∨ c = '.' ∨ c = 'e' ∨ c = '+' ∨ c = '-' := by
      intro c hc
      rcases List.mem_append.mp hc with hc | hc
      · rcases List.mem_cons.mp hc with hc | hc
        · exact .inr (.inl hc)
        · exact .inl (hplaces c hc)
      · exact hchars c hc
    have hfraction := isFraction_append hwhole (List.cons_ne_nil _ _) (.inr hhead)
      ⟨'.', by simp, .inl rfl⟩ htail
    exact ⟨hfraction, _, hread, .inr h⟩

end Magnitudes

/-- The written form of a magnitude is a fraction that reads back as the magnitude. -/
theorem writes_magnitude {format : FloatFormat} (hmarks : format.marksWhole = true) (rank : Nat) :
    Writes rank (format.magnitude rank) := by
  rw [FloatFormat.magnitude]
  by_cases hzero : rank = 0
  · rw [if_pos hzero, if_pos hmarks, hzero]
    exact writes_zero
  · have h := readsBack_shortest format.tie (Nat.pos_of_ne_zero hzero)
    have hunit : ((Nat.toDigits 10 (shortest format.tie rank).1).length + (shortest format.tie rank).2 -
      (Nat.toDigits 10 (shortest format.tie rank).1).length : Int) = (shortest format.tie rank).2 := by omega
    rw [if_neg hzero]
    simp only [hmarks]
    exact iteInduction (fun _ => writes_scientific _ (by rwa [hunit]))
      (fun _ => writes_positional (by rwa [hunit]))

/-! ## Reading numbers -/

/-- A text that begins with a digit is no word. -/
private theorem not_word {s : List Char} (h : IsFraction s) {word : String}
    (hword : word.toList.head?.all (!isAsciiDigit ·) = true) : isWordInAnyCase word s = false := by
  obtain ⟨c, hhead, hdigit⟩ := h.head
  have hlower : c.toLower = c := by
    have hbelow : ¬ 'A'.val ≤ c.val := by
      have hrange := isAsciiDigit_iff.mp hdigit
      have hletter : 'A'.val.toNat = 65 := rfl
      rw [UInt32.le_iff_toNat_le, hletter]
      exact Nat.not_le.mpr (Nat.lt_of_le_of_lt hrange.2 (by decide))
    exact dif_neg fun h => hbelow h.1
  refine beq_eq_false_iff_ne.mpr fun heq => ?_
  rw [← heq, List.head?_map, hhead, Option.map_some, hlower, Option.all_some, hdigit] at hword
  cases hword

/-- A finite number is read back from its written form. -/
theorem ofChars?_chars {format : FloatFormat} (hmarks : format.marksWhole = true) {x : Binary64}
    (hfinite : x.isFinite = true) : ofChars? (format.chars x) = some x := by
  cases x with
  | nan => cases hfinite
  | infinite negative => cases hfinite
  | finite negative rank =>
    obtain ⟨hfraction, ⟨digits, unit⟩, hread, hrank⟩ := writes_magnitude hmarks rank.val
    have hsplit : splitSign ((if negative then ['-'] else []) ++ format.magnitude rank) =
        (negative, format.magnitude rank) := by
      obtain ⟨c, hhead, hdigit⟩ := hfraction.head
      cases negative with
      | false => exact splitSign_of_digit hhead hdigit
      | true => rfl
    have hnan : isWordInAnyCase "nan" (format.magnitude rank) = false := not_word hfraction (by decide)
    have hinf : isWordInAnyCase "inf" (format.magnitude rank) = false := not_word hfraction (by decide)
    have hinfinity : isWordInAnyCase "infinity" (format.magnitude rank) = false :=
      not_word hfraction (by decide)
    have hnumber : ofDecimal negative digits unit = .finite negative rank := by
      rcases hrank with ⟨hrank, hdigits⟩ | hreads
      · obtain rfl : digits = 0 := hdigits
        obtain rfl : rank = ⟨0, by decide⟩ := Fin.ext hrank
        rfl
      · rw [ofDecimal_eq hreads.1, hreads.2, ofRank, dif_pos rank.isLt]
    rw [FloatFormat.chars, ofChars?, hsplit]
    simp only [hnan, hinf, hinfinity, hread, Bool.false_or, Bool.false_eq_true, if_false, Option.map_some,
      hnumber]

end Binary64
end Kitchen
