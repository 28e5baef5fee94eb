import Kitchen.Json.Printer
import Kitchen.Json.Reader
import Kitchen.Proofs.Codec.Hex

/-!
# Strings as JSON

A text in quotes is read as the text: every quote, backslash and control character is escaped, and
every escape that is written is read back as the character it stands for.
-/

namespace Kitchen.Json

open Text

/-- The escape of a control character names its code point. -/
private theorem readCodePoint_control {c : Char} (hc : c.toNat < 0x20) (rest : List Char) :
    readCodePoint ('0' :: '0' :: hexDigit (c.toNat / 16) :: hexDigit (c.toNat % 16) :: rest) =
      .ok (c, rest) := by
  have hhigh : c.toNat / 16 < 16 := by omega
  have hlow : c.toNat % 16 < 16 := by omega
  have hall : ['0', '0', hexDigit (c.toNat / 16), hexDigit (c.toNat % 16)].all isHexDigit = true := by
    simp [isHexDigit_hexDigit hhigh, isHexDigit_hexDigit hlow, show isHexDigit '0' = true from rfl]
  have hnumber : hexNumber ['0', '0', hexDigit (c.toNat / 16), hexDigit (c.toNat % 16)] = c.toNat := by
    have hzero : hexValue '0' = 0 := rfl
    simp only [hexNumber, List.foldl_cons, List.foldl_nil, hzero, hexValue_hexDigit hhigh,
      hexValue_hexDigit hlow]
    omega
  rw [readCodePoint, readUnit, if_pos hall, hnumber]
  dsimp only
  rw [if_neg (by omega), if_neg (by omega), Char.ofNat_toNat]

/-- What is written for a character is read as the character. -/
private theorem readString_escapedChar (c : Char) {fuel : Nat} {s rest text : List Char}
    (h : readString fuel s = .ok (text, rest)) :
    readString (fuel + 1) (escapedChar c ++ s) = .ok (c :: text, rest) := by
  have hshort {letter : Char} (hletter : letter ≠ 'u') (hc : shortEscape? letter = some c) :
      readString (fuel + 1) ('\\' :: letter :: s) = .ok (c :: text, rest) := by
    rw [readString]
    · simp only [hc, h]
      rfl
    · exact hletter
  unfold escapedChar
  split
  case h_1 => exact hshort (by decide) rfl
  case h_2 => exact hshort (by decide) rfl
  case h_3 => exact hshort (by decide) rfl
  case h_4 => exact hshort (by decide) rfl
  case h_5 => exact hshort (by decide) rfl
  case h_6 => exact hshort (by decide) rfl
  case h_7 => exact hshort (by decide) rfl
  case h_8 hquote hbackslash _ _ _ _ _ =>
    split
    case isTrue hcontrol =>
      rw [List.cons_append, List.cons_append, readString]
      simp only [List.cons_append, List.nil_append, readCodePoint_control hcontrol, h, bind, Except.bind]
      rfl
    case isFalse hplain =>
      rw [List.singleton_append, readString.eq_def]
      simp only
      split
      case h_1 heq => cases heq
      case h_2 heq => exact absurd (List.cons.inj heq).1 hquote
      case h_3 heq => exact absurd (List.cons.inj heq).1 hbackslash
      case h_4 heq => exact absurd (List.cons.inj heq).1 hbackslash
      case h_5 heq => exact absurd (List.cons.inj heq).1 hbackslash
      case h_6 heq =>
        obtain ⟨rfl, rfl⟩ := List.cons.inj heq
        rw [if_neg hplain, h]
        rfl

/-- A text behind its opening quote is read up to its closing one. -/
theorem readString_quoted (s rest : List Char) {fuel : Nat} (hfuel : s.length < fuel) :
    readString fuel (s.flatMap escapedChar ++ '"' :: rest) = .ok (s, rest) := by
  induction s generalizing fuel with
  | nil =>
    obtain ⟨fuel, rfl⟩ := Nat.exists_eq_succ_of_ne_zero (Nat.ne_of_gt hfuel)
    rfl
  | cons c s ih =>
    obtain ⟨fuel, rfl⟩ := Nat.exists_eq_succ_of_ne_zero (Nat.ne_of_gt (Nat.zero_lt_of_lt hfuel))
    rw [List.flatMap_cons, List.append_assoc]
    exact readString_escapedChar c (ih (Nat.lt_of_succ_lt_succ hfuel))

theorem escapedChar_ne_nil (c : Char) : escapedChar c ≠ [] := by
  unfold escapedChar
  split
  case h_8 => split <;> simp
  all_goals simp

/-- A text behind its opening quote is read with as many turns as characters are left. -/
theorem readString_rest (text : String) (rest : List Char) :
    readString ((text.toList.flatMap escapedChar ++ '"' :: rest).length + 1)
      (text.toList.flatMap escapedChar ++ '"' :: rest) = .ok (text.toList, rest) := by
  refine readString_quoted text.toList rest ?_
  have hle := length_le_flatMap escapedChar_ne_nil text.toList
  rw [List.length_append]
  omega

end Kitchen.Json
