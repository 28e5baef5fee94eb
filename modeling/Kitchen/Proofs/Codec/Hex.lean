import Kitchen.Codec.Hex
import Kitchen.Proofs.Text.Search
import Mathlib.Data.Bool.AllAny
import Mathlib.Data.List.Basic

/-!
# Hexadecimal bytes, there and back

The digits of a text are all that its reading depends on: two digits give a byte and a byte gives two
digits, so the pairing does not see delimiters, case or noise. Main statements: the bytes of the pairs
that bytes are written as are these bytes, and the pairs that the bytes of an even row of digits are
written as are the digits in lower case.
-/

namespace Kitchen

open Text

/-! ## Digits -/

namespace Text

/-- The digits in both cases. -/
private def hexDigits : List Char := "0123456789abcdefABCDEF".toList

private theorem mem_hexDigits {c : Char} (h : isHexDigit c = true) : c ∈ hexDigits := by
  have hcode : c.toNat < 128 := by
    simp only [isHexDigit, isAsciiDigit, Bool.or_eq_true, Bool.and_eq_true, decide_eq_true_eq,
      Char.le_def, UInt32.le_iff_toNat_le] at h
    have hnine : '9'.val.toNat = 57 := rfl
    have hsmall : 'f'.val.toNat = 102 := rfl
    have hlarge : 'F'.val.toNat = 70 := rfl
    have hnat : c.toNat = c.val.toNat := rfl
    omega
  have hall : ∀ n < 128, isHexDigit (Char.ofNat n) = true → Char.ofNat n ∈ hexDigits := by decide
  have hc : Char.ofNat c.toNat = c := Char.ofNat_toNat c
  have hmem := hall c.toNat hcode
  rw [hc] at hmem
  exact hmem h

theorem isHexDigit_hexDigit {n : Nat} (h : n < 16) : isHexDigit (hexDigit n) = true := by
  have hall : ∀ n < 16, isHexDigit (hexDigit n) = true := by decide
  exact hall n h

theorem hexValue_hexDigit {n : Nat} (h : n < 16) : hexValue (hexDigit n) = n := by
  have hall : ∀ n < 16, hexValue (hexDigit n) = n := by decide
  exact hall n h

theorem hexValue_lt {c : Char} (h : isHexDigit c = true) : hexValue c < 16 := by
  have hall : ∀ c ∈ hexDigits, hexValue c < 16 := List.all_iff_forall_prop.mp (by decide)
  exact hall c (mem_hexDigits h)

theorem hexDigit_hexValue {c : Char} (h : isHexDigit c = true) : hexDigit (hexValue c) = c.toLower := by
  have hall : ∀ c ∈ hexDigits, hexDigit (hexValue c) = c.toLower :=
    List.all_iff_forall_prop.mp (by decide)
  exact hall c (mem_hexDigits h)

/-- A character is a digit in the one case or the other, of the same value. -/
theorem isHexDigit_recased {c : Char} (h : isHexDigit c = true) :
    (isHexDigit c.toLower = true ∧ hexValue c.toLower = hexValue c) ∧
      isHexDigit c.toUpper = true ∧ hexValue c.toUpper = hexValue c := by
  have hall : ∀ c ∈ hexDigits, (isHexDigit c.toLower = true ∧ hexValue c.toLower = hexValue c) ∧
      isHexDigit c.toUpper = true ∧ hexValue c.toUpper = hexValue c :=
    List.all_iff_forall_prop.mp (by decide)
  exact hall c (mem_hexDigits h)

end Text

namespace Hex

/-! ## Pairs -/

theorem filter_hexPair (b : UInt8) : (hexPair b).filter isHexDigit = hexPair b := by
  have hb : b.toNat < 256 := UInt8.toNat_lt_size b
  have hhigh := isHexDigit_hexDigit (n := b.toNat / 16) (by omega)
  have hlow := isHexDigit_hexDigit (n := b.toNat % 16) (by omega)
  rw [hexPair, List.filter_cons_of_pos hhigh, List.filter_cons_of_pos hlow, List.filter_nil]

theorem bytesOfDigits_hexPair (b : UInt8) (s : List Char) :
    bytesOfDigits (hexPair b ++ s) = b :: bytesOfDigits s := by
  have hb : b.toNat < 256 := UInt8.toNat_lt_size b
  have hhigh := hexValue_hexDigit (n := b.toNat / 16) (by omega)
  have hlow := hexValue_hexDigit (n := b.toNat % 16) (by omega)
  have hjoined : b.toNat / 16 * 16 + b.toNat % 16 = b.toNat := by omega
  rw [hexPair, List.cons_append, List.cons_append, List.nil_append, bytesOfDigits, hhigh, hlow,
    hjoined, UInt8.ofNat_toNat]

/-- The byte of two digits is written as them, in lower case. -/
theorem hexPair_ofDigits {high low : Char} (hhigh : isHexDigit high = true)
    (hlow : isHexDigit low = true) :
    hexPair (UInt8.ofNat (hexValue high * 16 + hexValue low)) = [high.toLower, low.toLower] := by
  have hh := hexValue_lt hhigh
  have hl := hexValue_lt hlow
  have hnat : (UInt8.ofNat (hexValue high * 16 + hexValue low)).toNat =
      hexValue high * 16 + hexValue low := UInt8.toNat_ofNat_of_lt' (by simp [UInt8.size]; omega)
  have hdiv : (hexValue high * 16 + hexValue low) / 16 = hexValue high := by omega
  have hmod : (hexValue high * 16 + hexValue low) % 16 = hexValue low := by omega
  rw [hexPair, hnat, hdiv, hmod, hexDigit_hexValue hhigh, hexDigit_hexValue hlow]

theorem bytesOfDigits_flatMap_hexPair (bytes : List UInt8) :
    bytesOfDigits (bytes.flatMap hexPair) = bytes := by
  induction bytes with
  | nil => rfl
  | cons b bytes ih => rw [List.flatMap_cons, bytesOfDigits_hexPair, ih]

theorem length_bytesOfDigits (digits : List Char) : (bytesOfDigits digits).length = digits.length / 2 := by
  fun_induction bytesOfDigits digits with
  | case1 high low rest ih =>
    rw [List.length_cons, ih, List.length_cons, List.length_cons]
    omega
  | case2 digits hpair =>
    match digits, hpair with
    | [], _ => rfl
    | [c], _ => exact (Nat.div_eq_of_lt (Nat.lt_succ_self 1)).symm
    | high :: low :: rest, hpair => exact absurd rfl (hpair high low rest)

theorem flatMap_hexPair_bytesOfDigits {digits : List Char}
    (hdigits : ∀ c ∈ digits, isHexDigit c = true) (heven : digits.length % 2 = 0) :
    (bytesOfDigits digits).flatMap hexPair = digits.map Char.toLower := by
  fun_induction bytesOfDigits digits with
  | case1 high low rest ih =>
    have hhigh := hdigits high (by simp)
    have hlow := hdigits low (by simp)
    have hrest : ∀ c ∈ rest, isHexDigit c = true := fun c hc => hdigits c (by simp [hc])
    have hlength : rest.length % 2 = 0 := by
      simp only [List.length_cons] at heven
      omega
    rw [List.flatMap_cons, hexPair_ofDigits hhigh hlow, ih hrest hlength]
    rfl
  | case2 digits hpair =>
    match digits, heven, hpair with
    | [], _, _ => rfl
    | [c], heven, _ => cases heven
    | high :: low :: rest, _, hpair => exact absurd rfl (hpair high low rest)

/-! ## Texts -/

theorem length_flatMap_hexPair (bytes : List UInt8) :
    (bytes.flatMap hexPair).length = 2 * bytes.length := by
  induction bytes with
  | nil => rfl
  | cons b bytes ih =>
    have hpair : (hexPair b).length = 2 := rfl
    rw [List.flatMap_cons, List.length_append, ih, hpair, List.length_cons]
    omega

/-- The digits of what is written are the pairs, since the delimiter has none. -/
theorem filter_encode {delimiter : List Char} (h : ∀ c ∈ delimiter, isHexDigit c = false)
    (bytes : List UInt8) :
    (encode delimiter bytes).filter isHexDigit = bytes.flatMap hexPair := by
  have hnone : delimiter.filter isHexDigit = [] := List.filter_eq_nil_iff.mpr fun c hc => by simp [h c hc]
  induction bytes with
  | nil => rfl
  | cons b bytes ih =>
    cases bytes with
    | nil => simp [encode, joinWith, filter_hexPair]
    | cons next rest =>
      have hjoin : encode delimiter (b :: next :: rest) =
          hexPair b ++ delimiter ++ encode delimiter (next :: rest) := rfl
      rw [hjoin, List.filter_append, List.filter_append, filter_hexPair, hnone, ih, List.append_nil]
      rfl

theorem decode_eq_ok_iff {s : List Char} {bytes : List UInt8} :
    decode s = .ok bytes ↔
      (s.filter isHexDigit).length % 2 = 0 ∧ bytesOfDigits (s.filter isHexDigit) = bytes := by
  rw [decode]
  split
  case isTrue hodd =>
    constructor
    · intro h
      cases h
    · rintro ⟨heven, -⟩
      exact absurd heven hodd
  case isFalse heven =>
    rw [Except.ok.injEq]
    exact ⟨fun h => ⟨Decidable.not_not.mp heven, h⟩, fun h => h.2⟩

theorem decode_eq_error_iff {s : List Char} {count : Nat} :
    decode s = .error count ↔
      (s.filter isHexDigit).length % 2 = 1 ∧ count = (s.filter isHexDigit).length := by
  rw [decode]
  split
  case isTrue hodd =>
    rw [Except.error.injEq]
    constructor
    · intro h
      exact ⟨by omega, h.symm⟩
    · rintro ⟨-, rfl⟩
      rfl
  case isFalse heven =>
    constructor
    · intro h
      cases h
    · rintro ⟨hodd, -⟩
      omega

/-- Texts whose digits have the same values are read alike. -/
theorem bytesOfDigits_congr {s t : List Char} (h : s.map hexValue = t.map hexValue) :
    bytesOfDigits s = bytesOfDigits t := by
  fun_induction bytesOfDigits s generalizing t with
  | case1 high low rest ih =>
    match t, h with
    | [], h => cases h
    | [c], h => simp at h
    | high' :: low' :: rest', h =>
      simp only [List.map_cons, List.cons.injEq] at h
      obtain ⟨hhigh, hlow, hrest⟩ := h
      rw [bytesOfDigits, ih hrest, hhigh, hlow]
  | case2 s hpair =>
    have hlength : s.length = t.length := by simpa using congrArg List.length h
    match s, hpair with
    | [], _ =>
      obtain rfl := List.length_eq_zero_iff.mp hlength.symm
      rfl
    | [c], _ =>
      obtain ⟨d, rfl⟩ := List.length_eq_one_iff.mp hlength.symm
      rfl
    | high :: low :: rest, hpair => exact absurd rfl (hpair high low rest)

/-- Two texts are the same up to the case of their digits. -/
def Recased : List Char → List Char → Prop :=
  List.Forall₂ fun c d => d = c ∨ isHexDigit c = true ∧ (d = c.toLower ∨ d = c.toUpper)

theorem Recased.map_hexValue_filter {s t : List Char} (h : Recased s t) :
    (t.filter isHexDigit).map hexValue = (s.filter isHexDigit).map hexValue := by
  induction h with
  | nil => rfl
  | @cons c d s t hcd _ ih =>
    have hsame : isHexDigit d = isHexDigit c ∧ (isHexDigit c = true → hexValue d = hexValue c) := by
      rcases hcd with rfl | ⟨hdigit, hcase⟩
      · exact ⟨rfl, fun _ => rfl⟩
      · obtain ⟨⟨hlower, hlowerValue⟩, hupper, hupperValue⟩ := isHexDigit_recased hdigit
        rcases hcase with rfl | rfl
        · exact ⟨by rw [hlower, hdigit], fun _ => hlowerValue⟩
        · exact ⟨by rw [hupper, hdigit], fun _ => hupperValue⟩
    obtain ⟨hdigit, hvalue⟩ := hsame
    rw [List.filter_cons, List.filter_cons, hdigit]
    split
    case isTrue hc => rw [List.map_cons, List.map_cons, hvalue hc, ih]
    case isFalse => exact ih

end Hex
end Kitchen
