import Kitchen.Operation.Reversal
import Kitchen.Proofs.Text.Search
import Kitchen.Proofs.Text.Utf8

/-!
# Reversal, there and back

Reversing by bytes, by characters or by lines is undone by reversing once more. Lines are what stands
between line feeds, so an empty line, a line feed at the end and a last line without one all come back.
Reversing by characters is refused for bytes that encode no characters, and for no others.
-/

namespace Kitchen.Reversal

open Text

/-! ## Lines -/

/-- The lines of reversed bytes are the lines in the opposite order. -/
theorem splitAt_reverseLines (bytes : List UInt8) :
    splitAt (· == lineFeed) (reverseLines bytes) = (splitAt (· == lineFeed) bytes).reverse := by
  refine splitAt_joinWith (by exact beq_self_eq_true lineFeed) ?_ ?_
  · exact List.reverse_ne_nil_iff.mpr (splitAt_ne_nil bytes)
  · intro line hline b hb
    exact of_mem_splitAt (List.mem_reverse.mp hline) hb

theorem reverseLines_reverseLines (bytes : List UInt8) : reverseLines (reverseLines bytes) = bytes := by
  rw [reverseLines, splitAt_reverseLines, List.reverse_reverse, joinWith_splitAt_beq]

/-! ## Characters -/

/-- The bytes are those of the characters. -/
def Encodes (bytes : List UInt8) (chars : List Char) : Prop := bytes.toByteArray = chars.utf8Encode

theorem encodes_iff {bytes : List UInt8} {chars : List Char} :
    Encodes bytes chars ↔ bytes = utf8Encode (String.ofList chars) := by
  rw [Encodes, List.utf8Encode, List.toByteArray_inj, utf8Encode, String.toList_ofList]

theorem utf8Decode_of_encodes {bytes : List UInt8} {chars : List Char} (h : Encodes bytes chars) :
    utf8Decode bytes = .ok (String.ofList chars) := by
  rw [encodes_iff.mp h, utf8Decode_utf8Encode]

theorem encodes_of_utf8Decode {bytes : List UInt8} {text : String} (h : utf8Decode bytes = .ok text) :
    Encodes bytes text.toList := by
  rw [encodes_iff, String.ofList_toList, utf8Encode_of_utf8Decode h]

/-- The bytes of some characters are turned into those of the characters in the opposite order. -/
theorem reverseCharacters_of_encodes {bytes : List UInt8} {chars : List Char}
    (h : Encodes bytes chars) :
    ∃ reversed, reverseCharacters bytes = .ok reversed ∧ Encodes reversed chars.reverse := by
  refine ⟨utf8Encode (String.ofList chars.reverse), ?_, encodes_iff.mpr rfl⟩
  simp only [reverseCharacters, utf8Decode_of_encodes h, String.toList_ofList]

theorem exists_encodes_of_reverseCharacters {bytes reversed : List UInt8}
    (h : reverseCharacters bytes = .ok reversed) :
    ∃ chars, Encodes bytes chars ∧ Encodes reversed chars.reverse := by
  rw [reverseCharacters] at h
  cases hdecode : utf8Decode bytes with
  | error fault =>
    rw [hdecode] at h
    cases h
  | ok text =>
    rw [hdecode] at h
    obtain rfl := Except.ok.inj h
    exact ⟨text.toList, encodes_of_utf8Decode hdecode, encodes_iff.mpr rfl⟩

theorem Encodes.unique {bytes bytes' : List UInt8} {chars : List Char} (h : Encodes bytes chars)
    (h' : Encodes bytes' chars) : bytes = bytes' := by
  rw [encodes_iff.mp h, encodes_iff.mp h']

theorem reverseCharacters_reverseCharacters {bytes reversed : List UInt8}
    (h : reverseCharacters bytes = .ok reversed) : reverseCharacters reversed = .ok bytes := by
  obtain ⟨chars, hbytes, hreversed⟩ := exists_encodes_of_reverseCharacters h
  obtain ⟨back, hback, hchars⟩ := reverseCharacters_of_encodes hreversed
  rw [List.reverse_reverse] at hchars
  rw [hback, hchars.unique hbytes]

theorem exists_reverseCharacters_eq_error_iff {bytes : List UInt8} :
    (∃ fault, reverseCharacters bytes = .error fault) ↔ ¬ bytes.toByteArray.IsValidUTF8 := by
  constructor
  · rintro ⟨fault, hfault⟩ ⟨chars, hchars⟩
    obtain ⟨reversed, hreversed, -⟩ := reverseCharacters_of_encodes hchars
    rw [hreversed] at hfault
    cases hfault
  · intro hinvalid
    cases hresult : reverseCharacters bytes with
    | error fault => exact ⟨fault, rfl⟩
    | ok reversed =>
      obtain ⟨chars, hchars, -⟩ := exists_encodes_of_reverseCharacters hresult
      exact absurd ⟨chars, hchars⟩ hinvalid

/-! ## The operation -/

section Units

variable {args : List Argument} {bytes : List UInt8}

theorem reverse_byte (h : textAt args 0 = "Byte") :
    reverse args (.byteArray bytes) = .ok (.byteArray bytes.reverse) := by
  simp only [reverse, h]
  rfl

theorem reverse_line (h : textAt args 0 = "Line") :
    reverse args (.byteArray bytes) = .ok (.byteArray (reverseLines bytes)) := by
  simp only [reverse, h]
  rfl

theorem reverse_character (h : textAt args 0 = "Character") :
    reverse args (.byteArray bytes) = (reverseCharacters bytes).map .byteArray := by
  simp only [reverse, h, Dish.asBytes, Except.mapError, bind, Except.bind]
  cases reverseCharacters bytes <;> rfl

/-- Reversing succeeds by one of the three units only. -/
theorem unit_of_reverse {dish : Dish} (h : reverse args (.byteArray bytes) = .ok dish) :
    textAt args 0 = "Byte" ∨ textAt args 0 = "Character" ∨ textAt args 0 = "Line" := by
  simp only [reverse, Dish.asBytes, Except.mapError, bind, Except.bind] at h
  split at h
  case h_1 hunit => exact .inl hunit
  case h_2 hunit => exact .inr (.inl hunit)
  case h_3 hunit => exact .inr (.inr hunit)
  case h_4 => cases h

/-- Reversing is undone by reversing by the same unit. -/
theorem reverse_of_reverse {dish : Dish} (h : reverse args (.byteArray bytes) = .ok dish) :
    reverse args dish = .ok (.byteArray bytes) := by
  rcases unit_of_reverse h with hunit | hunit | hunit
  · rw [reverse_byte hunit] at h
    obtain rfl := Except.ok.inj h
    rw [reverse_byte hunit, List.reverse_reverse]
  · rw [reverse_character hunit] at h
    cases hresult : reverseCharacters bytes with
    | error fault =>
      rw [hresult] at h
      cases h
    | ok reversed =>
      rw [hresult] at h
      obtain rfl := Except.ok.inj h
      rw [reverse_character hunit, reverseCharacters_reverseCharacters hresult]
      rfl
  · rw [reverse_line hunit] at h
    obtain rfl := Except.ok.inj h
    rw [reverse_line hunit, reverseLines_reverseLines]

end Units

/-- Reversing by the same unit once more gives the bytes back. By bytes it always succeeds; by lines it
always succeeds and gives the lines in the opposite order; by characters it gives the bytes of the same
characters in the opposite order, and fails exactly for bytes that encode no characters. -/
theorem reverse_involutive (args : List Argument) (bytes : List UInt8) :
    (∀ dish, reverse args (.byteArray bytes) = .ok dish →
      reverse args dish = .ok (.byteArray bytes)) ∧
    (textAt args 0 = "Byte" → reverse args (.byteArray bytes) = .ok (.byteArray bytes.reverse)) ∧
    (textAt args 0 = "Line" →
      ∃ reversed, reverse args (.byteArray bytes) = .ok (.byteArray reversed) ∧
        splitAt (· == lineFeed) reversed = (splitAt (· == lineFeed) bytes).reverse) ∧
    (textAt args 0 = "Character" →
      (∀ dish, reverse args (.byteArray bytes) = .ok dish →
        ∃ reversed chars turned, dish = .byteArray reversed ∧ reversed.toByteArray.IsValidUTF8 ∧
          Encodes bytes chars ∧ Encodes reversed turned ∧ turned = chars.reverse ∧
          turned.Perm chars) ∧
      ((∃ fault, reverse args (.byteArray bytes) = .error fault) ↔
        ¬ bytes.toByteArray.IsValidUTF8)) := by
  refine ⟨fun dish => reverse_of_reverse, reverse_byte, fun hunit => ?_, fun hunit => ⟨?_, ?_⟩⟩
  · exact ⟨_, reverse_line hunit, splitAt_reverseLines bytes⟩
  · intro dish hdish
    rw [reverse_character hunit] at hdish
    cases hresult : reverseCharacters bytes with
    | error fault =>
      rw [hresult] at hdish
      cases hdish
    | ok reversed =>
      rw [hresult] at hdish
      obtain ⟨chars, hbytes, hreversed⟩ := exists_encodes_of_reverseCharacters hresult
      exact ⟨reversed, chars, chars.reverse, (Except.ok.inj hdish).symm, ⟨_, hreversed⟩, hbytes,
        hreversed, rfl, chars.reverse_perm⟩
  · rw [reverse_character hunit, ← exists_reverseCharacters_eq_error_iff]
    cases reverseCharacters bytes with
    | error fault => exact ⟨fun _ => ⟨fault, rfl⟩, fun _ => ⟨fault, rfl⟩⟩
    | ok reversed =>
      constructor
      · rintro ⟨fault, hfault⟩
        cases hfault
      · rintro ⟨fault, hfault⟩
        cases hfault

/-- An accented letter behind another letter turned round by bytes and by characters, lines of which the
first is empty and the last is ended, and a byte that encodes nothing. -/
theorem reverse_involutive_accent :
    let byte := [.text "Byte"]
    let character := [.text "Character"]
    let line := [.text "Line"]
    reverse byte (.byteArray [0x61, 0xC3, 0xB1]) = .ok (.byteArray [0xB1, 0xC3, 0x61]) ∧
      reverse character (.byteArray [0x61, 0xC3, 0xB1]) = .ok (.byteArray [0xC3, 0xB1, 0x61]) ∧
      reverse character (.byteArray [0xC3, 0xB1, 0x61]) = .ok (.byteArray [0x61, 0xC3, 0xB1]) ∧
      (∃ reversed chars turned, Dish.byteArray [0xC3, 0xB1, 0x61] = .byteArray reversed ∧
        reversed.toByteArray.IsValidUTF8 ∧ Encodes [0x61, 0xC3, 0xB1] chars ∧
        Encodes reversed turned ∧ turned = chars.reverse ∧ turned.Perm chars) ∧
      (∃ reversed, reverse line (.byteArray [0x0A, 0x61, 0x0A]) = .ok (.byteArray reversed) ∧
        splitAt (· == lineFeed) reversed =
          (splitAt (· == lineFeed) [0x0A, 0x61, 0x0A]).reverse) ∧
      ((∃ fault, reverse character (.byteArray [0xFF]) = .error fault) ↔
        ¬ [0xFF].toByteArray.IsValidUTF8) := by
  intro byte character line
  have hturned : reverse character (.byteArray [0x61, 0xC3, 0xB1]) =
      .ok (.byteArray [0xC3, 0xB1, 0x61]) := by rfl
  obtain ⟨-, hbyte, -⟩ := reverse_involutive byte [0x61, 0xC3, 0xB1]
  obtain ⟨hback, -, -, haccent⟩ := reverse_involutive character [0x61, 0xC3, 0xB1]
  obtain ⟨-, -, hline, -⟩ := reverse_involutive line [0x0A, 0x61, 0x0A]
  obtain ⟨-, -, -, hstray⟩ := reverse_involutive character [0xFF]
  exact ⟨hbyte rfl, hturned, hback _ hturned, (haccent rfl).1 _ hturned, hline rfl, (hstray rfl).2⟩

end Kitchen.Reversal
