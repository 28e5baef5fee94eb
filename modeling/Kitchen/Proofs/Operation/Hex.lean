import Kitchen.Operation.Encoding
import Kitchen.Proofs.Codec.Hex
import Kitchen.Proofs.Text.Search
import Mathlib.Data.Bool.AllAny

/-!
# Hexadecimal between steps

Bytes written as hexadecimal with any delimiter are read back, through any noise and in any case of
the digits; a text is refused exactly for an odd number of digits; and what is read of a text is
written without a delimiter as the digits of the text in lower case.
-/

namespace Kitchen.Encoding

open Text Hex

/-- No delimiter has a digit. -/
theorem isHexDigit_delimiterAt (args : List Argument) (i : Nat) :
    ∀ c ∈ delimiterAt args i, isHexDigit c = false := by
  rw [delimiterAt]
  split
  all_goals exact List.all_iff_forall_prop.mp (by decide)

theorem toHex_eq {args : List Argument} {input : Dish} {bytes : List UInt8}
    (h : input.asBytes = .ok bytes) :
    toHex args input = .ok (.string (String.ofList (encode (delimiterAt args 0) bytes))) := by
  rw [toHex, h]
  rfl

section Decoder

variable {args : List Argument} {text : String}

theorem fromHex_eq :
    fromHex args (.string text) =
      ((Hex.decode text.toList).mapError fun count =>
        Fault.invalid s!"Hex input has an odd number of digits ({count})").map Dish.byteArray := by
  simp only [fromHex, Dish.asText, Except.mapError, bind, Except.bind]
  cases Hex.decode text.toList <;> rfl

/-- A text is read as the bytes of its digits, if they are even in number. -/
theorem fromHex_eq_ok_iff {dish : Dish} :
    fromHex args (.string text) = .ok dish ↔
      (text.toList.filter isHexDigit).length % 2 = 0 ∧
        dish = .byteArray (bytesOfDigits (text.toList.filter isHexDigit)) := by
  rw [fromHex_eq]
  cases hdecode : Hex.decode text.toList with
  | error count =>
    obtain ⟨hodd, -⟩ := decode_eq_error_iff.mp hdecode
    constructor
    · intro h
      cases h
    · rintro ⟨heven, -⟩
      omega
  | ok bytes =>
    obtain ⟨heven, rfl⟩ := decode_eq_ok_iff.mp hdecode
    constructor
    · intro h
      cases h
      exact ⟨heven, rfl⟩
    · rintro ⟨-, rfl⟩
      rfl

theorem exists_fromHex_eq_error_iff :
    (∃ fault, fromHex args (.string text) = .error fault) ↔
      (text.toList.filter isHexDigit).length % 2 = 1 := by
  constructor
  · rintro ⟨fault, h⟩
    refine (Nat.mod_two_eq_zero_or_one _).resolve_left fun heven => ?_
    rw [fromHex_eq_ok_iff.mpr ⟨heven, rfl⟩] at h
    cases h
  · intro hodd
    rw [fromHex_eq, decode_eq_error_iff.mpr ⟨hodd, rfl⟩]
    exact ⟨_, rfl⟩

end Decoder

/-- Bytes written with a delimiter are read back, also after changes of the case of digits and
between characters that are no digits; reading fails exactly for an odd number of digits; and what is
read of a text is written without a delimiter as the digits of the text in lower case. -/
theorem hex_round_trip (args args' : List Argument) :
    (∀ input bytes, input.asBytes = .ok bytes →
      ∃ text, toHex args input = .ok (.string text) ∧
        fromHex args' (.string text) = .ok (.byteArray bytes) ∧
        ∀ recased noisy, Recased text.toList recased →
          Sprinkled (fun c => isHexDigit c = false) recased noisy →
          fromHex args' (.string (String.ofList noisy)) = .ok (.byteArray bytes)) ∧
    (∀ text, (∃ fault, fromHex args' (.string text) = .error fault) ↔
      (text.toList.filter isHexDigit).length % 2 = 1) ∧
    ∀ text dish, fromHex args' (.string text) = .ok dish → textAt args 0 = "None" →
      toHex args dish = .ok (.string
        (String.ofList ((text.toList.filter isHexDigit).map Char.toLower))) := by
  refine ⟨?_, fun text => exists_fromHex_eq_error_iff, ?_⟩
  · intro input bytes hbytes
    have hpairs := filter_encode (isHexDigit_delimiterAt args 0) bytes
    have hread (s : List Char)
        (hvalues : (s.filter isHexDigit).map hexValue = (bytes.flatMap hexPair).map hexValue) :
        fromHex args' (.string (String.ofList s)) = .ok (.byteArray bytes) := by
      have hlength : (s.filter isHexDigit).length = 2 * bytes.length := by
        rw [← List.length_map hexValue, hvalues, List.length_map, length_flatMap_hexPair]
      rw [fromHex_eq_ok_iff, String.toList_ofList]
      refine ⟨by omega, ?_⟩
      rw [bytesOfDigits_congr hvalues, bytesOfDigits_flatMap_hexPair]
    refine ⟨_, toHex_eq hbytes, hread _ (by rw [hpairs]), ?_⟩
    intro recased noisy hcase hnoise
    have hquiet : noisy.filter isHexDigit = recased.filter isHexDigit :=
      hnoise.filter_eq fun c hc => hc
    rw [String.toList_ofList] at hcase
    refine hread noisy ?_
    rw [hquiet, hcase.map_hexValue_filter, hpairs]
  · intro text dish h hnone
    obtain ⟨heven, rfl⟩ := fromHex_eq_ok_iff.mp h
    have hdelimiter : delimiterAt args 0 = [] := by
      rw [delimiterAt, hnone]
      rfl
    have hwritten := flatMap_hexPair_bytesOfDigits (fun c hc => (List.mem_filter.mp hc).2) heven
    rw [toHex_eq rfl, hdelimiter, encode, joinWith_nil_eq_flatten, ← List.flatMap_def, hwritten]

/-- Two bytes with colons, read back in capitals behind a word that has no digit, and the digits of a
text with blanks between them. -/
theorem hex_round_trip_colons :
    let args := [.text "Colon"]
    let plain := [.text "None"]
    toHex args (.arrayBuffer [0xDE, 0x0A]) = .ok (.string "de:0a") ∧
      fromHex [] (.string "no:DE:0A") = .ok (.byteArray [0xDE, 0x0A]) ∧
      ((∃ fault, fromHex [] (.string "abc") = .error fault) ↔
        ("abc".toList.filter isHexDigit).length % 2 = 1) ∧
      ∃ dish, fromHex [] (.string "A b") = .ok dish ∧
        toHex plain dish = .ok (.string
          (String.ofList (("A b".toList.filter isHexDigit).map Char.toLower))) := by
  intro args plain
  have hwritten : toHex args (.arrayBuffer [0xDE, 0x0A]) = .ok (.string "de:0a") := by rfl
  obtain ⟨hbytes, hfails, -⟩ := hex_round_trip args []
  obtain ⟨-, -, htexts⟩ := hex_round_trip plain []
  obtain ⟨text, htext, -, hnoise⟩ := hbytes (.arrayBuffer [0xDE, 0x0A]) _ rfl
  obtain rfl : text = "de:0a" := by
    rw [hwritten] at htext
    cases htext
    rfl
  have hcase : Recased "de:0a".toList "DE:0A".toList := by
    refine .cons (.inr ⟨rfl, .inr rfl⟩) (.cons (.inr ⟨rfl, .inr rfl⟩) (.cons (.inl rfl)
      (.cons (.inl rfl) (.cons (.inr ⟨rfl, .inr rfl⟩) .nil))))
  have hnoisy : Sprinkled (fun c => isHexDigit c = false) "DE:0A".toList "no:DE:0A".toList :=
    .insert rfl (.insert rfl (.insert rfl (.keep 'D' (.keep 'E' (.keep ':' (.keep '0' (.keep 'A' .nil)))))))
  have hread : fromHex [] (.string "A b") = .ok (.byteArray [0xAB]) := by rfl
  exact ⟨hwritten, hnoise _ _ hcase hnoisy, hfails "abc", _, hread, htexts "A b" _ hread rfl⟩

end Kitchen.Encoding
