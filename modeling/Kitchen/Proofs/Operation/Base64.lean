import Kitchen.Operation.Encoding
import Kitchen.Proofs.Codec.Base64
import Kitchen.Proofs.Number.Digits
import Kitchen.Proofs.Text.Search

/-!
# Base64 between steps

Writing bytes as Base64 and reading them back are inverse to each other: every list of bytes comes
back, through whatever noise the reading leaves out, and every text that is read is the written form
of what is read from it.
-/

namespace Kitchen.Encoding

open Text Base64

/-- What the decoder reads of a text. -/
def cleaned (args : List Argument) (text : String) : List Char :=
  if boolAt args 1 then
    text.toList.filter fun c => decide (c ∈ (alphabetAt args 0).symbols ∨ c = '=')
  else trimChars text.toList

section Decoder

variable {args : List Argument} {text : String}

theorem fromBase64_eq :
    fromBase64 args (.string text) =
      ((Base64.decode (alphabetAt args 0) (utf8Encode (String.ofList (cleaned args text)))).mapError
        fun fault => Fault.invalid s!"Invalid Base64 input: {fault.message}").map Dish.byteArray := by
  have hfilter : text.toList.filter (alphabetAt args 0).admits =
      text.toList.filter fun c => decide (c ∈ (alphabetAt args 0).symbols ∨ c = '=') := by
    congr 1
    funext c
    rw [Bool.eq_iff_iff, Alphabet.admits_iff, decide_eq_true_iff]
  rw [cleaned, ← hfilter]
  simp only [fromBase64, Dish.asText, Except.mapError, bind, Except.bind]
  cases Base64.decode (alphabetAt args 0) _ <;> rfl

/-- A text is read as some bytes if what the decoder reads of it is their written form. -/
theorem fromBase64_eq_ok_iff {dish : Dish} :
    fromBase64 args (.string text) = .ok dish ↔
      ∃ bytes, dish = .byteArray bytes ∧ cleaned args text = encode (alphabetAt args 0) bytes := by
  have hread (bytes : List UInt8) :
      Base64.decode (alphabetAt args 0) (utf8Encode (String.ofList (cleaned args text))) = .ok bytes ↔
        cleaned args text = encode (alphabetAt args 0) bytes := by
    rw [decode_eq_ok_iff, ← utf8Encode_encode]
    constructor
    · intro h
      exact String.ofList_injective (utf8Encode_injective h)
    · intro h
      rw [h]
  rw [fromBase64_eq]
  constructor
  · intro h
    cases hdecode : Base64.decode (alphabetAt args 0) (utf8Encode (String.ofList (cleaned args text))) with
    | error fault =>
      rw [hdecode] at h
      cases h
    | ok bytes =>
      rw [hdecode] at h
      cases h
      exact ⟨bytes, rfl, (hread bytes).mp hdecode⟩
  · rintro ⟨bytes, rfl, hclean⟩
    rw [(hread bytes).mpr hclean]
    rfl

end Decoder

private theorem isBlank_symbol (alphabet : Alphabet) : ∀ c ∈ alphabet.symbols, isBlank c = false := by
  have hall : alphabet.symbols.all (isBlank · == false) = true := by cases alphabet <;> decide
  intro c hc
  exact eq_of_beq (List.all_eq_true.mp hall c hc)

/-- A text of symbols and fillings has nothing that the decoder leaves out. -/
theorem cleaned_eq_self {args : List Argument} {text : String}
    (h : ∀ c ∈ text.toList, c ∈ (alphabetAt args 0).symbols ∨ c = '=') :
    cleaned args text = text.toList := by
  rw [cleaned]
  split
  · exact List.filter_eq_self.mpr fun c hc => decide_eq_true (h c hc)
  · refine trimChars_eq_self fun c hc => ?_
    rcases h c hc with hsymbol | rfl
    · exact isBlank_symbol _ c hsymbol
    · decide

theorem cleaned_encode {args : List Argument} (bytes : List UInt8) :
    cleaned args (String.ofList (encode (alphabetAt args 0) bytes)) =
      encode (alphabetAt args 0) bytes := by
  have hadmitted : ∀ c ∈ (String.ofList (encode (alphabetAt args 0) bytes)).toList,
      c ∈ (alphabetAt args 0).symbols ∨ c = '=' := by
    rw [String.toList_ofList]
    exact fun c hc => mem_encode _ hc
  rw [cleaned_eq_self hadmitted, String.toList_ofList]

theorem toBase64_eq {args : List Argument} {input : Dish} {bytes : List UInt8}
    (h : input.asBytes = .ok bytes) :
    toBase64 args input = .ok (.string (String.ofList (encode (alphabetAt args 0) bytes))) := by
  rw [toBase64, h]
  rfl

/-- Bytes written in an alphabet are read back in it, also through characters that are put in where
the decoder leaves such out; and what is read of a text is written as the text, without what the
decoder leaves out. -/
theorem base64_bijective {args args' : List Argument}
    (halphabet : alphabetAt args' 0 = alphabetAt args 0) :
    (∀ input bytes, input.asBytes = .ok bytes →
      ∃ text, toBase64 args input = .ok (.string text) ∧
        fromBase64 args' (.string text) = .ok (.byteArray bytes) ∧
        ∀ noisy, boolAt args' 1 = true →
          Sprinkled (fun c => c ∉ (alphabetAt args 0).symbols ∧ c ≠ '=') text.toList noisy →
          fromBase64 args' (.string (String.ofList noisy)) = .ok (.byteArray bytes)) ∧
    ∀ text dish, fromBase64 args' (.string text) = .ok dish →
      ∃ bytes, dish = .byteArray bytes ∧
        toBase64 args dish = .ok (.string (
          if boolAt args' 1 then
            String.ofList (text.toList.filter fun c => c ∈ (alphabetAt args 0).symbols ∨ c = '=')
          else trim text)) := by
  constructor
  · intro input bytes hbytes
    refine ⟨_, toBase64_eq hbytes, ?_, fun noisy hremoves hnoisy => ?_⟩
    · rw [← halphabet]
      exact fromBase64_eq_ok_iff.mpr ⟨bytes, rfl, cleaned_encode bytes⟩
    · rw [String.toList_ofList] at hnoisy
      refine fromBase64_eq_ok_iff.mpr ⟨bytes, rfl, ?_⟩
      have hfilter : noisy.filter (fun c => decide (c ∈ (alphabetAt args 0).symbols ∨ c = '=')) =
          (encode (alphabetAt args 0) bytes).filter
            (fun c => decide (c ∈ (alphabetAt args 0).symbols ∨ c = '=')) :=
        hnoisy.filter_eq fun c hc => decide_eq_false (not_or.mpr hc)
      rw [cleaned, if_pos hremoves, String.toList_ofList, halphabet, hfilter]
      exact List.filter_eq_self.mpr fun c hc => decide_eq_true (mem_encode _ hc)
  · intro text dish h
    obtain ⟨bytes, rfl, hclean⟩ := fromBase64_eq_ok_iff.mp h
    refine ⟨bytes, rfl, ?_⟩
    rw [toBase64_eq rfl, ← halphabet, ← hclean, cleaned]
    split <;> rfl

/-- Two bytes in the second alphabet, with a plus sign, which is no symbol of it, put in. -/
theorem base64_bijective_plusSign :
    let args := [.text "URL safe"]
    let args' := [.text "URL safe", .bool true]
    alphabetAt args' 0 = alphabetAt args 0 ∧
      toBase64 args (.arrayBuffer [0xFB, 0xEF]) = .ok (.string "--8=") ∧
      fromBase64 args' (.string "--8=") = .ok (.byteArray [0xFB, 0xEF]) ∧
      fromBase64 args' (.string "+--8=") = .ok (.byteArray [0xFB, 0xEF]) ∧
      ∃ bytes, toBase64 args (.byteArray bytes) = .ok (.string (String.ofList
        ("+--8=".toList.filter fun c => c ∈ (alphabetAt args 0).symbols ∨ c = '='))) := by
  intro args args'
  have halphabet : alphabetAt args' 0 = alphabetAt args 0 := by decide
  have htext : toBase64 args (.arrayBuffer [0xFB, 0xEF]) = .ok (.string "--8=") := by rfl
  have hplus : '+' ∉ (alphabetAt args 0).symbols ∧ '+' ≠ '=' := by decide
  obtain ⟨hbytes, htexts⟩ := base64_bijective halphabet
  obtain ⟨text, hwritten, hread, hnoise⟩ := hbytes (.arrayBuffer [0xFB, 0xEF]) _ rfl
  obtain rfl : text = "--8=" := by
    rw [htext] at hwritten
    cases hwritten
    rfl
  have hnoisy := hnoise "+--8=".toList rfl
    (.insert hplus (.keep '-' (.keep '-' (.keep '8' (.keep '=' .nil)))))
  obtain ⟨bytes, hdish, hback⟩ := htexts "+--8=" _ hnoisy
  rw [hdish] at hback
  exact ⟨halphabet, htext, hread, hnoisy, bytes, hback⟩

end Kitchen.Encoding
