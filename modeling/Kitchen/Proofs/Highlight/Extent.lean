import Kitchen.Bake.Run
import Kitchen.Proofs.Argument.Conformance
import Kitchen.Proofs.Dish.Size
import Kitchen.Proofs.Highlight.Influence
import Kitchen.Proofs.Operation.Base64
import Kitchen.Proofs.Operation.Hex
import Kitchen.Proofs.Operation.Steering

/-!
# What operations write and what their maps tell

The maps of ranges know offsets and no dish. Both encoders write as much as their maps tell, but a
decoder may leave characters out, and a change of the case may shorten a text. An operation that keeps
up with its map leads from ranges of what it takes to ranges of what it gives.
-/

namespace Kitchen

open Text

/-! ## Ranges of a dish -/

namespace ByteRange

open Encoding

/-- A range of the first bytes. The empty range behind the last of them is admitted only where `free`
holds. -/
structure FitsIn (free : Prop) (n : Nat) (r : ByteRange) : Prop where
  ordered : r.start ≤ r.stop
  stop_le : r.stop ≤ n
  starts : r.start < n ∨ r.stop = 0 ∨ free

namespace FitsIn

variable {free : Prop} {n m size other width : Nat} {r : ByteRange}

theorem mono (h : r.FitsIn free n) (hle : n ≤ m) : r.FitsIn free m :=
  ⟨h.ordered, Nat.le_trans h.stop_le hle, h.starts.imp_left (Nat.lt_of_lt_of_le · hle)⟩

theorem regroup (h : r.FitsIn free n) (hsize : 0 < size) (hother : 0 < other) :
    (r.regroup size other).FitsIn free (divideUp n size * other) where
  ordered := IsOrdered.regroup h.ordered hsize
  stop_le := Nat.mul_le_mul_right other (divideUp_mono hsize h.stop_le)
  starts := by
    rcases h.starts with hlt | hzero | hfree
    · exact .inl (Nat.mul_lt_mul_of_pos_right (div_lt_divideUp hsize hlt) hother)
    · have hstop : divideUp r.stop size ≤ 0 := (divideUp_le_iff hsize).mpr (by omega)
      refine .inr (.inl ?_)
      change divideUp r.stop size * other = 0
      rw [Nat.le_zero.mp hstop, Nat.zero_mul]
    · exact .inr (.inr hfree)

/-- Where there are delimiters, the last one is missing, so that nothing stands behind the last byte. -/
theorem spread (h : r.FitsIn free n) (hwidth : 2 ≤ width) (hfree : free → width = 2) :
    (r.spread width).FitsIn free (n * width - (width - 2)) := by
  have hordered : r.start * width ≤ r.stop * width := Nat.mul_le_mul_right width h.ordered
  have hstop : r.stop * width ≤ n * width := Nat.mul_le_mul_right width h.stop_le
  rcases h.starts with hlt | hzero | hall
  · have hnext : (r.start + 1) * width ≤ n * width := Nat.mul_le_mul_right width hlt
    rw [Nat.succ_mul] at hnext
    refine ⟨isOrdered_spread r, ?_, .inl ?_⟩ <;> simp only [ByteRange.spread] <;> omega
  · rw [hzero, Nat.zero_mul] at hordered
    refine ⟨isOrdered_spread r, ?_, .inr (.inl ?_)⟩ <;>
      simp only [ByteRange.spread, hzero, Nat.zero_mul] <;> omega
  · obtain rfl := hfree hall
    refine ⟨isOrdered_spread r, ?_, .inr (.inr hall)⟩
    simp only [ByteRange.spread]
    omega

end FitsIn
end ByteRange

/-! ## Steps that keep up -/

/-- The operations that follow ranges to their output. -/
def followingForward : List Operation :=
  [LetterCase.upperCase, LetterCase.lowerCase, Encoding.base64Encoder, Encoding.base64Decoder,
    Encoding.hexEncoder, Encoding.hexDecoder]

theorem mem_followingForward {name : String} {map : RangeMap}
    (hflow : (Registry.builtIn.operation name).descriptor.flowControl = false)
    (hmap : (Registry.builtIn.operation name).forward = some map) :
    Registry.builtIn.operation name ∈ followingForward ∧
      (Registry.builtIn.operation name).name = name := by
  rcases Registry.operation_builtIn name with ⟨hmem, hname⟩ | hnone
  · refine ⟨?_, hname⟩
    revert hmap hflow hmem
    generalize Registry.builtIn.operation name = operation
    intro hflow hmap hmem
    rcases List.mem_append.mp hmem with hflowing | hmem
    · rw [(Flow.mem_operations_cases hflowing).1] at hflow
      cases hflow
    · simp only [List.mem_cons, List.not_mem_nil, or_false] at hmem
      rcases hmem with rfl | rfl | rfl | rfl | rfl | rfl | rfl | rfl | rfl | rfl | rfl | rfl
      all_goals cases hmap
      all_goals simp only [followingForward, List.mem_cons, true_or, or_true]
  · rw [hnone] at hmap
    cases hmap

/-- The body of an operation that is a function of arguments and input. -/
theorem Operation.exists_of_bake {operation : Operation}
    {f : List Argument → Dish → Except Fault Dish} (htransform : operation.transform = .ofFunction f)
    {context : Context} {args : List Argument} {before after : Dish} {log last : Log}
    (h : operation.bake context args before log = (.ok after, last)) :
    ∃ taken given, before.convert operation.descriptor.input = .ok taken ∧
      f args taken = .ok given ∧ given.convert operation.descriptor.output = .ok after := by
  rw [bake, htransform] at h
  cases htaken : before.convert operation.descriptor.input with
  | error error =>
    rw [htaken] at h
    cases h
  | ok taken =>
    rw [htaken] at h
    cases hgiven : f args taken with
    | error fault =>
      simp only [Transform.ofFunction, hgiven, Except.mapError] at h
      cases h
    | ok given =>
      simp only [Transform.ofFunction, hgiven, Except.mapError] at h
      cases hafter : given.convert operation.descriptor.output with
      | error error =>
        rw [hafter] at h
        cases h
      | ok found =>
        rw [hafter] at h
        cases h
        exact ⟨taken, given, rfl, hgiven, hafter⟩

namespace Encoding

variable {context : Context} {args : List Argument} {before after : Dish} {log last : Log}

/-- To Base64 writes as many symbols as its map tells. -/
theorem le_size_of_base64Encoder
    (h : base64Encoder.bake context args before log = (.ok after, last)) :
    divideUp before.size 3 * 4 ≤ after.size := by
  obtain ⟨taken, given, htaken, hgiven, hafter⟩ := Operation.exists_of_bake rfl h
  obtain ⟨bytes, rfl, hsize⟩ := Dish.exists_bytes_of_convert htaken
  cases hgiven
  cases hafter
  have hlength : (utf8Encode (String.ofList (Base64.encode (alphabetAt args 0) bytes))).length =
      divideUp bytes.length 3 * 4 := by
    rw [Base64.utf8Encode_encode, Base64.encodeBytes, List.length_map, Base64.length_encode]
  rw [Dish.size, hlength]
  exact Nat.mul_le_mul_right 4 (divideUp_mono (by decide) hsize)

theorem le_size_of_hexEncoder (h : hexEncoder.bake context args before log = (.ok after, last)) :
    before.size * byteWidth args - (byteWidth args - 2) ≤ after.size := by
  obtain ⟨taken, given, htaken, hgiven, hafter⟩ := Operation.exists_of_bake rfl h
  obtain ⟨bytes, rfl, hsize⟩ := Dish.exists_bytes_of_convert htaken
  cases hgiven
  cases hafter
  have hlength : (utf8Encode (String.ofList (Hex.encode (delimiterAt args 0) bytes))).length =
      bytes.length * byteWidth args - (byteWidth args - 2) := by
    rw [utf8Encode_hex, List.length_map, Hex.length_encode, byteWidth, Nat.add_sub_cancel_left]
  rw [Dish.size, hlength]
  exact Nat.sub_le_sub_right (Nat.mul_le_mul_right _ hsize) _

/-- From Base64 reads as many bytes as its map tells, if the text has no fillings and nothing is left
out. -/
theorem le_size_of_base64Decoder
    (hsymbols : ∀ text, before.convert .string = .ok (.string text) →
      ∀ c ∈ text.toList, c ∈ (alphabetAt args 0).symbols)
    (h : base64Decoder.bake context args before log = (.ok after, last)) :
    divideUp before.size 4 * 3 ≤ after.size := by
  obtain ⟨taken, given, htaken, hgiven, hafter⟩ := Operation.exists_of_bake rfl h
  obtain ⟨text, rfl, hsize⟩ := Dish.exists_text_of_convert htaken
  have hall := hsymbols text htaken
  obtain ⟨bytes, rfl, hclean⟩ := fromBase64_eq_ok_iff.mp hgiven
  rw [cleaned_eq_self fun c hc => .inl (hall c hc)] at hclean
  cases hafter
  have hwhole : 3 ∣ bytes.length := by
    apply Base64.dvd_length_of_notMem (alphabetAt args 0)
    rw [← hclean]
    exact fun hfill => Base64.Alphabet.fill_notMem_symbols _ (hall _ hfill)
  obtain ⟨k, hk⟩ := hwhole
  have hlength : (utf8Encode text).length = k * 4 := by
    rw [← String.ofList_toList (s := text), hclean, Base64.utf8Encode_encode, Base64.encodeBytes,
      List.length_map, Base64.length_encode, hk, Nat.mul_comm 3 k, divideUp_mul k (by decide)]
  rw [hlength] at hsize
  have hgroups : divideUp before.size 4 ≤ k := (divideUp_le_iff (by decide)).mpr hsize
  change divideUp before.size 4 * 3 ≤ bytes.length
  omega

/-- From Hex reads as many bytes as its map tells, if separators do not take more than a third of the text. -/
theorem le_size_of_hexDecoder
    (hdense : ∀ text, before.convert .string = .ok (.string text) →
      2 * (utf8Encode text).length ≤ 3 * (text.toList.filter isHexDigit).length)
    (h : hexDecoder.bake context args before log = (.ok after, last)) :
    divideUp before.size 3 ≤ after.size := by
  obtain ⟨taken, given, htaken, hgiven, hafter⟩ := Operation.exists_of_bake rfl h
  obtain ⟨text, rfl, hsize⟩ := Dish.exists_text_of_convert htaken
  have hall := hdense text htaken
  obtain ⟨heven, rfl⟩ := fromHex_eq_ok_iff.mp hgiven
  cases hafter
  apply (divideUp_le_iff (by decide)).mpr
  rw [Dish.size, Hex.length_bytesOfDigits]
  omega

end Encoding

/-! ## Steps of a plan -/

/-- A step gives as much as the map of its operation tells: a change of the case does not shorten the
text, Base64 is read from symbols alone, and hexadecimal from a text of which two bytes in three are digits.
Of the other steps nothing is asked. -/
structure Step.KeepsUp (step : Step) (before after : Dish) : Prop where
  letterCase : step.operation = LetterCase.upperCase.name ∨ step.operation = LetterCase.lowerCase.name →
    before.size ≤ after.size
  base64 : step.operation = Encoding.base64Decoder.name →
    ∀ text, before.convert .string = .ok (.string text) →
      ∀ c ∈ text.toList, c ∈ (Encoding.alphabetAt step.args 0).symbols
  hex : step.operation = Encoding.hexDecoder.name →
    ∀ text, before.convert .string = .ok (.string text) →
      2 * (utf8Encode text).length ≤ 3 * (text.toList.filter isHexDigit).length

namespace Encoding

/-- The choices of a bound step are the same in every state of a bake. -/
theorem alphabetAt_substituteArguments (registers : Registers) {values args : List Argument}
    (h : base64Decoder.descriptor.bind values = .ok args) :
    alphabetAt (registers.substituteArguments args) 0 = alphabetAt args 0 := by
  have hmem : base64Decoder ∈ builtInOperations := by
    simp only [builtInOperations, List.mem_append, List.mem_cons, true_or, or_true]
  rw [alphabetAt, alphabetAt, registers.textAt_substituteArguments hmem h rfl rfl]

theorem byteWidth_substituteArguments (registers : Registers) {values args : List Argument}
    (h : hexEncoder.descriptor.bind values = .ok args) :
    byteWidth (registers.substituteArguments args) = byteWidth args := by
  have hmem : hexEncoder ∈ builtInOperations := by
    simp only [builtInOperations, List.mem_append, List.mem_cons, true_or, or_true]
  have htext : textAt (registers.substituteArguments args) 0 = textAt args 0 :=
    registers.textAt_substituteArguments hmem h rfl rfl
  simp only [byteWidth, delimiterAt, htext]

/-- From Hex has no arguments, and its map the width of a byte with a delimiter. -/
theorem byteWidth_of_hexDecoder {values args : List Argument}
    (h : hexDecoder.descriptor.bind values = .ok args) : byteWidth args = 3 := by
  obtain ⟨hlength, -⟩ := Parameter.bindAll_eq_ok_iff.mp (Descriptor.bind_eq_ok_iff.mp h).2
  obtain rfl : args = [] := List.length_eq_zero_iff.mp hlength
  rfl

end Encoding

/-- An operation whose step keeps up follows ranges of what it takes to ranges of what it gives. -/
theorem Operation.exists_follows_fitsIn {operation : Operation} (hmem : operation ∈ followingForward)
    {step : Step} (hname : step.operation = operation.name) {values : List Argument}
    (hbind : operation.descriptor.bind values = .ok step.args) {free : Prop}
    (hfree : free → step.operation = Encoding.hexEncoder.name → Encoding.delimiterAt step.args 0 = [])
    {context : Context} {registers : Registers} {before after : Dish} {log last : Log}
    (hbake : operation.bake context (registers.substituteArguments step.args) before log =
      (.ok after, last))
    (hkeeps : step.KeepsUp before after) :
    ∃ there back, operation.Follows step.args there back ∧
      ∀ r : ByteRange, r.FitsIn free before.size → (there r).FitsIn free after.size := by
  simp only [followingForward, List.mem_cons, List.not_mem_nil, or_false] at hmem
  rcases hmem with rfl | rfl | rfl | rfl | rfl | rfl
  · exact ⟨_, _, LetterCase.follows_upperCase _, fun r hr => hr.mono (hkeeps.letterCase (.inl hname))⟩
  · exact ⟨_, _, LetterCase.follows_lowerCase _, fun r hr => hr.mono (hkeeps.letterCase (.inr hname))⟩
  · refine ⟨_, _, Encoding.follows_base64Encoder _, fun r hr => ?_⟩
    exact (hr.regroup (by decide) (by decide)).mono (Encoding.le_size_of_base64Encoder hbake)
  · refine ⟨_, _, Encoding.follows_base64Decoder _, fun r hr => ?_⟩
    have hsymbols := hkeeps.base64 hname
    rw [← Encoding.alphabetAt_substituteArguments registers hbind] at hsymbols
    exact (hr.regroup (by decide) (by decide)).mono (Encoding.le_size_of_base64Decoder hsymbols hbake)
  · refine ⟨_, _, Encoding.follows_hexEncoder _, fun r hr => ?_⟩
    have hwritten := Encoding.le_size_of_hexEncoder hbake
    rw [Encoding.byteWidth_substituteArguments registers hbind] at hwritten
    have hwidth : free → Encoding.byteWidth step.args = 2 := fun h => by
      rw [Encoding.byteWidth, hfree h hname]
      rfl
    exact (hr.spread (Nat.le_add_right _ _) hwidth).mono hwritten
  · refine ⟨_, _, Encoding.follows_hexDecoder _, fun r hr => ?_⟩
    have hread := Encoding.le_size_of_hexDecoder (hkeeps.hex hname) hbake
    rw [Encoding.byteWidth_of_hexDecoder hbind]
    exact (hr.regroup (by decide) (by decide)).mono (by rwa [Nat.mul_one])

end Kitchen
