import Kitchen.Proofs.Dish.Hub
import Kitchen.Proofs.Json.Integer
import Kitchen.Proofs.Number.Value

/-!
# Conversions that lose nothing

A dish that was converted to a kind that keeps all of it comes back the same. Decimals come back with
the same value: zeros before the point may have become digits.
-/

namespace Kitchen

open Text

/-- The kinds through which a dish of a kind comes back. -/
def Kind.lossless : Kind → List Kind
  | byteArray => [arrayBuffer, string, listFile]
  | arrayBuffer => [byteArray, string, listFile]
  | string => [byteArray, arrayBuffer]
  | number => [string, byteArray, arrayBuffer, bigNumber, json]
  | bigNumber => [string, byteArray, arrayBuffer, number]
  | json | listFile | html => []

namespace Dish

/-- The same dish, or decimals of the same value. -/
def SameValue : Dish → Dish → Prop
  | bigNumber value, bigNumber other => value.value = other.value
  | dish, other => dish = other

/-- What a dish converts to converts back to the same value. -/
def ComesBack (dish : Dish) (target : Kind) : Prop :=
  ∀ converted, dish.convert target = .ok converted →
    ∃ back, converted.convert dish.kind = .ok back ∧ back.SameValue dish

section Carriers

variable {back : Dish} {bytes : List UInt8}

private theorem comesBack_of_carrier {dish carrier : Dish} {target : Kind}
    (hconvert : dish.convert target = .ok carrier)
    (hread : carrier.convert dish.kind = (ofBytes bytes dish.kind).mapError (.malformed target dish.kind))
    (hback : ofBytes bytes dish.kind = .ok back) (hsame : back.SameValue dish) :
    dish.ComesBack target := by
  intro converted h
  cases hconvert.symm.trans h
  rw [hback] at hread
  exact ⟨back, hread, hsame⟩

private theorem comesBack_binary (dish : Dish) (hbytes : dish.toBytes? = some bytes)
    (hback : ofBytes bytes dish.kind = .ok back) (hsame : back.SameValue dish) :
    dish.ComesBack .byteArray ∧ dish.ComesBack .arrayBuffer := by
  obtain ⟨hbyteArray, harrayBuffer⟩ := convert_binary hbytes
  exact ⟨comesBack_of_carrier hbyteArray (convert_of_byteArray bytes dish.kind) hback hsame,
    comesBack_of_carrier harrayBuffer (convert_of_arrayBuffer bytes dish.kind) hback hsame⟩

end Carriers

/-! ## Kinds that lose nothing -/

section Kinds

variable {target : Kind}

private theorem toBytes?_of_ofBytes {bytes : List UInt8} {converted : Dish}
    (htarget : target = .string ∨ target = .listFile) (h : ofBytes bytes target = .ok converted) :
    converted.toBytes? = some bytes := by
  rcases htarget with rfl | rfl
  · rw [ofBytes] at h
    cases hread : utf8Decode bytes with
    | error fault =>
      rw [readText, hread] at h
      cases h
    | ok text =>
      rw [readText, hread] at h
      cases h
      exact congrArg some (utf8Encode_of_utf8Decode hread)
  · cases h
    exact congrArg some (List.append_nil bytes)

private theorem comesBack_of_read {dish : Dish} {bytes : List UInt8}
    (htarget : target = .string ∨ target = .listFile)
    (hconvert : dish.convert target = (ofBytes bytes target).mapError (.malformed dish.kind target))
    (hback : ∀ converted : Dish, converted.toBytes? = some bytes →
      converted.convert dish.kind = .ok dish)
    (hsame : dish.SameValue dish) : dish.ComesBack target := by
  intro converted h
  rw [hconvert] at h
  cases hread : ofBytes bytes target with
  | error fault => rw [hread] at h; cases h
  | ok read =>
    rw [hread] at h
    cases h
    exact ⟨dish, hback _ (toBytes?_of_ofBytes htarget hread), hsame⟩

private theorem byteArray_comesBack {bytes : List UInt8} (h : target ∈ Kind.byteArray.lossless) :
    (byteArray bytes).ComesBack target := by
  simp only [Kind.lossless, List.mem_cons, List.not_mem_nil, or_false] at h
  rcases h with rfl | htarget
  · exact (comesBack_binary (byteArray bytes) rfl rfl rfl).2
  · exact comesBack_of_read htarget (convert_of_byteArray bytes target)
      (fun _ hbytes => (convert_binary hbytes).1) rfl

private theorem arrayBuffer_comesBack {bytes : List UInt8} (h : target ∈ Kind.arrayBuffer.lossless) :
    (arrayBuffer bytes).ComesBack target := by
  simp only [Kind.lossless, List.mem_cons, List.not_mem_nil, or_false] at h
  rcases h with rfl | htarget
  · exact (comesBack_binary (arrayBuffer bytes) rfl rfl rfl).1
  · exact comesBack_of_read htarget (convert_of_arrayBuffer bytes target)
      (fun _ hbytes => (convert_binary hbytes).2) rfl

private theorem string_comesBack {text : String} (h : target ∈ Kind.string.lossless) :
    (string text).ComesBack target := by
  obtain ⟨hbyteArray, harrayBuffer⟩ :=
    comesBack_binary (string text) rfl (ofBytes_utf8Encode_string text) rfl
  simp only [Kind.lossless, List.mem_cons, List.not_mem_nil, or_false] at h
  rcases h with rfl | rfl
  · exact hbyteArray
  · exact harrayBuffer

private theorem bigNumber_convert_number (value : Decimal) : (bigNumber value).convert .number =
    ((wholeOfDecimal value).map number).mapError (.malformed .bigNumber .number) := rfl

/-- An integer is a document in its own digits. -/
private theorem number_convert_json (n : Int64) :
    (number n).convert .json = .ok (json (.number (.whole n.toInt))) := by
  have hhi := n.toInt_lt
  have hread : readJson (integerText n) = .ok (.number (.whole n.toInt)) := by
    rw [readJson, integerText, Json.parse_toString n.le_toInt (Int.lt_trans hhi (by decide))]
    rfl
  have hhub : (number n).convert .json =
      (ofBytes (utf8Encode (integerText n)) .json).mapError (.malformed .number .json) := rfl
  rw [hhub, ofBytes_utf8Encode_json, hread]
  rfl

private theorem json_convert_number (n : Int64) :
    (json (.number (.whole n.toInt))).convert .number = .ok (number n) := by
  have htext : jsonText (.number (.whole n.toInt)) = integerText n := String.ofList_toList
  have hhub : (json (.number (.whole n.toInt))).convert .number =
      (ofBytes (utf8Encode (jsonText (.number (.whole n.toInt)))) .number).mapError
        (.malformed .json .number) := rfl
  rw [hhub, htext, ofBytes_utf8Encode_number, readWhole_integerText]
  rfl

private theorem number_comesBack {n : Int64} (h : target ∈ Kind.number.lossless) :
    (number n).ComesBack target := by
  have hback : ofBytes (utf8Encode (integerText n)) .number = .ok (number n) := by
    rw [ofBytes_utf8Encode_number, readWhole_integerText]
    rfl
  -- The string and both binary kinds carry the digits.
  obtain ⟨hbyteArray, harrayBuffer⟩ := comesBack_binary (number n) rfl hback rfl
  simp only [Kind.lossless, List.mem_cons, List.not_mem_nil, or_false] at h
  rcases h with rfl | rfl | rfl | rfl | rfl
  · exact comesBack_of_carrier rfl (convert_of_string _ _) hback rfl
  · exact hbyteArray
  · exact harrayBuffer
  · intro converted hconvert
    cases hconvert
    refine ⟨number n, ?_, rfl⟩
    rw [kind, bigNumber_convert_number, wholeOfDecimal_ofInt]
    rfl
  · intro converted hconvert
    cases (number_convert_json n).symm.trans hconvert
    exact ⟨number n, json_convert_number n, rfl⟩

private theorem bigNumber_comesBack {value : Decimal} (h : target ∈ Kind.bigNumber.lossless)
    (hscale : (bigNumber value).HasScale) : (bigNumber value).ComesBack target := by
  have hback : ofBytes (utf8Encode value.text) .bigNumber = .ok (bigNumber value.writtenOut) := by
    rw [ofBytes_utf8Encode_bigNumber, readDecimal_text (isScale_of_hasScale hscale)]
    rfl
  have hsame : (bigNumber value.writtenOut).SameValue (bigNumber value) := value.value_writtenOut
  obtain ⟨hbyteArray, harrayBuffer⟩ := comesBack_binary (bigNumber value) rfl hback hsame
  simp only [Kind.lossless, List.mem_cons, List.not_mem_nil, or_false] at h
  rcases h with rfl | rfl | rfl | rfl
  · exact comesBack_of_carrier rfl (convert_of_string _ _) hback hsame
  · exact hbyteArray
  · exact harrayBuffer
  · intro converted hconvert
    rw [bigNumber_convert_number, wholeOfDecimal] at hconvert
    cases hwhole : value.toInteger with
    | tooLarge => rw [hwhole] at hconvert; cases hconvert
    | notWhole => rw [hwhole] at hconvert; cases hconvert
    | integer n =>
      rw [hwhole] at hconvert
      cases hconvert
      obtain ⟨hvalue, hlo, hhi⟩ := Decimal.value_of_toInteger hwhole
      refine ⟨_, rfl, ?_⟩
      rw [SameValue, Int64.toInt_ofInt_of_le hlo hhi, Decimal.value_ofInt, hvalue]

end Kinds

/-- A dish comes back from every kind to which it converts without loss. -/
theorem convert_lossless {dish converted : Dish} {target : Kind} (h : target ∈ dish.kind.lossless)
    (hscale : dish.HasScale) (hconvert : dish.convert target = .ok converted) :
    ∃ back, converted.convert dish.kind = .ok back ∧ back.SameValue dish := by
  cases dish with
  | byteArray bytes => exact byteArray_comesBack h converted hconvert
  | arrayBuffer bytes => exact arrayBuffer_comesBack h converted hconvert
  | string text => exact string_comesBack h converted hconvert
  | number n => exact number_comesBack h converted hconvert
  | bigNumber value => exact bigNumber_comesBack h hscale converted hconvert
  | json value => exact absurd h List.not_mem_nil
  | listFile files => exact absurd h List.not_mem_nil
  | html markup => exact absurd h List.not_mem_nil

/-- A scale beyond the limit is kept in an exponent. -/
theorem convert_lossless_exponent :
    .string ∈ (bigNumber ⟨-5, -5000⟩).kind.lossless ∧ (bigNumber ⟨-5, -5000⟩).HasScale ∧
      (bigNumber ⟨-5, -5000⟩).convert .string = .ok (string "-5E5000") ∧
      ∃ back, (string "-5E5000").convert .bigNumber = .ok back ∧
        back.SameValue (bigNumber ⟨-5, -5000⟩) := by
  have hmem : .string ∈ (bigNumber ⟨-5, -5000⟩).kind.lossless := by decide
  have hscale : (bigNumber ⟨-5, -5000⟩).HasScale := ⟨by decide, by decide⟩
  have hconvert : (bigNumber ⟨-5, -5000⟩).convert .string = .ok (string "-5E5000") := by
    rfl
  exact ⟨hmem, hscale, hconvert, convert_lossless hmem hscale hconvert⟩

end Dish
end Kitchen
