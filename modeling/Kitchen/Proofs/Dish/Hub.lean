import Kitchen.Dish.Conversion
import Kitchen.Proofs.Number.Decimal
import Kitchen.Proofs.Text.Utf8

/-!
# Bytes as the hub of conversions

The direct ways between two kinds are shortcuts. A dish becomes another kind as it does by way of its
bytes, or is refused for the same reason.
-/

namespace Kitchen

open Text

namespace Dish

/-! ## Reading what was written -/

theorem readText_utf8Encode (text : String) : readText (utf8Encode text) = .ok text := by
  rw [readText, utf8Decode_utf8Encode]
  rfl

theorem integerText_eq (n : Int64) : integerText n = (Decimal.ofInt n.toInt).text := by
  rw [Decimal.text, Decimal.chars_whole rfl, integerText, ← String.ofList_toList (s := toString n.toInt),
    toList_toString]
  rfl

theorem fitsInt64_toInt (n : Int64) : fitsInt64 n.toInt = true :=
  Decimal.fitsInt64_iff.mpr ⟨n.le_toInt, n.toInt_lt⟩

section Decimals

variable {value : Decimal}

theorem readDecimal_text (h : Decimal.isScale value.scale = true) :
    readDecimal value.text = .ok value.writtenOut := by
  have hbody : trimChars value.text.toList = value.chars := by
    rw [Decimal.text, String.toList_ofList, Decimal.trimChars_chars]
  simp only [readDecimal, hbody, List.isEmpty_eq_false_iff.mpr (Decimal.chars_ne_nil h),
    Decimal.ofChars?_chars h, Bool.false_eq_true, if_false]

/-- An integer is read from a written decimal as from the decimal that it shows. The reader that takes
digits only comes first, and finds the same. -/
theorem readWhole_text (h : Decimal.isScale value.scale = true) :
    readWhole value.text = wholeOfDecimal value.writtenOut := by
  have hbody : trimChars value.text.toList = value.chars := by
    rw [Decimal.text, String.toList_ofList, Decimal.trimChars_chars]
  simp only [readWhole, hbody, List.isEmpty_eq_false_iff.mpr (Decimal.chars_ne_nil h),
    Bool.false_eq_true, if_false, readInt64?, Decimal.readInteger?_chars]
  by_cases hplaces : 0 < value.scale ∨ Decimal.positionalLimit < value.scale.natAbs
  · rw [if_pos hplaces, Option.filter_none, Decimal.ofChars?_chars h]
  · rw [if_neg hplaces]
    have hscale : value.scale = -(value.scale.natAbs : Int) := by omega
    have hwhole := Decimal.toInteger_of_nonpos value.scale.natAbs hscale
    cases hfits : fitsInt64 (value.digits * tenTo value.scale.natAbs) with
    | true =>
      rw [Option.filter_some_pos hfits, wholeOfDecimal, Decimal.toInteger_writtenOut, hwhole,
        if_pos hfits]
    | false => rw [Option.filter_some_neg hfits, Decimal.ofChars?_chars h]

/-- The decimal that a written decimal shows is no other integer, and is refused in the same words. -/
theorem wholeOfDecimal_writtenOut (value : Decimal) :
    (wholeOfDecimal value.writtenOut).mapError ContentFault.message =
      (wholeOfDecimal value).mapError ContentFault.message := by
  rw [wholeOfDecimal, wholeOfDecimal, Decimal.toInteger_writtenOut]
  by_cases hzero : value.digits = 0
  · rw [Decimal.toInteger, if_pos hzero]
  · have htext : value.writtenOut.text = value.text := by
      rw [Decimal.text, Decimal.text, Decimal.chars_writtenOut hzero]
    cases value.toInteger with
    | integer n => rfl
    | tooLarge => simp only [Except.mapError, ContentFault.message, htext]
    | notWhole => simp only [Except.mapError, ContentFault.message, htext]

end Decimals

theorem wholeOfDecimal_ofInt (n : Int64) : wholeOfDecimal (Decimal.ofInt n.toInt) = .ok n := by
  rw [wholeOfDecimal, Decimal.toInteger_of_nonpos 0 rfl]
  simp only [Decimal.ofInt, tenTo_zero, Int.natCast_one, Int.mul_one, fitsInt64_toInt, if_true,
    Int64.ofInt_toInt]

theorem readWhole_integerText (n : Int64) : readWhole (integerText n) = .ok n := by
  rw [integerText_eq, readWhole_text (Decimal.isScale_ofInt _),
    Decimal.writtenOut_of_nonneg (Int.le_refl 0), wholeOfDecimal_ofInt]

theorem readDecimal_integerText (n : Int64) :
    readDecimal (integerText n) = .ok (Decimal.ofInt n.toInt) := by
  rw [integerText_eq, readDecimal_text (Decimal.isScale_ofInt _),
    Decimal.writtenOut_of_nonneg (Int.le_refl 0)]

/-! ## The hub -/

/-- A scale of 64 bits that has a negation of 64 bits. -/
def HasScale : Dish → Prop
  | bigNumber value => -(twoTo 63 : Int) < value.scale ∧ value.scale < twoTo 63
  | _ => True

theorem isScale_of_hasScale {value : Decimal} (h : (bigNumber value).HasScale) :
    Decimal.isScale value.scale = true := by
  rw [Decimal.isScale, decide_eq_true (Int.le_of_lt h.1), decide_eq_true h.2]
  rfl

section Written

variable (text : String)

theorem ofBytes_utf8Encode_string : ofBytes (utf8Encode text) .string = .ok (string text) := by
  rw [ofBytes, readText_utf8Encode]
  rfl

theorem ofBytes_utf8Encode_number :
    ofBytes (utf8Encode text) .number = (readWhole text).map number := by
  rw [ofBytes, readText_utf8Encode]
  rfl

theorem ofBytes_utf8Encode_bigNumber :
    ofBytes (utf8Encode text) .bigNumber = (readDecimal text).map bigNumber := by
  rw [ofBytes, readText_utf8Encode]
  rfl

theorem ofBytes_utf8Encode_json : ofBytes (utf8Encode text) .json = (readJson text).map json := by
  rw [ofBytes, readText_utf8Encode]
  rfl

end Written

theorem convert_binary {dish : Dish} {bytes : List UInt8} (h : dish.toBytes? = some bytes) :
    dish.convert .byteArray = .ok (byteArray bytes) ∧
      dish.convert .arrayBuffer = .ok (arrayBuffer bytes) := by
  cases dish with
  | html markup => exact absurd h (by simp [toBytes?])
  | _ =>
    cases h
    exact ⟨rfl, rfl⟩

section Carriers

variable (bytes : List UInt8) (text : String) (target : Kind)

theorem convert_of_byteArray :
    (byteArray bytes).convert target =
      (ofBytes bytes target).mapError (.malformed .byteArray target) := by
  cases target <;> rfl

theorem convert_of_arrayBuffer :
    (arrayBuffer bytes).convert target =
      (ofBytes bytes target).mapError (.malformed .arrayBuffer target) := by
  cases target <;> rfl

/-- A text is read as its bytes are. -/
theorem convert_of_string :
    (string text).convert target =
      (ofBytes (utf8Encode text) target).mapError (.malformed .string target) := by
  cases target with
  | string => rw [ofBytes_utf8Encode_string]; rfl
  | number => rw [ofBytes_utf8Encode_number]; rfl
  | bigNumber => rw [ofBytes_utf8Encode_bigNumber]; rfl
  | json => rw [ofBytes_utf8Encode_json]; rfl
  | _ => rfl

end Carriers

private theorem mapError_map {α β ε ε' : Type} (f : α → β) (g : ε → ε') (r : Except ε α) :
    (r.map f).mapError g = (r.mapError g).map f := by
  cases r <;> rfl

/-- What a conversion reads is read from the bytes, up to the decimal that a refusal shows. -/
private theorem convert_eq_mapError {dish : Dish} {bytes : List UInt8} {target : Kind}
    (hbytes : dish.toBytes? = some bytes) (hfiles : dish.kind ≠ .listFile)
    (hkind : target ≠ dish.kind) (hscale : dish.HasScale) :
    ∃ read : Except ContentFault Dish,
      dish.convert target = read.mapError (.malformed dish.kind target) ∧
        read.mapError ContentFault.message =
          (ofBytes bytes target).mapError ContentFault.message := by
  cases dish with
  | html markup => exact absurd hbytes (by simp [toBytes?])
  | listFile files => exact absurd rfl hfiles
  | byteArray _ =>
    cases hbytes
    exact ⟨_, convert_of_byteArray bytes target, rfl⟩
  | arrayBuffer _ =>
    cases hbytes
    exact ⟨_, convert_of_arrayBuffer bytes target, rfl⟩
  | string text =>
    cases hbytes
    exact ⟨_, convert_of_string text target, rfl⟩
  | number n =>
    cases hbytes
    refine ⟨ofBytes (utf8Encode (integerText n)) target, ?_, rfl⟩
    cases target with
    | number => exact absurd rfl hkind
    | string => rw [ofBytes_utf8Encode_string]; rfl
    | bigNumber => rw [ofBytes_utf8Encode_bigNumber, readDecimal_integerText]; rfl
    | _ => rfl
  | bigNumber value =>
    cases hbytes
    cases target with
    | bigNumber => exact absurd rfl hkind
    | string =>
      refine ⟨ofBytes (utf8Encode value.text) .string, ?_, rfl⟩
      rw [ofBytes_utf8Encode_string]
      rfl
    | number =>
      -- The value is not written before it is taken for an integer, so that a refusal may show it with
      -- fewer zeros than its bytes have.
      refine ⟨(wholeOfDecimal value).map number, rfl, ?_⟩
      have hshown := wholeOfDecimal_writtenOut value
      rw [ofBytes_utf8Encode_number, readWhole_text (isScale_of_hasScale hscale), mapError_map,
        mapError_map, hshown]
    | _ => exact ⟨ofBytes (utf8Encode value.text) _, rfl, rfl⟩
  | json value =>
    cases hbytes
    refine ⟨ofBytes (utf8Encode (jsonText value)) target, ?_, rfl⟩
    cases target with
    | json => exact absurd rfl hkind
    | string => rw [ofBytes_utf8Encode_string]; rfl
    | _ => rfl

/-- A dish converts as its bytes do: to the same dish, or it is refused for the same reason. Only the
kind from which the conversion went differs. -/
theorem convert_agrees_hub {dish : Dish} {target : Kind} (hmarkup : dish.kind ≠ .html)
    (hfiles : dish.kind ≠ .listFile) (hkind : target ≠ dish.kind) (hscale : dish.HasScale) :
    (∃ converted, dish.convert target = .ok converted ∧
        (dish.convert .byteArray).bind (·.convert target) = .ok converted) ∨
      ∃ fault fault', dish.convert target = .error (.malformed dish.kind target fault) ∧
        (dish.convert .byteArray).bind (·.convert target) =
          .error (.malformed .byteArray target fault') ∧
        fault.message = fault'.message := by
  obtain ⟨bytes, hbytes⟩ : ∃ bytes, dish.toBytes? = some bytes := by
    cases dish with
    | html markup => exact absurd rfl hmarkup
    | _ => exact ⟨_, rfl⟩
  obtain ⟨read, hdirect, hreason⟩ := convert_eq_mapError hbytes hfiles hkind hscale
  have hhub : (dish.convert .byteArray).bind (·.convert target) =
      (ofBytes bytes target).mapError (.malformed .byteArray target) := by
    rw [(convert_binary hbytes).1]
    exact convert_of_byteArray bytes target
  rw [hdirect, hhub]
  cases hread : read with
  | ok converted =>
    cases hbytes' : ofBytes bytes target with
    | ok converted' =>
      rw [hread, hbytes'] at hreason
      cases hreason
      exact .inl ⟨converted, rfl, rfl⟩
    | error fault => rw [hread, hbytes'] at hreason; cases hreason
  | error fault =>
    cases hbytes' : ofBytes bytes target with
    | ok converted => rw [hread, hbytes'] at hreason; cases hreason
    | error fault' =>
      rw [hread, hbytes'] at hreason
      exact .inr ⟨fault, fault', rfl, rfl, Except.error.inj hreason⟩

/-- A decimal with zeros before the point is written out for its bytes. -/
theorem convert_agrees_hub_seven_hundred :
    (bigNumber ⟨7, -2⟩).kind ≠ .html ∧ (bigNumber ⟨7, -2⟩).kind ≠ .listFile ∧
      .number ≠ (bigNumber ⟨7, -2⟩).kind ∧ (bigNumber ⟨7, -2⟩).HasScale ∧
      ((∃ converted, (bigNumber ⟨7, -2⟩).convert .number = .ok converted ∧
          ((bigNumber ⟨7, -2⟩).convert .byteArray).bind (·.convert .number) = .ok converted) ∨
        ∃ fault fault',
          (bigNumber ⟨7, -2⟩).convert .number = .error (.malformed .bigNumber .number fault) ∧
            ((bigNumber ⟨7, -2⟩).convert .byteArray).bind (·.convert .number) =
              .error (.malformed .byteArray .number fault') ∧
            fault.message = fault'.message) :=
  ⟨by decide, by decide, by decide, ⟨by decide, by decide⟩,
    convert_agrees_hub (by decide) (by decide) (by decide) ⟨by decide, by decide⟩⟩

end Dish
end Kitchen
