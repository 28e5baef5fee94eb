import Kitchen.Dish.Conversion
import Kitchen.Proofs.Dish.Hub
import Kitchen.Proofs.Json.Layout
import Mathlib.Algebra.Order.BigOperators.Group.List
import Mathlib.Data.List.Flatten

/-!
# Sizes of converted dishes

A conversion to text or to bytes makes no dish smaller: bytes stay as they are, and documents are
measured in their compact form but written with blanks.
-/

namespace Kitchen

open Text

/-! ## Bytes of texts -/

namespace Text

/-- Every character takes a byte at least. -/
theorem length_le_utf8Encode (s : String) : s.length ≤ (utf8Encode s).length := by
  rw [utf8Encode, List.length_flatMap, ← String.length_toList]
  calc s.toList.length = (s.toList.map fun c => (String.utf8EncodeChar c).length).length := by
        rw [List.length_map]
    _ ≤ (s.toList.map fun c => (String.utf8EncodeChar c).length).sum := by
        apply List.length_le_sum_of_one_le
        intro n hn
        obtain ⟨c, -, rfl⟩ := List.mem_map.mp hn
        rw [String.length_utf8EncodeChar]
        exact Char.utf8Size_pos c

theorem length_utf8Encode_of_sublist {s t : List Char} (h : s.Sublist t) :
    (utf8Encode (String.ofList s)).length ≤ (utf8Encode (String.ofList t)).length := by
  rw [utf8Encode, utf8Encode, String.toList_ofList, String.toList_ofList]
  exact (h.flatMap _).length_le

end Text

/-! ## Documents -/

namespace Json

/-- The compact form is no longer than the form with one item a line. -/
theorem length_compact_le (value : Json) (indent : String) :
    (utf8Encode value.compact).length ≤ (utf8Encode (value.pretty indent)).length := by
  apply length_utf8Encode_of_sublist
  rw [compactChars_eq 0, prettyChars_eq]
  exact layoutChars_sublist _ 0 value

end Json

/-! ## Dishes -/

/-- The kinds that hold text, markup or bytes, as they are. -/
def Kind.isVerbatim (kind : Kind) : Bool :=
  kind == .byteArray || kind == .arrayBuffer || kind == .string || kind == .html || kind == .listFile

namespace Dish

/-- The bytes of a dish are as many as its size says, or more. -/
theorem size_le_toBytes? {dish : Dish} {bytes : List UInt8} (h : dish.toBytes? = some bytes) :
    dish.size ≤ bytes.length := by
  cases dish with
  | html markup => cases h
  | number n =>
    cases h
    exact length_le_utf8Encode _
  | bigNumber value =>
    cases h
    have hlength := length_le_utf8Encode value.text
    rwa [Decimal.text, String.length_ofList] at hlength
  | json value =>
    cases h
    exact Json.length_compact_le value jsonIndent
  | _ =>
    cases h
    exact Nat.le_refl _

private theorem eq_ok_of_mapError {α ε ε' : Type} {f : ε → ε'} {read : Except ε α} {a : α}
    (h : read.mapError f = .ok a) : read = .ok a := by
  cases read with
  | error error => cases h
  | ok found =>
    cases h
    rfl

theorem utf8Encode_of_readText {bytes : List UInt8} {text : String} (h : readText bytes = .ok text) :
    utf8Encode text = bytes :=
  utf8Encode_of_utf8Decode (eq_ok_of_mapError h)

/-- What is read from bytes as text or as bytes has the kind that is asked for, and their size. -/
theorem kind_size_ofBytes {bytes : List UInt8} {kind : Kind} {dish : Dish}
    (hkind : kind.isVerbatim = true) (h : ofBytes bytes kind = .ok dish) :
    dish.kind = kind ∧ dish.size = bytes.length := by
  cases kind with
  | byteArray | arrayBuffer =>
    cases h
    exact ⟨rfl, rfl⟩
  | listFile =>
    cases h
    exact ⟨rfl, congrArg List.length (List.append_nil bytes)⟩
  | string | html =>
    rw [ofBytes] at h
    cases hread : readText bytes with
    | error fault =>
      rw [hread] at h
      cases h
    | ok text =>
      rw [hread] at h
      cases h
      exact ⟨rfl, congrArg List.length (utf8Encode_of_readText hread)⟩
  | number | bigNumber | json => cases hkind

/-- A text that stands for a dish gives what its bytes give. -/
private theorem ofBytes_of_text {text : String} {dish converted : Dish} {kind : Kind}
    (hbytes : dish.toBytes? = some (utf8Encode text))
    (hstring : dish.convert .string = .ok (string text))
    (hother : kind ≠ .string → dish.convert kind = throughBytes dish kind)
    (h : dish.convert kind = .ok converted) : ofBytes (utf8Encode text) kind = .ok converted := by
  by_cases hkind : kind = .string
  · subst hkind
    rw [ofBytes_utf8Encode_string, Except.ok.inj (hstring.symm.trans h)]
  · rw [hother hkind, throughBytes, hbytes] at h
    exact eq_ok_of_mapError h

/-- A dish that is converted is left as it is, or it is read from its bytes. -/
theorem eq_or_ofBytes_of_convert {dish converted : Dish} {kind : Kind} (hkind : kind.isVerbatim = true)
    (h : dish.convert kind = .ok converted) :
    dish.kind = kind ∧ converted = dish ∨
      ∃ bytes, dish.toBytes? = some bytes ∧ ofBytes bytes kind = .ok converted := by
  by_cases hsame : dish.kind = kind
  · left
    rw [convert, if_pos hsame] at h
    exact ⟨hsame, (Except.ok.inj h).symm⟩
  · right
    cases dish with
    | byteArray bytes =>
      rw [convert_of_byteArray] at h
      exact ⟨bytes, rfl, eq_ok_of_mapError h⟩
    | arrayBuffer bytes =>
      rw [convert_of_arrayBuffer] at h
      exact ⟨bytes, rfl, eq_ok_of_mapError h⟩
    | string text =>
      rw [convert_of_string] at h
      exact ⟨_, rfl, eq_ok_of_mapError h⟩
    | html markup => cases kind <;> first | exact absurd rfl hsame | cases h
    | listFile files =>
      cases kind with
      | byteArray | arrayBuffer =>
        cases h
        exact ⟨_, rfl, rfl⟩
      | listFile => exact absurd rfl hsame
      | _ => cases h
    | number n =>
      refine ⟨_, rfl, ofBytes_of_text rfl rfl (fun hother => ?_) h⟩
      cases kind <;> first | rfl | exact absurd rfl hother | exact absurd rfl hsame | cases hkind
    | bigNumber value =>
      refine ⟨_, rfl, ofBytes_of_text rfl rfl (fun hother => ?_) h⟩
      cases kind <;> first | rfl | exact absurd rfl hother | exact absurd rfl hsame | cases hkind
    | json value =>
      refine ⟨_, rfl, ofBytes_of_text rfl rfl (fun hother => ?_) h⟩
      cases kind <;> first | rfl | exact absurd rfl hother | exact absurd rfl hsame

/-- A dish that is converted to text or to bytes has the kind that is asked for and gets no smaller. -/
theorem kind_size_of_convert {dish converted : Dish} {kind : Kind} (hkind : kind.isVerbatim = true)
    (h : dish.convert kind = .ok converted) : converted.kind = kind ∧ dish.size ≤ converted.size := by
  rcases eq_or_ofBytes_of_convert hkind h with ⟨hsame, rfl⟩ | ⟨bytes, hbytes, hread⟩
  · exact ⟨hsame, Nat.le_refl _⟩
  · obtain ⟨hsame, hsize⟩ := kind_size_ofBytes hkind hread
    rw [hsize]
    exact ⟨hsame, size_le_toBytes? hbytes⟩

theorem exists_text_of_convert {dish converted : Dish} (h : dish.convert .string = .ok converted) :
    ∃ text, converted = string text ∧ dish.size ≤ (utf8Encode text).length := by
  obtain ⟨hkind, hsize⟩ := kind_size_of_convert rfl h
  cases converted with
  | string text => exact ⟨text, rfl, hsize⟩
  | _ => cases hkind

theorem exists_bytes_of_convert {dish converted : Dish} (h : dish.convert .arrayBuffer = .ok converted) :
    ∃ bytes, converted = arrayBuffer bytes ∧ dish.size ≤ bytes.length := by
  obtain ⟨hkind, hsize⟩ := kind_size_of_convert rfl h
  cases converted with
  | arrayBuffer bytes => exact ⟨bytes, rfl, hsize⟩
  | _ => cases hkind

end Dish
end Kitchen
