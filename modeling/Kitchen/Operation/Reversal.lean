import Kitchen.Operation.Basic
import Kitchen.Text.Search

/-!
# Reversal

Turning the input round by bytes, by characters or by lines.
-/

namespace Kitchen.Reversal

open Text

/-- The line feed as a byte. -/
def lineFeed : UInt8 := 0x0A

/-- The lines of some bytes in the opposite order, with line feeds between them. -/
def reverseLines (bytes : List UInt8) : List UInt8 :=
  joinWith [lineFeed] (splitAt (· == lineFeed) bytes).reverse

/-- The bytes of a text with its characters in the opposite order. -/
def reverseCharacters (bytes : List UInt8) : Except Fault (List UInt8) :=
  match utf8Decode bytes with
  | .ok text => .ok (utf8Encode (String.ofList text.toList.reverse))
  | .error fault => .error (.invalid s!"Input is not valid UTF-8: {fault.message}")

/-- Reverses the input by the unit that an argument names. -/
def reverse (args : List Argument) (input : Dish) : Except Fault Dish := do
  let bytes ← input.asBytes.mapError .dish
  match textAt args 0 with
  | "Byte" => return .byteArray bytes.reverse
  | "Character" => return .byteArray (← reverseCharacters bytes)
  | "Line" => return .byteArray (reverseLines bytes)
  | other => throw (.invalid s!"Unknown unit '{other}'")

/-- Reversal by character, byte or line. -/
def operation : Operation :=
  .ofFunction
    { Descriptor.plain "Reverse" .byteArray .byteArray with
      description := "Reverses the input by byte, character or line."
      parameters := [.option "By" ["Character", "Byte", "Line"]] }
    reverse

end Kitchen.Reversal
