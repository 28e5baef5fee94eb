import Kitchen.Codec.Base64
import Kitchen.Codec.Hex
import Kitchen.Codec.Sha2
import Kitchen.Operation.Basic

/-!
# Base64, hexadecimal text and digests

The operations that write bytes as text and read them back, with the maps between the places of
bytes and of text, and the one that writes the SHA-2 digest of bytes.
-/

namespace Kitchen.Encoding

open Text

def divideUp (n d : Nat) : Nat := (n + d - 1) / d

/-! ## Base64 -/

def alphabets : List String := ["Standard", "URL safe"]

/-- The alphabet that an argument names. -/
def alphabetAt (args : List Argument) (i : Nat) : Base64.Alphabet :=
  if textAt args i = "URL safe" then .urlSafe else .standard

def toBase64 (args : List Argument) (input : Dish) : Except Fault Dish := do
  let bytes ← input.asBytes.mapError .dish
  return .string (String.ofList (Base64.encode (alphabetAt args 0) bytes))

/-- Reads the input as Base64, after leaving out what is no symbol or after trimming it. -/
def fromBase64 (args : List Argument) (input : Dish) : Except Fault Dish := do
  let text ← input.asText.mapError .dish
  let alphabet := alphabetAt args 0
  let cleaned :=
    if boolAt args 1 then text.toList.filter alphabet.admits else trimChars text.toList
  match Base64.decode alphabet (utf8Encode (String.ofList cleaned)) with
  | .ok bytes => return .byteArray bytes
  | .error fault => throw (.invalid s!"Invalid Base64 input: {fault.message}")

/-- Every three bytes take four symbols. -/
def base64Forward : RangeMap := fun _ ranges =>
  ranges.map fun r => ⟨r.start / 3 * 4, divideUp r.stop 3 * 4⟩

/-- Every four symbols hold three bytes. -/
def base64Backward : RangeMap := fun _ ranges =>
  ranges.map fun r => ⟨r.start / 4 * 3, divideUp r.stop 4 * 3⟩

def base64Encoder : Operation :=
  (Operation.ofFunction
    { Descriptor.plain "To Base64" .arrayBuffer .string with
      description := "Encodes bytes as Base64 text."
      parameters := [.option "Alphabet" alphabets] }
    toBase64).withHighlight base64Forward base64Backward

def base64Decoder : Operation :=
  (Operation.ofFunction
    { Descriptor.plain "From Base64" .string .byteArray with
      description := "Decodes Base64 text into bytes."
      parameters := [.option "Alphabet" alphabets, .boolean "Remove non-alphabet chars" true] }
    fromBase64).withHighlight base64Backward base64Forward

/-! ## Hexadecimal -/

/-- The delimiter that an argument names. -/
def delimiterAt (args : List Argument) (i : Nat) : List Char :=
  match textAt args i with
  | "None" => []
  | "Comma" => [',']
  | "Colon" => [':']
  | "Line feed" => ['\n']
  | _ => [' ']

/-- Writes the input as pairs of digits. -/
def toHex (args : List Argument) (input : Dish) : Except Fault Dish := do
  let bytes ← input.asBytes.mapError .dish
  return .string (String.ofList (Hex.encode (delimiterAt args 0) bytes))

/-- Reads the digits of the input. -/
def fromHex (_ : List Argument) (input : Dish) : Except Fault Dish := do
  let text ← input.asText.mapError .dish
  match Hex.decode text.toList with
  | .ok bytes => return .byteArray bytes
  | .error count => throw (.invalid s!"Hex input has an odd number of digits ({count})")

/-- The places that a byte takes, with its delimiter. -/
def byteWidth (args : List Argument) : Nat := 2 + (delimiterAt args 0).length

/-- Every byte takes its width; the last delimiter is left out. -/
def hexForward : RangeMap := fun args ranges =>
  let width := byteWidth args
  ranges.map fun r => ⟨r.start * width, max (r.stop * width - (width - 2)) (r.start * width)⟩

/-- The bytes that a range touches. -/
def hexBackward : RangeMap := fun args ranges =>
  let width := byteWidth args
  ranges.map fun r => ⟨r.start / width, divideUp r.stop width⟩

def hexEncoder : Operation :=
  (Operation.ofFunction
    { Descriptor.plain "To Hex" .arrayBuffer .string with
      description := "Writes each byte as two hexadecimal digits."
      parameters := [.option "Delimiter" ["Space", "None", "Comma", "Colon", "Line feed"]] }
    toHex).withHighlight hexForward hexBackward

def hexDecoder : Operation :=
  (Operation.ofFunction
    { Descriptor.plain "From Hex" .string .byteArray with
      description := "Reads hexadecimal digit pairs, ignoring any separators." }
    fromHex).withHighlight hexBackward hexForward

end Kitchen.Encoding

/-! ## Digests -/

namespace Kitchen.Digest

/-- The digest of the size that an argument names. -/
def sha2 (args : List Argument) (input : Dish) : Except Fault Dish := do
  let bytes ← input.asBytes.mapError .dish
  let digest :=
    if textAt args 0 = "512" then Sha2.sha512.digest bytes else Sha2.sha256.digest bytes
  return .string (String.ofList (Hex.encode [] digest))

def operation : Operation :=
  .ofFunction
    { Descriptor.plain "SHA2" .arrayBuffer .string with
      description := "SHA-2 digest of the input, as lower-case hex."
      parameters := [.option "Size" ["256", "512"]] }
    sha2

end Kitchen.Digest
