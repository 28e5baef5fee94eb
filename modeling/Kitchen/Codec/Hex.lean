import Kitchen.Text.DecimalDigit
import Kitchen.Text.Search

/-!
# Hexadecimal bytes

Bytes as pairs of digits with a delimiter between them. Reading takes the digits and passes over all
else, so it reads what is written with any delimiter that holds no digit.
-/

namespace Kitchen.Hex

open Text

/-- The pairs of digits of bytes with a delimiter between them. -/
def encode (delimiter : List Char) (bytes : List UInt8) : List Char :=
  joinWith delimiter (bytes.map hexPair)

/-- The bytes of pairs of digits; a digit without a partner is left out. -/
def bytesOfDigits : List Char → List UInt8
  | high :: low :: rest => UInt8.ofNat (hexValue high * 16 + hexValue low) :: bytesOfDigits rest
  | _ => []

/-- The bytes that the digits of a text write, or the number of digits if it is odd. -/
def decode (s : List Char) : Except Nat (List UInt8) :=
  let digits := s.filter isHexDigit
  if digits.length % 2 ≠ 0 then .error digits.length else .ok (bytesOfDigits digits)

end Kitchen.Hex
