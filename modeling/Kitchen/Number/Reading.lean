import Kitchen.Number.Binary64
import Kitchen.Number.Power
import Kitchen.Text.DecimalDigit

/-!
# Reading numbers

Decimal texts as binary64 numbers and as integers of 64 bits. A number has an optional sign, digits
with an optional point among, before or after them, and an optional exponent; the words for infinity
and for the missing number are read in any case.
-/

namespace Kitchen

open Text

/-- The sign at the front of a text, if any, and the rest. -/
def splitSign : List Char → Bool × List Char
  | '-' :: s => (true, s)
  | '+' :: s => (false, s)
  | s => (false, s)

/-- An exponent with an optional sign; it has at least one digit. -/
def readExponent? (s : List Char) : Option Int :=
  let (negative, digits) := splitSign s
  if digits.isEmpty || !digits.all isAsciiDigit then none
  else some (if negative then -(decimalNumber digits : Int) else decimalNumber digits)

/-- Digits with an optional point and exponent: their number and the power of ten of the last. -/
def readDecimal? (s : List Char) : Option (Nat × Int) :=
  let whole := s.takeWhile isAsciiDigit
  let rest := s.dropWhile isAsciiDigit
  let (places, rest) := match rest with
    | '.' :: r => (r.takeWhile isAsciiDigit, r.dropWhile isAsciiDigit)
    | r => ([], r)
  if whole.isEmpty && places.isEmpty then none
  else
    let digits := decimalNumber (whole ++ places)
    match rest with
    | [] => some (digits, -(places.length : Int))
    | c :: r =>
      if c = 'e' || c = 'E' then (readExponent? r).map fun e => (digits, e - places.length)
      else none

/-- Equality with a lower-case word up to the case of ASCII letters. -/
def isWordInAnyCase (word : String) (s : List Char) : Bool := s.map Char.toLower == word.toList

/-- The number that a text writes, rounded to the nearest. -/
def Binary64.ofChars? (s : List Char) : Option Binary64 :=
  let (negative, body) := splitSign s
  if isWordInAnyCase "nan" body then some .nan
  else if isWordInAnyCase "inf" body || isWordInAnyCase "infinity" body then
    some (.infinite negative)
  else (readDecimal? body).map fun (digits, unit) => .ofDecimal negative digits unit

/-- The integer that an optional sign and digits write. -/
def readInteger? (s : List Char) : Option Int := readExponent? s

/-- The integers that 64 bits hold with a sign. -/
def fitsInt64 (n : Int) : Bool := decide (-(twoTo 63 : Int) ≤ n) && decide (n < twoTo 63)

/-- The integer of 64 bits that a text writes. -/
def readInt64? (s : List Char) : Option Int := (readInteger? s).filter fitsInt64

end Kitchen
