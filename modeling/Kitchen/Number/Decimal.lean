import Kitchen.Number.Power
import Kitchen.Text.DecimalDigit

/-!
# Decimal numbers

Numbers of any size as digits and a scale, kept as they were written: the digits are not reduced, so
`1.50` and `1.5` are the same number in two forms.
-/

namespace Kitchen

open Text

/-- The number `digits * 10 ^ -scale`. -/
structure Decimal where
  digits : Int
  scale : Int
  deriving DecidableEq, Repr, Inhabited

namespace Decimal

/-- An integer, at scale zero. -/
def ofInt (n : Int) : Decimal := ⟨n, 0⟩

/-- The scales of 64 bits. -/
def isScale (n : Int) : Bool := decide (-(twoTo 63 : Int) ≤ n) && decide (n < twoTo 63)

/-- Digits with an optional sign; underscores may stand between and after them. -/
def readDigits? (s : List Char) : Option Int :=
  let (negative, body) := match s with
    | '-' :: r => (true, r)
    | '+' :: r => (false, r)
    | r => (false, r)
  if body.isEmpty || body.head? == some '_' then none
  else
    let digits := body.filter (· != '_')
    if digits.all isAsciiDigit then
      some (if negative then -(decimalNumber digits : Int) else decimalNumber digits)
    else none

/-- An exponent with an optional sign, of 128 bits. -/
def readPower? (s : List Char) : Option Int :=
  let (negative, digits) := match s with
    | '-' :: r => (true, r)
    | '+' :: r => (false, r)
    | r => (false, r)
  if digits.isEmpty || !digits.all isAsciiDigit then none
  else
    let n : Int := if negative then -(decimalNumber digits : Int) else decimalNumber digits
    if -(twoTo 127 : Int) ≤ n ∧ n < twoTo 127 then some n else none

/-- A mantissa without its point, and the number of digits after the point. -/
def splitPoint (s : List Char) : List Char × Nat :=
  let whole := s.takeWhile (· != '.')
  match s.dropWhile (· != '.') with
  | [] => (whole, 0)
  | _ :: places => (whole ++ places, (places.filter (· != '_')).length)

def isExponentMark (c : Char) : Bool := c == 'e' || c == 'E'

/-- The number that a text writes: a mantissa with an optional point and an optional exponent. -/
def ofChars? (s : List Char) : Option Decimal := do
  let mantissa := s.takeWhile (!isExponentMark ·)
  let power ← match s.dropWhile (!isExponentMark ·) with
    | [] => some 0
    | _ :: r => readPower? r
  if mantissa.isEmpty then none
  let (digits, places) := splitPoint mantissa
  let scale := (places : Int) - power
  if !isScale scale then none
  return ⟨← readDigits? digits, scale⟩

/-- The decimal digits of the magnitude. -/
def magnitude (d : Decimal) : List Char := Nat.toDigits 10 d.digits.natAbs

/-- The sign as it is written. -/
def sign (d : Decimal) : List Char := if d.digits < 0 then ['-'] else []

/-- The digits written out with the point at its place. -/
def positional (d : Decimal) : List Char :=
  d.sign ++
    match d.scale with
    | .ofNat 0 => d.magnitude
    | .ofNat places =>
      let padded := List.replicate (places + 1 - d.magnitude.length) '0' ++ d.magnitude
      let whole := padded.length - places
      padded.take whole ++ ['.'] ++ padded.drop whole
    | .negSucc zeros => d.magnitude ++ List.replicate (zeros + 1) '0'

/-- The widest scale that is written out. -/
def positionalLimit : Nat := 4096

/-- The written form: positional for scales within the limit, else digits and an exponent. -/
def chars (d : Decimal) : List Char :=
  if d.scale.natAbs ≤ positionalLimit then d.positional
  else d.sign ++ d.magnitude ++ ['E'] ++ (toString (-d.scale)).toList

def text (d : Decimal) : String := String.ofList d.chars

/-- The decimal of a whole value within 64 bits; the reason why there is none otherwise. -/
inductive ToInteger where
  | integer (n : Int)
  | tooLarge
  | notWhole
  deriving DecidableEq, Repr

/-- Digits of the largest integer of 64 bits. -/
def integerWidth : Int := 19

/-- A difference of 64 bits, at a bound where it would leave them. -/
def saturatingSub (m n : Int) : Int := max (-(twoTo 63 : Int)) (min (m - n) (twoTo 63 - 1))

/-- The value as an integer of 64 bits. The magnitude is bounded by the count of digits before any
power of ten is raised. -/
def toInteger (d : Decimal) : ToInteger :=
  if d.digits = 0 then .integer 0
  else
    let width : Int := d.magnitude.length
    if integerWidth < saturatingSub width d.scale then .tooLarge
    else if width ≤ d.scale then .notWhole
    else
      let value? : Option Int := match d.scale with
        | .ofNat places =>
          if d.digits.natAbs % tenTo places = 0 then some (d.digits.tdiv (tenTo places)) else none
        | .negSucc zeros => some (d.digits * tenTo (zeros + 1))
      match value? with
      | none => .notWhole
      | some n => if -(twoTo 63 : Int) ≤ n ∧ n < twoTo 63 then .integer n else .tooLarge

end Decimal
end Kitchen
