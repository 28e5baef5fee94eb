import Kitchen.Number.Power
import Kitchen.Number.Shortest

/-!
# Written forms of binary64 numbers

A format says when a number is written positionally and when with an exponent, and how its parts
look. The formats of the library stand at the end, one for each place where numbers are written,
beside the form with a fixed number of places.
-/

namespace Kitchen.Binary64

/-- The decisions of a written form. The point position of a number is the count of its digits
before the decimal point, counted negatively when zeros follow the point. -/
structure FloatFormat where
  /-- Point positions up to this one are written with an exponent; none are without a value. -/
  exponentUpTo : Option Int
  /-- Point positions above this one are written with an exponent; none are without a value. -/
  positionalUpTo : Option Int
  /-- A whole number is followed by a point and a zero. -/
  marksWhole : Bool
  /-- A positive exponent has a sign. -/
  signsExponent : Bool
  tie : TieRule
  infinity : String
  missing : String

/-- Digits with the point after the given number of them. -/
def positional (marksWhole : Bool) (digits : List Char) (point : Int) : List Char :=
  if point ≤ 0 then ['0', '.'] ++ List.replicate point.natAbs '0' ++ digits
  else
    let whole := point.toNat
    if whole < digits.length then digits.take whole ++ ['.'] ++ digits.drop whole
    else
      let zeros := List.replicate (whole - digits.length) '0'
      digits ++ zeros ++ (if marksWhole then ['.', '0'] else [])

/-- Digits with the point after the first of them and an exponent. -/
def scientific (signsExponent : Bool) (digits : List Char) (point : Int) : List Char :=
  let mantissa := match digits with
    | [] => []
    | [d] => [d]
    | d :: rest => d :: '.' :: rest
  let power := point - 1
  let sign := if power < 0 then ['-'] else if signsExponent then ['+'] else []
  mantissa ++ ['e'] ++ sign ++ Nat.toDigits 10 power.natAbs

namespace FloatFormat

/-- The written form of a magnitude. -/
def magnitude (format : FloatFormat) (rank : Nat) : List Char :=
  if rank = 0 then if format.marksWhole then ['0', '.', '0'] else ['0']
  else
    let (n, unit) := shortest format.tie rank
    let digits := Nat.toDigits 10 n
    let point := digits.length + unit
    let tooSmall := match format.exponentUpTo with
      | some k => decide (point ≤ k)
      | none => false
    let tooLarge := match format.positionalUpTo with
      | some k => decide (k < point)
      | none => false
    if tooSmall || tooLarge then scientific format.signsExponent digits point
    else positional format.marksWhole digits point

/-- The written form of a number. -/
def chars (format : FloatFormat) : Binary64 → List Char
  | .nan => format.missing.toList
  | .infinite negative => (if negative then ['-'] else []) ++ format.infinity.toList
  | .finite negative rank => (if negative then ['-'] else []) ++ format.magnitude rank

/-- The written form of a number. -/
def text (format : FloatFormat) (x : Binary64) : String := String.ofList (format.chars x)

end FloatFormat

/-- Messages write numbers positionally, whole ones without a point. -/
def plain : FloatFormat where
  exponentUpTo := none
  positionalUpTo := none
  marksWhole := false
  signsExponent := false
  tie := .upward
  infinity := "inf"
  missing := "NaN"

/-- Diagnostics mark whole numbers, and use an exponent below `0.0001` and from `10 ^ 16`. -/
def diagnostic : FloatFormat :=
  { plain with exponentUpTo := some (-4), positionalUpTo := some 16, marksWhole := true }

/-- JSON marks whole numbers, uses an exponent below `0.00001` and from `10 ^ 16`, and signs it. -/
def json : FloatFormat :=
  { diagnostic with exponentUpTo := some (-5), signsExponent := true, tie := .even }

/-- YAML writes finite numbers as JSON does, but for the sign of the exponent. -/
def yaml : FloatFormat :=
  { json with signsExponent := false, infinity := ".inf", missing := ".nan" }

/-- A magnitude with a fixed number of places, a half going to the even digit. -/
def fixed (places : Nat) (x : Binary64) : String :=
  match x with
  | .nan => "NaN"
  | .infinite negative => (if negative then "-" else "") ++ "inf"
  | .finite negative rank =>
    let (num, den) := ratio rank
    let scaled := Nat.toDigits 10 (divideToEven (num * tenTo places) den)
    let padded := List.replicate (places + 1 - scaled.length) '0' ++ scaled
    let whole := padded.length - places
    let sign := if negative then ['-'] else []
    String.ofList (sign ++ padded.take whole ++ ['.'] ++ padded.drop whole)

end Kitchen.Binary64
