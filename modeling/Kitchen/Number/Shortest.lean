import Kitchen.Number.Binary64
import Kitchen.Number.Power

/-!
# Shortest digits

The fewest decimal digits that read back as a given magnitude, and of those the ones nearest to it.
Every grid of one to seventeen digits is tried in turn: only the two neighbours of the magnitude on
the grid can lie near enough. Should none read back, the exact digits stand in, which always do.
-/

namespace Kitchen.Binary64

/-- Which of two equally near digit strings is taken. -/
inductive TieRule where
  | upward
  | even
  deriving DecidableEq, Repr

/-- The power of ten just above a fraction: the least `k` with `num / den < 10 ^ k`. -/
def decimalPoint (num den : Nat) : Int :=
  let bits : Int := (Nat.log2 num : Int) - Nat.log2 den
  let guess := bits * 30103 / 100000
  let below (k : Int) : Bool :=
    match k with
    | .ofNat k => decide (num < den * tenTo k)
    | .negSucc k => decide (num * tenTo (k + 1) < den)
  if below guess then guess
  else if below (guess + 1) then guess + 1
  else guess + 2

/-- The fraction in units of `10 ^ unit`, as a new fraction. -/
def inUnits (num den : Nat) : Int → Nat × Nat
  | .ofNat u => (num, den * tenTo u)
  | .negSucc u => (num * tenTo (u + 1), den)

/-- The rank that `digits * 10 ^ unit` rounds to. -/
def rankOfDecimal (digits : Nat) : Int → Nat
  | .ofNat u => roundRank (digits * tenTo u) 1
  | .negSucc u => roundRank digits (tenTo (u + 1))

/-- The digits on the grid of `10 ^ unit` that read back as a rank, the nearer if both do. -/
def gridDigits? (tie : TieRule) (rank num den : Nat) (unit : Int) : Option Nat :=
  let (n, d) := inUnits num den unit
  let low := n / d
  let lowReads := decide (0 < low) && rankOfDecimal low unit == rank
  let highReads := rankOfDecimal (low + 1) unit == rank
  let twice := 2 * (n % d)
  let nearerHigh :=
    decide (d < twice) || (twice == d && (match tie with | .upward => true | .even => low % 2 == 1))
  match lowReads, highReads with
  | false, false => none
  | true, false => some low
  | false, true => some (low + 1)
  | true, true => some (if nearerHigh then low + 1 else low)

/-- Drops the zeros at the end of digits, each moving the unit up. -/
def dropZeros : Nat → Nat → Int → Nat × Int
  | 0, digits, unit => (digits, unit)
  | fuel + 1, digits, unit =>
    if digits % 10 == 0 && digits != 0 then dropZeros fuel (digits / 10) (unit + 1)
    else (digits, unit)

/-- The exact digits of a magnitude and their unit. -/
def exactDigits (rank : Nat) : Nat × Int :=
  match exponent rank with
  | .ofNat e => (significand rank * twoTo e, 0)
  | .negSucc e => (significand rank * Nat.pow 5 (e + 1), -(e + 1 : Int))

/-- Digits and unit from the first grid on which the magnitude reads back. -/
def shortestFrom (tie : TieRule) (rank num den : Nat) (point : Int) : Nat → Nat × Int
  | 0 => exactDigits rank
  | n + 1 =>
    match gridDigits? tie rank num den (point - (17 - n : Nat)) with
    | some digits => (digits, point - (17 - n : Nat))
    | none => shortestFrom tie rank num den point n

/-- The shortest digits of a magnitude and the power of ten of their last place. -/
def shortest (tie : TieRule) (rank : Nat) : Nat × Int :=
  if rank = 0 then (0, 0)
  else
    let (num, den) := ratio rank
    let (digits, unit) := shortestFrom tie rank num den (decimalPoint num den) 17
    dropZeros 20 digits unit

end Kitchen.Binary64
