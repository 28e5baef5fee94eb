import Kitchen.Number.Power

/-!
# Binary64 numbers

Numbers of 64 bits with a binary exponent. A finite magnitude is given by its rank: rank 0 is zero,
rank `r + 1` is the next magnitude above rank `r`, and below `2 ^ 53` the rank counts multiples of
the smallest one. Comparison of magnitudes is comparison of ranks, and a rank is even exactly when
the last bit of the magnitude is. Every operation gives the number nearest to the exact result, of
two equally near ones the even one.
-/

namespace Kitchen

/-- A number of 64 bits with a binary exponent. -/
inductive Binary64 where
  /-- The result of operations without one. -/
  | nan
  | infinite (negative : Bool)
  | finite (negative : Bool) (rank : Fin (2047 * twoTo 52))
  deriving DecidableEq, Repr, Inhabited

namespace Binary64

/-- The number of finite magnitudes. -/
def rankBound : Nat := 2047 * twoTo 52

/-- The whole part of a magnitude, in units of its last bit. -/
def significand (rank : Nat) : Nat :=
  if rank < twoTo 52 then rank else twoTo 52 + rank % twoTo 52

/-- The binary exponent of the last bit of a magnitude. -/
def exponent (rank : Nat) : Int :=
  if rank < twoTo 52 then -1074 else (rank / twoTo 52 : Nat) - 1075

/-- A magnitude as an exact fraction, numerator and denominator. -/
def ratio (rank : Nat) : Nat × Nat :=
  let m := significand rank
  match exponent rank with
  | .ofNat e => (m * twoTo e, 1)
  | .negSucc e => (m, twoTo (e + 1))

/-- The quotient rounded to the nearest whole number, a half to the even one. -/
def divideToEven (num den : Nat) : Nat :=
  let q := num / den
  let r := num % den
  if 2 * r < den then q
  else if den < 2 * r then q + 1
  else if q % 2 = 0 then q else q + 1

/-- The quotient `num * 2 ^ shift / den`, rounded. -/
def divideShifted (num den : Nat) : Int → Nat
  | .ofNat k => divideToEven (num * twoTo k) den
  | .negSucc k => divideToEven num (den * twoTo (k + 1))

/-- The whole part of `num * 2 ^ shift / den`. -/
def floorShifted (num den : Nat) : Int → Nat
  | .ofNat k => num * twoTo k / den
  | .negSucc k => num / (den * twoTo (k + 1))

/-- The rank of the magnitude nearest to a fraction. The fraction is scaled so that 53 bits stand
before the point, or by the unit of the smallest magnitudes when it is too small for that. The
result can be the bound of the ranks, or above it. -/
def roundRank (num den : Nat) : Nat :=
  let guess : Int := 53 - ((Nat.log2 num : Int) - Nat.log2 den)
  let fitted := if floorShifted num den guess < twoTo 53 then guess else guess - 1
  let shift := min fitted 1074
  (1074 - shift).toNat * twoTo 52 + divideShifted num den shift

/-- The number of a sign and a rank; ranks past the last finite one give infinity. -/
def ofRank (negative : Bool) (rank : Nat) : Binary64 :=
  if h : rank < 2047 * twoTo 52 then .finite negative ⟨rank, h⟩ else .infinite negative

/-- The number nearest to a fraction with a sign of its own. -/
def ofRatio (negative : Bool) (num den : Nat) : Binary64 :=
  if num = 0 then ofRank negative 0 else ofRank negative (roundRank num den)

/-- The number nearest to a natural number. -/
def ofNat (n : Nat) : Binary64 := ofRatio false n 1

/-- The number nearest to an integer. -/
def ofInt (n : Int) : Binary64 := ofRatio (decide (n < 0)) n.natAbs 1

instance (n : Nat) : OfNat Binary64 n := ⟨ofNat n⟩

/-- The number nearest to `digits * 10 ^ exponent`. Exponents far outside the range are decided by
the count of digits alone. -/
def ofDecimal (negative : Bool) (digits : Nat) (exponent : Int) : Binary64 :=
  if digits = 0 then ofRank negative 0
  else
    let point := (Nat.toDigits 10 digits).length + exponent
    if 400 < point then .infinite negative
    else if point < -400 then ofRank negative 0
    else match exponent with
      | .ofNat e => ofRatio negative (digits * tenTo e) 1
      | .negSucc e => ofRatio negative digits (tenTo (e + 1))

def neg : Binary64 → Binary64
  | nan => nan
  | infinite s => infinite !s
  | finite s r => finite (!s) r

def isFinite : Binary64 → Bool
  | finite _ _ => true
  | _ => false

/-- Neither zero nor, like zero, equal to it. -/
def isNonzero : Binary64 → Bool
  | finite _ r => r.val != 0
  | _ => true

/-- The exact value of a finite number as a signed numerator over a denominator. -/
def signedRatio (negative : Bool) (rank : Nat) : Int × Nat :=
  let (num, den) := ratio rank
  (if negative then -num else num, den)

/-- Order of numbers; nothing is below or above the missing number. -/
def lt : Binary64 → Binary64 → Bool
  | nan, _ => false
  | _, nan => false
  | infinite s, infinite t => s && !t
  | infinite s, finite _ _ => s
  | finite _ _, infinite t => !t
  | finite s r, finite t q =>
    match s, t with
    | false, false => decide (r < q)
    | true, true => decide (q < r)
    | true, false => r.val != 0 || q.val != 0
    | false, true => false

instance : LT Binary64 := ⟨fun x y => lt x y = true⟩

instance (x y : Binary64) : Decidable (x < y) := inferInstanceAs (Decidable (lt x y = true))

/-- The larger of two numbers; a missing number gives way to the other. -/
def max (x y : Binary64) : Binary64 :=
  match x, y with
  | nan, y => y
  | x, nan => x
  | x, y => if x < y then y else x

/-- The rounded sum. -/
def add : Binary64 → Binary64 → Binary64
  | nan, _ => nan
  | _, nan => nan
  | infinite s, infinite t => if s = t then infinite s else nan
  | infinite s, finite _ _ => infinite s
  | finite _ _, infinite t => infinite t
  | finite s r, finite t q =>
    let (a, b) := signedRatio s r
    let (c, d) := signedRatio t q
    let sum := a * d + c * b
    if sum = 0 then ofRank (s && t) 0 else ofRatio (decide (sum < 0)) sum.natAbs (b * d)

/-- The rounded product. -/
def mul : Binary64 → Binary64 → Binary64
  | nan, _ => nan
  | _, nan => nan
  | infinite s, infinite t => infinite (s != t)
  | infinite s, finite t q => if q.val = 0 then nan else infinite (s != t)
  | finite s r, infinite t => if r.val = 0 then nan else infinite (s != t)
  | finite s r, finite t q =>
    let (a, b) := ratio r
    let (c, d) := ratio q
    ofRatio (s != t) (a * c) (b * d)

/-- The rounded quotient. -/
def div : Binary64 → Binary64 → Binary64
  | nan, _ => nan
  | _, nan => nan
  | infinite _, infinite _ => nan
  | infinite s, finite t _ => infinite (s != t)
  | finite s _, infinite t => ofRank (s != t) 0
  | finite s r, finite t q =>
    let (a, b) := ratio r
    let (c, d) := ratio q
    if c = 0 then (if a = 0 then nan else infinite (s != t))
    else ofRatio (s != t) (a * d) (b * c)

instance : Add Binary64 := ⟨add⟩
instance : Mul Binary64 := ⟨mul⟩
instance : Div Binary64 := ⟨div⟩
instance : Neg Binary64 := ⟨neg⟩

/-- A finite number without fractional part. -/
def isWhole : Binary64 → Bool
  | finite _ r => let (num, den) := ratio r; num % den == 0
  | _ => false

/-- The whole part of the magnitude of a finite number. -/
def floorMagnitude (rank : Nat) : Nat := let (num, den) := ratio rank; num / den

/-- The number cut to a natural number of at most `limit`: negative numbers and the missing number
give zero. -/
def toNatClamped (limit : Nat) : Binary64 → Nat
  | nan => 0
  | infinite s => if s then 0 else limit
  | finite s r => if s then 0 else min (floorMagnitude r) limit

/-- The number without its fractional part; numbers that are not finite give zero. -/
def truncate : Binary64 → Int
  | finite s r => if s then -(floorMagnitude r : Int) else floorMagnitude r
  | _ => 0

end Binary64
end Kitchen
