import Kitchen.Number.Power

/-!
# SHA-2

The digests with words of 32 and of 64 bits. Both follow one scheme with rotations of their own. The
constants are the fractional parts of the square and cube roots of the first primes.
-/

namespace Kitchen.Sha2

/-! ## Constants -/

/-- The greatest number below `2 ^ bits` that passes a test which holds up to some number. -/
def greatest (test : Nat → Bool) : Nat → Nat → Nat
  | 0, found => found
  | bits + 1, found =>
    let next := found + twoTo bits
    greatest test bits (if test next then next else found)

/-- No number from two below `n` divides `n`. -/
def isPrime (n : Nat) : Bool := (List.range n).all fun d => d < 2 || n % d ≠ 0

/-- The first eighty primes. -/
def primes : List Nat := (List.range 410).filter fun n => decide (2 ≤ n) && isPrime n

/-- The first bits of the fractional part of a square root. -/
def squareRootBits (w p : Nat) : BitVec w :=
  BitVec.ofNat w (greatest (fun r => decide (r * r ≤ p * twoTo (2 * w))) (w + 5) 0)

/-- The first bits of the fractional part of a cube root. -/
def cubeRootBits (w p : Nat) : BitVec w :=
  BitVec.ofNat w (greatest (fun r => decide (r * r * r ≤ p * twoTo (3 * w))) (w + 3) 0)

/-! ## The scheme -/

/-- The parameters of a digest with words of `w` bits. -/
structure Scheme (w : Nat) where
  /-- Rotations of the first and the fifth working word. -/
  sum0 : Nat × Nat × Nat
  sum1 : Nat × Nat × Nat
  /-- Two rotations and a shift for the words of the schedule. -/
  mix0 : Nat × Nat × Nat
  mix1 : Nat × Nat × Nat
  /-- One constant for every round. -/
  constants : List (BitVec w)
  initial : List (BitVec w)

def rotations {w : Nat} (by3 : Nat × Nat × Nat) (x : BitVec w) : BitVec w :=
  x.rotateRight by3.1 ^^^ x.rotateRight by3.2.1 ^^^ x.rotateRight by3.2.2

/-- Two rotations and a shift of a word. -/
def mixing {w : Nat} (by3 : Nat × Nat × Nat) (x : BitVec w) : BitVec w :=
  x.rotateRight by3.1 ^^^ x.rotateRight by3.2.1 ^^^ x >>> by3.2.2

/-- The scheme with words of 32 bits. -/
def sha256 : Scheme 32 where
  sum0 := (2, 13, 22)
  sum1 := (6, 11, 25)
  mix0 := (7, 18, 3)
  mix1 := (17, 19, 10)
  constants := (primes.take 64).map (cubeRootBits 32)
  initial := (primes.take 8).map (squareRootBits 32)

/-- The scheme with words of 64 bits. -/
def sha512 : Scheme 64 where
  sum0 := (28, 34, 39)
  sum1 := (14, 18, 41)
  mix0 := (1, 8, 7)
  mix1 := (19, 61, 6)
  constants := (primes.take 80).map (cubeRootBits 64)
  initial := (primes.take 8).map (squareRootBits 64)

/-! ## Bytes and words -/

/-- The word that bytes write, the highest first. -/
def wordOfBytes (w : Nat) (bytes : List UInt8) : BitVec w :=
  BitVec.ofNat w (bytes.foldl (fun n b => n * 256 + b.toNat) 0)

/-- The last `count` bytes of a number, the highest first. -/
def bytesOfNat (count n : Nat) : List UInt8 :=
  (List.range count).reverse.map fun i => UInt8.ofNat (n / twoTo (8 * i))

/-- A message with a one bit, as many zero bits as fill up the last block, and its length in
bits. -/
def padded (wordBytes : Nat) (message : List UInt8) : List UInt8 :=
  let block := 16 * wordBytes
  let used := (message.length + 1 + 2 * wordBytes) % block
  let zeros := (block - used) % block
  message ++ 0x80 :: List.replicate zeros 0 ++ bytesOfNat (2 * wordBytes) (8 * message.length)

/-- The first `count` pieces of a given length. -/
def pieces {α : Type} (length : Nat) : Nat → List α → List (List α)
  | 0, _ => []
  | count + 1, s => s.take length :: pieces length count (s.drop length)

/-! ## Rounds -/

namespace Scheme

variable {w : Nat} (scheme : Scheme w)

/-- More words of a schedule, whose newest word comes first. -/
def extend : Nat → List (BitVec w) → List (BitVec w)
  | 0, words => words
  | n + 1, words =>
    let word (back : Nat) := (words[back - 1]?).getD 0
    let next := mixing scheme.mix1 (word 2) + word 7 + mixing scheme.mix0 (word 15) + word 16
    extend n (next :: words)

/-- The words of the rounds of a block. -/
def schedule (block : List (BitVec w)) : List (BitVec w) :=
  (scheme.extend (scheme.constants.length - 16) block.reverse).reverse

/-- One round on the eight working words. -/
def round (working : List (BitVec w)) (constant word : BitVec w) : List (BitVec w) :=
  match working with
  | [a, b, c, d, e, f, g, h] =>
    let chosen := (e &&& f) ^^^ (~~~e &&& g)
    let major := (a &&& b) ^^^ (a &&& c) ^^^ (b &&& c)
    let first := h + rotations scheme.sum1 e + chosen + constant + word
    let second := rotations scheme.sum0 a + major
    [first + second, a, b, c, d + first, e, f, g]
  | other => other

/-- Takes a block into the state. -/
def compress (state block : List (BitVec w)) : List (BitVec w) :=
  let rounds := scheme.constants.zip (scheme.schedule block)
  let worked :=
    rounds.foldl (fun working (constant, word) => scheme.round working constant word) state
  List.zipWith (· + ·) state worked

def digest (message : List UInt8) : List UInt8 :=
  let wordBytes := w / 8
  let bytes := padded wordBytes message
  let words := (pieces wordBytes (bytes.length / wordBytes) bytes).map (wordOfBytes w)
  let blocks := pieces 16 (words.length / 16) words
  (blocks.foldl scheme.compress scheme.initial).flatMap fun word => bytesOfNat wordBytes word.toNat

end Scheme
end Kitchen.Sha2
