/-!
# Base64

Three bytes as four symbols of six bits each. What is left at the end is written with fewer symbols
and filled up with equals signs. Reading is strict: the filling must be there, and bits that no byte
takes must be zero, so every list of bytes has one written form.
-/

namespace Kitchen.Base64

/-- The choice of the last two symbols. -/
inductive Alphabet where
  | standard
  | urlSafe
  deriving DecidableEq, Repr

namespace Alphabet

/-- The symbols that stand for 62 and 63. -/
def lastSymbols : Alphabet → Char × Char
  | standard => ('+', '/')
  | urlSafe => ('-', '_')

/-- The symbol of a value below 64. -/
def symbol (alphabet : Alphabet) (n : Nat) : Char :=
  if n < 26 then Char.ofNat ('A'.toNat + n)
  else if n < 52 then Char.ofNat ('a'.toNat + (n - 26))
  else if n < 62 then Char.ofNat ('0'.toNat + (n - 52))
  else if n = 62 then alphabet.lastSymbols.1
  else alphabet.lastSymbols.2

def value? (alphabet : Alphabet) (c : Char) : Option Nat :=
  if 'A' ≤ c ∧ c ≤ 'Z' then some (c.toNat - 'A'.toNat)
  else if 'a' ≤ c ∧ c ≤ 'z' then some (c.toNat - 'a'.toNat + 26)
  else if '0' ≤ c ∧ c ≤ '9' then some (c.toNat - '0'.toNat + 52)
  else if c = alphabet.lastSymbols.1 then some 62
  else if c = alphabet.lastSymbols.2 then some 63
  else none

/-- The character is a symbol or fills up the end. -/
def admits (alphabet : Alphabet) (c : Char) : Bool := c == '=' || (alphabet.value? c).isSome

/-- The value of a symbol that is given as a byte. -/
def byteValue? (alphabet : Alphabet) (b : UInt8) : Option Nat :=
  alphabet.value? (Char.ofNat b.toNat)

end Alphabet

/-- The symbols of a list of bytes. -/
def encode (alphabet : Alphabet) : List UInt8 → List Char
  | a :: b :: c :: rest =>
    let n := a.toNat * 65536 + b.toNat * 256 + c.toNat
    alphabet.symbol (n / 262144) :: alphabet.symbol (n / 4096 % 64) ::
      alphabet.symbol (n / 64 % 64) :: alphabet.symbol (n % 64) :: encode alphabet rest
  | [a, b] =>
    let n := a.toNat * 1024 + b.toNat * 4
    [alphabet.symbol (n / 4096), alphabet.symbol (n / 64 % 64), alphabet.symbol (n % 64), '=']
  | [a] => [alphabet.symbol (a.toNat / 4), alphabet.symbol (a.toNat % 4 * 16), '=', '=']
  | [] => []

/-- Why a text is not Base64. -/
inductive Fault where
  /-- A byte that is no symbol, or a filling where none can be. -/
  | symbol (byte : UInt8) (offset : Nat)
  /-- A last symbol with bits that no byte takes. -/
  | lastSymbol (byte : UInt8) (offset : Nat)
  /-- A single symbol at the end. -/
  | length (n : Nat)
  | padding
  deriving DecidableEq, Repr

def Fault.message : Fault → String
  | symbol byte offset => s!"Invalid symbol {byte}, offset {offset}."
  | lastSymbol byte offset => s!"Invalid last symbol {byte}, offset {offset}."
  | length n => s!"Invalid input length: {n}"
  | padding => "Invalid padding"

/-- The byte that fills up the end. -/
def fill : UInt8 := 0x3D

/-- The value of the symbol at an offset. -/
def value (alphabet : Alphabet) (b : UInt8) (offset : Nat) : Except Fault Nat :=
  match alphabet.byteValue? b with
  | some v => .ok v
  | none => .error (.symbol b offset)

/-- Reads the last symbols, at most four, from an offset on: their values, the newest first, and the
number of fillings after them. -/
def readTail (alphabet : Alphabet) (start : Nat) :
    List Nat → Nat → List UInt8 → Except Fault (List Nat × Nat)
  | values, fillings, [] => .ok (values, fillings)
  | values, fillings, b :: s =>
    if b = fill then
      if values.length + fillings < 2 then .error (.symbol b (start + values.length + fillings))
      else readTail alphabet start values (fillings + 1) s
    else if 0 < fillings then .error (.symbol fill (start + values.length))
    else do
      let v ← value alphabet b (start + values.length)
      readTail alphabet start (v :: values) 0 s

/-- The bytes of the last symbols, at most four, at an offset. -/
def decodeTail (alphabet : Alphabet) (start : Nat) (s : List UInt8) :
    Except Fault (List UInt8) := do
  let (values, fillings) ← readTail alphabet start [] 0 s
  if s.isEmpty then return []
  if values.length < 2 then throw (.length (start + values.length))
  if (values.length + fillings) % 4 ≠ 0 then throw .padding
  let last := (s[values.length - 1]?).getD 0
  match values with
  | [y, x] =>
    if y % 16 ≠ 0 then throw (.lastSymbol last (start + 1))
    return [UInt8.ofNat (x * 4 + y / 16)]
  | [z, y, x] =>
    if z % 4 ≠ 0 then throw (.lastSymbol last (start + 2))
    return [UInt8.ofNat (x * 4 + y / 16), UInt8.ofNat (y % 16 * 16 + z / 4)]
  | w :: z :: y :: x :: _ =>
    return [UInt8.ofNat (x * 4 + y / 16), UInt8.ofNat (y % 16 * 16 + z / 4),
      UInt8.ofNat (z % 4 * 64 + w)]
  | _ => return []

/-- Reads symbols from an offset on. Four symbols with something after them hold three bytes. -/
def decodeFrom (alphabet : Alphabet) (start : Nat) : List UInt8 → Except Fault (List UInt8)
  | a :: b :: c :: d :: e :: rest => do
    let x ← value alphabet a start
    let y ← value alphabet b (start + 1)
    let z ← value alphabet c (start + 2)
    let w ← value alphabet d (start + 3)
    let bytes ← decodeFrom alphabet (start + 4) (e :: rest)
    return UInt8.ofNat (x * 4 + y / 16) :: UInt8.ofNat (y % 16 * 16 + z / 4) ::
      UInt8.ofNat (z % 4 * 64 + w) :: bytes
  | s => decodeTail alphabet start s

/-- A last byte that no quadruple takes and that is no symbol, with its offset. -/
def straySymbol? (alphabet : Alphabet) (s : List UInt8) : Option (UInt8 × Nat) :=
  match s.getLast? with
  | some b =>
    if s.length % 4 = 1 ∧ b ≠ fill ∧ alphabet.byteValue? b = none then some (b, s.length - 1)
    else none
  | none => none

/-- The bytes that symbols stand for. A stray byte at the end is reported before all else. -/
def decode (alphabet : Alphabet) (s : List UInt8) : Except Fault (List UInt8) :=
  match straySymbol? alphabet s with
  | some (b, offset) => .error (.symbol b offset)
  | none => decodeFrom alphabet 0 s

end Kitchen.Base64
