import Kitchen.Json.Value
import Kitchen.Number.Power
import Kitchen.Text.DecimalDigit

/-!
# Reading JSON

A document from its text, or the first fault with its line and column. Columns count bytes. At most
127 arrays and objects may enclose one another.
-/

namespace Kitchen.Json

open Text

/-- What is wrong with a text. -/
inductive FaultCause where
  | endInList
  | endInObject
  | endInString
  | endInValue
  | expectedColon
  | expectedListCommaOrEnd
  | expectedObjectCommaOrEnd
  | expectedWord
  | expectedValue
  | invalidEscape
  | invalidNumber
  | numberOutOfRange
  | loneSurrogate
  | cutSurrogate
  | controlCharacter
  | keyNotString
  | trailingComma
  | trailingCharacters
  | tooDeep
  deriving DecidableEq, Repr

def FaultCause.message : FaultCause → String
  | endInList => "EOF while parsing a list"
  | endInObject => "EOF while parsing an object"
  | endInString => "EOF while parsing a string"
  | endInValue => "EOF while parsing a value"
  | expectedColon => "expected `:`"
  | expectedListCommaOrEnd => "expected `,` or `]`"
  | expectedObjectCommaOrEnd => "expected `,` or `\x7d`"
  | expectedWord => "expected ident"
  | expectedValue => "expected value"
  | invalidEscape => "invalid escape"
  | invalidNumber => "invalid number"
  | numberOutOfRange => "number out of range"
  | loneSurrogate => "lone leading surrogate in hex escape"
  | cutSurrogate => "unexpected end of hex escape"
  | controlCharacter => "control character (\\u0000-\\u001F) found while parsing a string"
  | keyNotString => "key must be a string"
  | trailingComma => "trailing comma"
  | trailingCharacters => "trailing characters"
  | tooDeep => "recursion limit exceeded"

/-- A fault with the text that was not read, and the count of its bytes that the fault covers. -/
structure Stop where
  cause : FaultCause
  rest : List Char
  covered : Nat

variable {α : Type}

/-- A fault in front of the rest. -/
def stopBefore (cause : FaultCause) (rest : List Char) : Except Stop α := .error ⟨cause, rest, 0⟩

/-- A fault at the first byte of the rest. -/
def stopAt (cause : FaultCause) (rest : List Char) : Except Stop α := .error ⟨cause, rest, 1⟩

/-- The four blanks of JSON. -/
def isSpace (c : Char) : Bool := c == ' ' || c == '\n' || c == '\t' || c == '\r'

/-- The text from its first character that is not blank. -/
def skipSpace (s : List Char) : List Char := s.dropWhile isSpace

/-- Reads the rest of a fixed word. -/
def readWord (value : Json) : List Char → List Char → Except Stop (Json × List Char)
  | [], s => .ok (value, s)
  | _ :: _, [] => stopBefore .endInValue []
  | w :: word, c :: s =>
    if w = c then readWord value word s else .error ⟨.expectedWord, c :: s, 1⟩

/-! ## Numbers -/

/-- Extends a significand by digits for as long as 64 bits hold it. -/
def readSignificand (n : Nat) : List Char → Nat × List Char
  | [] => (n, [])
  | c :: s =>
    if isAsciiDigit c then
      let next := n * 10 + digitValue c
      if next < twoTo 64 then readSignificand next s else (n, c :: s)
    else (n, c :: s)

/-- Scales a number by a power of ten in at most `fuel` steps of `10 ^ 308`, each rounded; none when
it leaves the range. -/
def scaleByTen (x : Binary64) (power : Int) : Nat → Option Binary64
  | 0 => some x
  | fuel + 1 =>
    match power with
    | .ofNat e =>
      if e ≤ 308 then
        let y := x * Binary64.ofNat (tenTo e)
        if y.isFinite then some y else none
      else if x.isNonzero then none else some x
    | .negSucc e =>
      if e + 1 ≤ 308 then some (x / Binary64.ofNat (tenTo (e + 1)))
      else if x.isNonzero then
        scaleByTen (x / Binary64.ofNat (tenTo 308)) (power + 308) fuel
      else some x

/-- The number of a sign, a significand and a power of ten. -/
def numberOfParts (negative : Bool) (n : Nat) (power : Int) (rest : List Char) :
    Except Stop (JsonNumber × List Char) :=
  match scaleByTen (Binary64.ofNat n) power 8 with
  | some x => .ok (.binary (if negative then -x else x), rest)
  | none => stopBefore .numberOutOfRange rest

/-- Reads the digits of an exponent of 31 bits; the text after the digit that exceeds them
otherwise. -/
def readPower (n : Nat) : List Char → Except (List Char) (Nat × List Char)
  | [] => .ok (n, [])
  | c :: s =>
    if isAsciiDigit c then
      let next := n * 10 + digitValue c
      if next < twoTo 31 then readPower next s else .error s
    else .ok (n, c :: s)

/-- Reads an exponent after its mark. -/
def readExponent (negative : Bool) (n : Nat) (power : Int) (s : List Char) :
    Except Stop (JsonNumber × List Char) :=
  let (down, s) := match s with
    | '+' :: r => (false, r)
    | '-' :: r => (true, r)
    | r => (false, r)
  match s with
  | [] => stopBefore .endInValue []
  | c :: r =>
    if isAsciiDigit c then
      match readPower (digitValue c) r with
      | .ok (e, rest) => numberOfParts negative n (if down then power - e else power + e) rest
      | .error rest =>
        if n ≠ 0 ∧ down = false then stopBefore .numberOutOfRange rest
        else .ok (.binary (.ofRank negative 0), rest.dropWhile isAsciiDigit)
    else .error ⟨.invalidNumber, s, 1⟩

def readScale (negative : Bool) (n : Nat) (power : Int) (s : List Char) :
    Except Stop (JsonNumber × List Char) :=
  match s with
  | 'e' :: r => readExponent negative n power r
  | 'E' :: r => readExponent negative n power r
  | r => numberOfParts negative n power r

/-- Reads the digits after a point; those that 64 bits cannot hold are dropped. -/
def readPlaces (negative : Bool) (n : Nat) (power : Int) (s : List Char) :
    Except Stop (JsonNumber × List Char) :=
  match s with
  | [] => stopAt .endInValue []
  | c :: _ =>
    if isAsciiDigit c then
      let (m, rest) := readSignificand n s
      readScale negative m (power - ((s.length : Int) - rest.length)) (rest.dropWhile isAsciiDigit)
    else stopAt .invalidNumber s

/-- Reads what follows the digits of a whole number that 64 bits hold. -/
def readAfterWhole (negative : Bool) (n : Nat) (s : List Char) :
    Except Stop (JsonNumber × List Char) :=
  match s with
  | '.' :: r => readPlaces negative n 0 r
  | 'e' :: r => readExponent negative n 0 r
  | 'E' :: r => readExponent negative n 0 r
  | r =>
    if negative = false then .ok (.whole n, r)
    else if n = 0 ∨ twoTo 63 < n then .ok (.binary (-(Binary64.ofNat n)), r)
    else .ok (.whole (-(n : Int)), r)

/-- Reads a number after its sign. -/
def readNumber (negative : Bool) (s : List Char) : Except Stop (JsonNumber × List Char) :=
  match s with
  | [] => stopBefore .endInValue []
  | c :: r =>
    if c = '0' then
      match r with
      | [] => readAfterWhole negative 0 []
      | d :: _ => if isAsciiDigit d then stopAt .invalidNumber r else readAfterWhole negative 0 r
    else if isAsciiDigit c then
      let (n, rest) := readSignificand (digitValue c) r
      match rest with
      | [] => readAfterWhole negative n []
      | d :: _ =>
        if isAsciiDigit d then
          let dropped := rest.takeWhile isAsciiDigit
          match rest.dropWhile isAsciiDigit with
          | '.' :: r => readPlaces negative n dropped.length r
          | r => readScale negative n dropped.length r
        else readAfterWhole negative n rest
    else .error ⟨.invalidNumber, s, 1⟩

/-! ## Strings -/

/-- The 16-bit unit of a hexadecimal escape. Its four digits are sought among the next four
bytes. -/
def readUnit (s : List Char) : Except Stop (Nat × List Char) :=
  match s with
  | a :: b :: c :: d :: r =>
    if [a, b, c, d].all isHexDigit then .ok (hexNumber [a, b, c, d], r)
    else .error ⟨.invalidEscape, s, 4⟩
  | s =>
    let bytes := (s.flatMap String.utf8EncodeChar).length
    if bytes < 4 then .error ⟨.endInString, s, bytes⟩ else .error ⟨.invalidEscape, s, 4⟩

/-- The character of a code point escape after its mark, where a pair of escapes may name one. -/
def readCodePoint (s : List Char) : Except Stop (Char × List Char) :=
  match readUnit s with
  | .error stop => .error stop
  | .ok (high, rest) =>
    if 0xDC00 ≤ high ∧ high ≤ 0xDFFF then stopBefore .loneSurrogate rest
    else if 0xD800 ≤ high ∧ high ≤ 0xDBFF then
      match rest with
      | [] => stopBefore .endInString []
      | '\\' :: [] => stopBefore .endInString []
      | '\\' :: 'u' :: r =>
        match readUnit r with
        | .error stop => .error stop
        | .ok (low, r) =>
          if 0xDC00 ≤ low ∧ low ≤ 0xDFFF then
            .ok (Char.ofNat ((high - 0xD800) * 0x400 + (low - 0xDC00) + 0x10000), r)
          else stopBefore .loneSurrogate r
      | '\\' :: r => .error ⟨.cutSurrogate, r, 1⟩
      | r => .error ⟨.cutSurrogate, r, 1⟩
    else .ok (Char.ofNat high, rest)

/-- The character that a one-letter escape stands for. -/
def shortEscape? : Char → Option Char
  | '"' => some '"'
  | '\\' => some '\\'
  | '/' => some '/'
  | 'b' => some '\x08'
  | 'f' => some '\x0c'
  | 'n' => some '\n'
  | 'r' => some '\r'
  | 't' => some '\t'
  | _ => none

/-- Reads a string after its opening quote. -/
def readString : Nat → List Char → Except Stop ((List Char) × List Char)
  | 0, s => stopBefore .endInString s
  | fuel + 1, s =>
    match s with
    | [] => stopBefore .endInString []
    | '"' :: r => .ok ([], r)
    | ['\\'] => stopBefore .endInString []
    | '\\' :: 'u' :: r => do
      let (c, r) ← readCodePoint r
      let (text, r) ← readString fuel r
      return (c :: text, r)
    | '\\' :: c :: r =>
      match shortEscape? c with
      | none => .error ⟨.invalidEscape, c :: r, 1⟩
      | some d => do
        let (text, r) ← readString fuel r
        return (d :: text, r)
    | c :: r =>
      if c.toNat < 0x20 then .error ⟨.controlCharacter, c :: r, 1⟩
      else do
        let (text, r) ← readString fuel r
        return (c :: text, r)

/-! ## Documents -/

mutual

/-- Reads a value. `depth` bounds the arrays and objects that may still open. -/
def readValue : Nat → Nat → List Char → Except Stop (Json × List Char)
  | 0, _, s => stopAt .endInValue s
  | fuel + 1, depth, s =>
    let s := skipSpace s
    match s with
    | [] => stopAt .endInValue []
    | 'n' :: r => readWord .null "ull".toList r
    | 't' :: r => readWord (.bool true) "rue".toList r
    | 'f' :: r => readWord (.bool false) "alse".toList r
    | '"' :: r => do
      let (text, r) ← readString (r.length + 1) r
      return (.string (String.ofList text), r)
    | '-' :: r => do
      let (n, r) ← readNumber true r
      return (.number n, r)
    | '[' :: r =>
      if depth ≤ 1 then stopAt .tooDeep s
      else do
        let (items, r) ← readItems fuel (depth - 1) r
        return (.array items, r)
    | '{' :: r =>
      if depth ≤ 1 then stopAt .tooDeep s
      else do
        let (members, r) ← readMembers fuel (depth - 1) r
        return (.ofMembers members, r)
    | c :: _ =>
      if isAsciiDigit c then do
        let (n, r) ← readNumber false s
        return (.number n, r)
      else stopAt .expectedValue s

/-- Reads the items of an array after its opening bracket. -/
def readItems : Nat → Nat → List Char → Except Stop ((List Json) × List Char)
  | 0, _, s => stopAt .endInList s
  | fuel + 1, depth, s =>
    let s := skipSpace s
    match s with
    | [] => stopAt .endInList []
    | ']' :: r => .ok ([], r)
    | s => do
      let (item, r) ← readValue fuel depth s
      let (rest, r) ← readMoreItems fuel depth r
      return (item :: rest, r)

/-- Reads the items of an array after one of them. -/
def readMoreItems : Nat → Nat → List Char → Except Stop ((List Json) × List Char)
  | 0, _, s => stopAt .endInList s
  | fuel + 1, depth, s =>
    let s := skipSpace s
    match s with
    | [] => stopAt .endInList []
    | ']' :: r => .ok ([], r)
    | ',' :: r =>
      let r := skipSpace r
      match r with
      | [] => stopAt .endInValue []
      | ']' :: _ => stopAt .trailingComma r
      | r => do
        let (item, r) ← readValue fuel depth r
        let (rest, r) ← readMoreItems fuel depth r
        return (item :: rest, r)
    | s => stopAt .expectedListCommaOrEnd s

/-- Reads the members of an object after its opening brace. -/
def readMembers : Nat → Nat → List Char → Except Stop (List (String × Json) × List Char)
  | 0, _, s => stopAt .endInObject s
  | fuel + 1, depth, s =>
    let s := skipSpace s
    match s with
    | [] => stopAt .endInObject []
    | '}' :: r => .ok ([], r)
    | '"' :: r => do
      let (member, r) ← readMember fuel depth r
      let (rest, r) ← readMoreMembers fuel depth r
      return (member :: rest, r)
    | s => stopAt .keyNotString s

/-- Reads the members of an object after one of them. -/
def readMoreMembers : Nat → Nat → List Char → Except Stop (List (String × Json) × List Char)
  | 0, _, s => stopAt .endInObject s
  | fuel + 1, depth, s =>
    let s := skipSpace s
    match s with
    | [] => stopAt .endInObject []
    | '}' :: r => .ok ([], r)
    | ',' :: r =>
      let r := skipSpace r
      match r with
      | [] => stopAt .endInValue []
      | '"' :: r => do
        let (member, r) ← readMember fuel depth r
        let (rest, r) ← readMoreMembers fuel depth r
        return (member :: rest, r)
      | '}' :: _ => stopAt .trailingComma r
      | r => stopAt .keyNotString r
    | s => stopAt .expectedObjectCommaOrEnd s

/-- Reads a member after the opening quote of its key. -/
def readMember : Nat → Nat → List Char → Except Stop ((String × Json) × List Char)
  | 0, _, s => stopAt .endInObject s
  | fuel + 1, depth, s => do
    let (key, r) ← readString (s.length + 1) s
    let r := skipSpace r
    match r with
    | [] => stopAt .endInObject []
    | ':' :: r => do
      let (value, r) ← readValue fuel depth r
      return ((String.ofList key, value), r)
    | r => stopAt .expectedColon r

end

/-- The number of arrays and objects that may enclose one another, and one. -/
def depthLimit : Nat := 128

/-- Reads a whole text as one document. -/
def readDocument (s : List Char) : Except Stop Json :=
  match readValue (3 * s.length + 3) depthLimit s with
  | .error stop => .error stop
  | .ok (value, r) =>
    match skipSpace r with
    | [] => .ok value
    | r => stopAt .trailingCharacters r

/-- A fault with its line and column, both counted in the bytes before it. -/
structure Fault where
  cause : FaultCause
  line : Nat
  column : Nat
  deriving DecidableEq, Repr

def Fault.message (fault : Fault) : String :=
  s!"{fault.cause.message} at line {fault.line} column {fault.column}"

/-- Places a fault: the line is the count of line feeds before it and one, the column the count of
bytes after the last of them. -/
def Stop.locate (text : List Char) (stop : Stop) : Fault :=
  let bytes := text.flatMap String.utf8EncodeChar
  let unread := (stop.rest.flatMap String.utf8EncodeChar).length
  let before := bytes.take (bytes.length - unread + stop.covered)
  { cause := stop.cause
    line := before.count 10 + 1
    column := (before.reverse.takeWhile (· != 10)).length }

/-- The document that a text writes. -/
def parse (s : String) : Except Fault Json :=
  match readDocument s.toList with
  | .ok value => .ok value
  | .error stop => .error (stop.locate s.toList)

end Kitchen.Json
