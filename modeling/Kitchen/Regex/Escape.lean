import Kitchen.Regex.Parse
import Kitchen.Regex.Property
import Kitchen.Regex.Syntax

/-!
# Escapes in patterns

What a backslash and the characters behind it stand for: a character, a set of characters or an
assertion. Sets take up what differs from their members by case, where the flags say so.
-/

namespace Kitchen.Regex.Parse

open Text

/-! ## Sets under flags -/

/-- The set with what differs from its members by case, where flags say so. -/
def foldSet (flags : Flags) (chars : CharSet) : CharSet :=
  if flags.caseInsensitive then (if flags.unicode then chars.folded else chars.asciiFolded)
  else chars

/-- The set or its complement. Without Unicode only ASCII characters can be taken. -/
def closeSet (flags : Flags) (negated : Bool) (chars : CharSet) : Parse CharSet := do
  let chars := if negated then chars.complement else chars
  if !flags.unicode && !chars.isAscii then refuse .notAscii
  return chars

/-- The set of a single character. -/
def literalSet (flags : Flags) (c : Char) : CharSet :=
  if flags.unicode || c.toNat < 0x80 then foldSet flags (.single c) else .single c

/-! ## Escapes -/

/-- What an escape or a single character stands for. -/
inductive Primitive where
  /-- A character; `byte` if it was written by two hexadecimal digits. -/
  | literal (c : Char) (byte : Bool)
  | set (chars : CharSet)
  | look (kind : Look)

/-- Punctuation that patterns use. -/
def isMeta (c : Char) : Bool := "\\.+*?()|[]\x7b\x7d^$#&-~".toList.contains c

/-- A character that a backslash leaves as it is: any ASCII character but letters, digits and angle
brackets. -/
def isEscapable (c : Char) : Bool :=
  isMeta c || (decide (c.toNat < 0x80) && !c.isAlphanum && c != '<' && c != '>')

/-- The character of a code point. -/
def charOfCode (code : Nat) : Parse Char :=
  if h : code.isValidChar then return Char.ofNatAux code h else refuse .noCharacter

/-- A given number of hexadecimal digits. -/
def hexDigits : Nat → Parse (List Char)
  | 0 => return []
  | n + 1 => do
    let c ← next .unexpectedEnd
    if !isHexDigit c then refuse .badHexDigit
    bumpSpace
    return c :: (← hexDigits n)

/-- Hexadecimal digits up to a closing brace. -/
def bracedHex : Nat → Parse (List Char)
  | 0 => refuse .unexpectedEnd
  | fuel + 1 => do
    let c ← next .unexpectedEnd
    if c = '}' then
      bumpSpace
      return []
    if !isHexDigit c then refuse .badHexDigit
    bumpSpace
    return c :: (← bracedHex fuel)

/-- A character by its code point, with a given number of digits or in braces. -/
def hexEscape (count : Nat) : Parse Primitive := do
  bumpSpace
  let c ← next .unexpectedEnd
  if c = '{' then
    bumpSpace
    let ds ← bracedHex ((← rest).length + 1)
    if ds.isEmpty then refuse .badHexDigit
    return .literal (← charOfCode (hexNumber ds)) false
  else
    let ds ← hexDigits count
    return .literal (← charOfCode (hexNumber ds)) (count == 2)

/-- The text up to a closing brace. -/
def bracedName : Nat → Parse (List Char)
  | 0 => refuse .unexpectedEnd
  | fuel + 1 => do
    let c ← next .unexpectedEnd
    if c = '}' then
      bump
      return []
    bumpSpace
    return c :: (← bracedName fuel)

/-- Cuts a text in two around the first place where a separator begins. -/
def cutAt? (separator : List Char) : List Char → Option (List Char × List Char)
  | [] => none
  | c :: s =>
    if separator.isPrefixOf (c :: s) then some ([], (c :: s).drop separator.length)
    else (cutAt? separator s).map fun (before, after) => (c :: before, after)

/-- The class that the text between the braces of a property names, and whether it is negated. -/
def namedProperty (name : List Char) : Option CharSet × Bool :=
  match cutAt? ['!', '='] name with
  | some (property, value) => (classOfValue? property value, true)
  | none => match cutAt? [':'] name with
    | some (property, value) => (classOfValue? property value, false)
    | none => match cutAt? ['='] name with
      | some (property, value) => (classOfValue? property value, false)
      | none => (classOfName? name, false)

/-- A Unicode property, after the backslash. -/
def propertyEscape (negated : Bool) : Parse CharSet := do
  bumpSpace
  let c ← next .unexpectedEnd
  if c = '\\' then refuse .badProperty
  bumpSpace
  let (found, reversed) ←
    if c = '{' then namedProperty <$> bracedName ((← rest).length + 1)
    else pure (classOfName? [c], false)
  let flags ← flags
  if !flags.unicode then refuse .notAscii
  match found with
  | some chars => closeSet flags (negated != reversed) (foldSet flags chars)
  | none => refuse .badProperty

/-- One of the classes of digits, blanks and word characters. -/
def letterClass (letter : Char) (negated : Bool) : Parse CharSet := do
  let flags ← flags
  let chars : CharSet :=
    match letter, flags.unicode with
    | 'd', true => decimalDigitRanges
    | 'd', false => .asciiDigit
    | 's', true => blankRanges
    | 's', false => .asciiBlank
    | _, true => wordRanges
    | _, false => .asciiWord
  closeSet flags negated chars

/-- The characters of a name of a word boundary. -/
def boundaryName : Nat → Parse (List Char)
  | 0 => return []
  | fuel + 1 => do
    match ← peek? with
    | some c =>
      if c.isAlpha || c = '-' then
        bumpSpace
        return c :: (← boundaryName fuel)
      else return []
    | none => return []

/-- A word boundary, which a name in braces may narrow. Braces around anything but letters and
hyphens are left for a repetition. -/
def boundary : Parse Look := do
  let unicode := (← flags).unicode
  if (← peek?) != some '{' then return .wordBoundary unicode
  let start ← rest
  bumpSpace
  let c ← next .unexpectedEnd
  if !(c.isAlpha || c = '-') then
    moveTo start
    return .wordBoundary unicode
  let name ← boundaryName (← rest).length
  if (← peek?) != some '}' then refuse .unclosedCount
  bump
  match String.ofList name with
  | "start" => return .wordStart unicode
  | "end" => return .wordEnd unicode
  | "start-half" => return .wordStartHalf unicode
  | "end-half" => return .wordEndHalf unicode
  | _ => refuse .badEscape

def escape : Parse Primitive := do
  bump
  let c ← next .unexpectedEnd
  if isAsciiDigit c then refuse .backReference
  let unicode := (← flags).unicode
  match c with
  | 'x' => hexEscape 2
  | 'u' => hexEscape 4
  | 'U' => hexEscape 8
  | 'p' => return .set (← propertyEscape false)
  | 'P' => return .set (← propertyEscape true)
  | c =>
    bump
    if isEscapable c then return .literal c false
    match c with
    | 'd' => return .set (← letterClass 'd' false)
    | 'D' => return .set (← letterClass 'd' true)
    | 's' => return .set (← letterClass 's' false)
    | 'S' => return .set (← letterClass 's' true)
    | 'w' => return .set (← letterClass 'w' false)
    | 'W' => return .set (← letterClass 'w' true)
    | 'a' => return .literal '\x07' false
    | 'f' => return .literal '\x0c' false
    | 't' => return .literal '\t' false
    | 'n' => return .literal '\n' false
    | 'r' => return .literal '\r' false
    | 'v' => return .literal '\x0b' false
    | 'A' => return .look .textStart
    | 'z' => return .look .textEnd
    | 'b' => return .look (← boundary)
    | 'B' => return .look (.notWordBoundary unicode)
    | '<' => return .look (.wordStart unicode)
    | '>' => return .look (.wordEnd unicode)
    | _ => refuse .badEscape

end Kitchen.Regex.Parse
