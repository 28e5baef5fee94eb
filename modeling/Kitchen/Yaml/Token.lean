import Kitchen.Text.Utf8
import Kitchen.Yaml.Scalar

/-!
# Tokens

A document as a list of tokens. Blocks are delimited by their indentation, so their starts and ends
become tokens of their own. A key without an indicator is recognised by the colon after it; until
then its place is remembered, and the tokens that announce it are put there afterwards. Such a key
stands on one line and takes at most 1024 characters.
-/

namespace Kitchen.Yaml

open Text

inductive Token where
  | version (major minor : Nat)
  /-- An abbreviation for the start of tags. -/
  | tagHandle (handle full : String)
  | documentStart
  | documentEnd
  | blockSequence
  | blockMapping
  | blockEnd
  | flowSequence
  | flowSequenceEnd
  | flowMapping
  | flowMappingEnd
  | blockEntry
  | flowEntry
  | key
  | value
  | alias (name : String)
  | anchor (name : String)
  | tag (handle suffix : String)
  | scalar (style : Style) (text : String)
  deriving DecidableEq, Repr, Inhabited

/-- A place where a key without an indicator may have begun. -/
structure KeyPlace where
  /-- Something must follow that makes it a key. -/
  required : Bool
  /-- The number of tokens before it. -/
  token : Nat
  index : Nat
  line : Nat
  column : Nat
  deriving Repr, Inhabited

/-- Where the reading of tokens stands. -/
structure Scanner where
  cursor : Cursor
  tokens : Array Token
  /-- The columns of the open blocks, the innermost first. -/
  indents : List Nat
  /-- The place where a key may have begun, for every open flow collection and for the blocks around
  them. -/
  places : List (Option KeyPlace)
  keyAllowed : Bool
  deriving Inhabited

namespace Scanner

def start (text : List Char) : Scanner := ⟨.start text, #[], [], [none], true⟩

def inFlow (s : Scanner) : Bool := decide (1 < s.places.length)

def push (s : Scanner) (token : Token) : Scanner := { s with tokens := s.tokens.push token }

def goTo (s : Scanner) (cursor : Cursor) : Scanner := { s with cursor }

/-- Allows keys at the next place or not. -/
def allow (s : Scanner) (keyAllowed : Bool) : Scanner := { s with keyAllowed }

/-! ## Blanks -/

/-- The place of the next token, and whether a line has ended before it. Tabs count as blanks where
no key may begin. -/
def skipBlanks (inFlow : Bool) : Nat → Bool → Cursor → Bool × Cursor
  | 0, keyAllowed, cursor => (keyAllowed, cursor)
  | fuel + 1, keyAllowed, cursor =>
    let cursor := cursor.skipWhile fun c => c == ' ' || ((inFlow || !keyAllowed) && c == '\t')
    let cursor := if cursor.peek? = some '#' then cursor.skipToLineEnd else cursor
    if cursor.peek?.any isBreak then
      skipBlanks inFlow fuel (keyAllowed || !inFlow) cursor.skipBreak
    else (keyAllowed, cursor)

/-! ## Blocks -/

/-- Closes the blocks that stand further to the right than a column. -/
def unroll (s : Scanner) (column : Nat) : Scanner :=
  if s.inFlow then s
  else
    let closed := s.indents.takeWhile (column < ·)
    { s with
      tokens := s.tokens ++ (closed.map fun _ => Token.blockEnd).toArray
      indents := s.indents.dropWhile (column < ·) }

def unrollAll (s : Scanner) : Scanner :=
  if s.inFlow then s
  else
    { s with
      tokens := s.tokens ++ (s.indents.map fun _ => Token.blockEnd).toArray
      indents := [] }

/-- Opens a block at a column, if it stands further to the right than the blocks around it. Its
token is put before the token of a given number. -/
def roll (s : Scanner) (column number : Nat) (token : Token) : Scanner :=
  if s.inFlow || s.indents.head?.any (column ≤ ·) then s
  else
    { s with
      tokens := s.tokens.insertIdxIfInBounds number token
      indents := column :: s.indents }

/-! ## Keys without indicators -/

/-- Forgets the place where a key may have begun; a required key must not be forgotten. -/
def dropPlace (s : Scanner) : Option Scanner :=
  match s.places with
  | some place :: rest => if place.required then none else some { s with places := none :: rest }
  | _ => some s

/-- Remembers that a key may begin here. -/
def savePlace (s : Scanner) : Option Scanner :=
  if s.keyAllowed then
    s.dropPlace.map fun s =>
      let required := !s.inFlow && s.indents.head? = some s.cursor.column
      let place : KeyPlace :=
        ⟨required, s.tokens.size, s.cursor.index, s.cursor.line, s.cursor.column⟩
      { s with places := some place :: s.places.tail }
  else some s

/-- The longest key without an indicator. -/
def keyLimit : Nat := 1024

/-- A key that began at a place cannot end at the cursor any more. -/
def isStale (cursor : Cursor) (place : KeyPlace) : Bool :=
  decide (place.line < cursor.line) || decide (place.index + keyLimit < cursor.index)

/-- Forgets the places of keys that cannot end at the cursor any more. -/
def dropStale (s : Scanner) : Option Scanner :=
  let stale := s.places.map fun place => place.filter (isStale s.cursor)
  if stale.any fun place => place.any (·.required) then none
  else some { s with places := s.places.map fun place => place.filter (!isStale s.cursor ·) }

/-! ## Indicators -/

/-- A token of some characters at which no key can begin or go on. -/
def structural (s : Scanner) (token : Token) (width : Nat) (keyAllowed : Bool) : Option Scanner :=
  s.dropPlace.map fun s => ((s.allow keyAllowed).push token).goTo (s.cursor.skip width)

def openFlow (s : Scanner) (token : Token) : Option Scanner :=
  s.savePlace.map fun s =>
    { (s.allow true).push token with places := none :: s.places, cursor := s.cursor.next }

def closeFlow (s : Scanner) (token : Token) : Option Scanner :=
  s.dropPlace.map fun s =>
    let places := if s.inFlow then s.places.tail else s.places
    { (s.allow false).push token with places, cursor := s.cursor.next }

/-- An entry of a block sequence. -/
def entry (s : Scanner) : Option Scanner :=
  if s.inFlow then s.structural .blockEntry 1 true
  else if !s.keyAllowed then none
  else (s.roll s.cursor.column s.tokens.size .blockSequence).structural .blockEntry 1 true

def keyIndicator (s : Scanner) : Option Scanner :=
  if s.inFlow then s.structural .key 1 false
  else if !s.keyAllowed then none
  else (s.roll s.cursor.column s.tokens.size .blockMapping).structural .key 1 true

/-- The indicator of a value. If a key may have begun before, it has. -/
def valueIndicator (s : Scanner) : Option Scanner :=
  match s.places with
  | some place :: rest =>
    let keyed := { s with tokens := s.tokens.insertIdxIfInBounds place.token .key }
    let rolled := keyed.roll place.column place.token .blockMapping
    let s := { rolled with places := none :: rest, keyAllowed := false }
    some ((s.push .value).goTo s.cursor.next)
  | _ =>
    if s.inFlow then some (((s.allow false).push .value).goTo s.cursor.next)
    else if !s.keyAllowed then none
    else
      let s := (s.roll s.cursor.column s.tokens.size .blockMapping).allow true
      some ((s.push .value).goTo s.cursor.next)

/-- The start or the end of a document. -/
def documentIndicator (s : Scanner) (token : Token) : Option Scanner :=
  s.unrollAll.structural token 3 false

/-! ## Directives -/

/-- A number of a version: up to nine digits. -/
def readVersionNumber (cursor : Cursor) : Option (Nat × Cursor) :=
  let (digits, after) := cursor.takeWhile isAsciiDigit
  if digits.isEmpty || decide (9 < digits.length) then none else some (decimalNumber digits, after)

/-- A byte that is written by two hexadecimal digits behind a percent sign. -/
def readByte (cursor : Cursor) : Option (UInt8 × Cursor) :=
  match cursor.rest with
  | '%' :: high :: low :: _ =>
    if isHexDigit high && isHexDigit low then
      some (UInt8.ofNat (hexNumber [high, low]), cursor.skip 3)
    else none
  | _ => none

/-- The bytes that go on with a character. -/
def readBytes : Nat → Cursor → Option (List UInt8 × Cursor)
  | 0, cursor => some ([], cursor)
  | count + 1, cursor => do
    let (byte, after) ← readByte cursor
    let (bytes, after) ← readBytes count after
    return (byte :: bytes, after)

/-- A character that is written by its bytes. -/
def readEncoded (cursor : Cursor) : Option (List Char × Cursor) := do
  let (lead, after) ← readByte cursor
  let count ← continuationCount lead
  let (bytes, after) ← readBytes count after
  let text ← (utf8Decode (lead :: bytes)).toOption
  return (text.toList, after)

def isTagChar (verbatim : Bool) (c : Char) : Bool :=
  isNameChar c || ";/?:@&=+$.%!~*'()".toList.contains c ||
    (verbatim && (c == ',' || c == '[' || c == ']'))

def readTagChars (verbatim : Bool) : Nat → Cursor → Option (List Char × Cursor)
  | 0, cursor => some ([], cursor)
  | fuel + 1, cursor =>
    match cursor.peek? with
    | none => some ([], cursor)
    | some c =>
      if !isTagChar verbatim c then some ([], cursor)
      else do
        let (first, after) ← if c == '%' then readEncoded cursor else some ([c], cursor.next)
        let (text, after) ← readTagChars verbatim fuel after
        return (first ++ text, after)

/-- The abbreviation at the start of a tag: an exclamation mark, or a name between two of them. -/
def readTagHandle (cursor : Cursor) : Option (List Char × Cursor) :=
  if cursor.peek? ≠ some '!' then none
  else
    let (name, after) := cursor.next.takeWhile isNameChar
    if after.peek? = some '!' then some ('!' :: name ++ ['!'], after.next)
    else some ('!' :: name, after)

/-- A directive behind its percent sign, up to the blanks after it. -/
def readDirective (cursor : Cursor) : Option (Token × Cursor) := do
  let (name, cursor) := cursor.takeWhile isNameChar
  if !isBoundary cursor.peek? then none
  let cursor := cursor.skipWhile isBlank
  match String.ofList name with
  | "YAML" =>
    let (major, cursor) ← readVersionNumber cursor
    if cursor.peek? ≠ some '.' then none
    let (minor, cursor) ← readVersionNumber cursor.next
    return (.version major minor, cursor)
  | "TAG" =>
    let (handle, cursor) ← readTagHandle cursor
    if handle ≠ ['!'] && (handle.length < 2 || handle.getLast? ≠ some '!') then none
    if !cursor.peek?.any isBlank then none
    let (full, cursor) ← readTagChars true (cursor.rest.length + 1) (cursor.skipWhile isBlank)
    if full.isEmpty || !isBoundary cursor.peek? then none
    return (.tagHandle (String.ofList handle) (String.ofList full), cursor)
  | _ => none

def directive (s : Scanner) : Option Scanner := do
  let s ← s.unrollAll.dropPlace
  let (token, cursor) ← readDirective s.cursor.next
  let cursor := cursor.skipWhile isBlank
  let cursor := if cursor.peek? = some '#' then cursor.skipToLineEnd else cursor
  if !isLineEnd cursor.peek? then none
  return ((s.allow false).push token).goTo cursor.skipBreak

/-! ## Properties and aliases -/

/-- A name of an anchor, with the place after it. -/
def readName (cursor : Cursor) : Option (String × Cursor) :=
  let (name, after) := cursor.takeWhile isNameChar
  if name.isEmpty then none
  else if isBoundary after.peek? || after.peek?.any "?:,]\x7d%@\x60".toList.contains then
    some (String.ofList name, after)
  else none

def named (s : Scanner) (token : String → Token) : Option Scanner := do
  let s ← s.savePlace
  let (name, cursor) ← readName s.cursor.next
  return ((s.allow false).push (token name)).goTo cursor

def readTag (cursor : Cursor) : Option (Token × Cursor) :=
  if cursor.peekAt? 1 = some '<' then do
    let (full, after) ← readTagChars true (cursor.rest.length + 1) (cursor.skip 2)
    if full.isEmpty || after.peek? ≠ some '>' then none
    return (.tag "" (String.ofList full), after.next)
  else do
    let (handle, after) ← readTagHandle cursor
    let (rest, after) ← readTagChars false (after.rest.length + 1) after
    if handle.length ≥ 2 && handle.getLast? = some '!' then
      if rest.isEmpty then none
      return (.tag (String.ofList handle) (String.ofList rest), after)
    else if handle = ['!'] && rest.isEmpty then return (.tag "" "!", after)
    else return (.tag "!" (String.ofList (handle.tail ++ rest)), after)

def tagged (s : Scanner) : Option Scanner := do
  let s ← s.savePlace
  let (token, cursor) ← readTag s.cursor
  if !(s.inFlow && cursor.peek? = some ',') && !isBoundary cursor.peek? then none
  return ((s.allow false).push token).goTo cursor

/-! ## Scalars -/

def quoted (s : Scanner) (quote : Char) (style : Style) : Option Scanner := do
  let s ← s.savePlace
  let (text, cursor) ← readQuoted quote (s.cursor.rest.length + 1) s.cursor.next
  return ((s.allow false).push (.scalar style (String.ofList text))).goTo cursor

def plain (s : Scanner) : Option Scanner := do
  let s ← s.savePlace
  let indent := match s.indents with
    | n :: _ => n + 1
    | [] => 0
  let (text, broken, cursor) ←
    readPlain s.inFlow indent (s.cursor.rest.length + 1) .empty s.cursor
  return ((s.allow broken).push (.scalar .plain (String.ofList text))).goTo cursor

def block (s : Scanner) (literal : Bool) : Option Scanner := do
  let s ← s.dropPlace
  let (text, cursor) ← readBlock literal s.indents.head? s.cursor.next
  let style := if literal then Style.literal else Style.folded
  return ((s.allow true).push (.scalar style (String.ofList text))).goTo cursor

/-- A character with which no plain scalar starts. -/
def isIndicator (c : Char) : Bool := "-?:,[]\x7b\x7d#&*!|>'\"%@`".toList.contains c

/-- A plain scalar may start here. -/
def startsPlain (s : Scanner) (c : Char) : Bool :=
  (!isBlank c && !isIndicator c) || (c == '-' && !(s.cursor.peekAt? 1).any isBlank) ||
    (!s.inFlow && (c == '?' || c == ':') && !isBoundary (s.cursor.peekAt? 1))

/-! ## The loop -/

/-- Reads the token that starts with a character at the cursor. -/
def scanToken (s : Scanner) (c : Char) : Option Scanner :=
  let alone := isBoundary (s.cursor.peekAt? 1)
  if s.cursor.column = 0 && c = '%' then s.directive
  else if s.cursor.atIndicator '-' then s.documentIndicator .documentStart
  else if s.cursor.atIndicator '.' then s.documentIndicator .documentEnd
  else if c = '[' then s.openFlow .flowSequence
  else if c = '{' then s.openFlow .flowMapping
  else if c = ']' then s.closeFlow .flowSequenceEnd
  else if c = '}' then s.closeFlow .flowMappingEnd
  else if c = ',' then s.structural .flowEntry 1 true
  else if c = '-' && alone then s.entry
  else if c = '?' && (s.inFlow || alone) then s.keyIndicator
  else if c = ':' && (s.inFlow || alone) then s.valueIndicator
  else if c = '*' then s.named .alias
  else if c = '&' then s.named .anchor
  else if c = '!' then s.tagged
  else if c = '|' && !s.inFlow then s.block true
  else if c = '>' && !s.inFlow then s.block false
  else if c = '\'' then s.quoted '\'' .singleQuoted
  else if c = '"' then s.quoted '"' .doubleQuoted
  else if s.startsPlain c then s.plain
  else none

/-- The end of the document, which closes all blocks. -/
def finish (s : Scanner) : Option (Array Token) := s.unrollAll.dropPlace.map (·.tokens)

def run : Nat → Scanner → Option (Array Token)
  | 0, _ => none
  | fuel + 1, s =>
    let (keyAllowed, cursor) :=
      skipBlanks s.inFlow (s.cursor.rest.length + 1) s.keyAllowed s.cursor
    match ((s.allow keyAllowed).goTo cursor).dropStale with
    | none => none
    | some s =>
      match s.cursor.peek? with
      | none => s.finish
      | some c =>
        match (s.unroll s.cursor.column).scanToken c with
        | none => none
        | some s => run fuel s

end Scanner

/-- A character that documents may hold. -/
def isAllowed (c : Char) : Bool :=
  c == '\t' || c == '\n' || c == '\r' || c == '\x85' ||
    (decide (' ' ≤ c) && decide (c ≤ '~')) ||
    (decide ('\xa0' ≤ c) && c != '\ufeff' && c != '\ufffe' && c != '\uffff')

/-- The tokens of a document. A byte order mark in front does not belong to it. -/
def Token.ofText? (text : String) : Option (List Token) :=
  let body := match text.toList with
    | '\ufeff' :: rest => rest
    | whole => whole
  if body.all isAllowed then ((Scanner.start body).run (body.length + 2)).map Array.toList else none

end Kitchen.Yaml
