import Kitchen.Number.Power
import Kitchen.Regex.CharSet
import Kitchen.Text.Blank
import Kitchen.Text.DecimalDigit

/-!
# Reading patterns

Where the reading of a regular expression stands, the flags that hold there, and what a pattern is
refused for. Blanks and comments are passed over where the flags say so.
-/

namespace Kitchen.Regex

open Text

/-- What a pattern is refused for. -/
inductive PatternCause where
  | assertionInClass
  | badEscape
  | badHexDigit
  | badProperty
  | badRange
  | badRepetitionCount
  | duplicateFlag
  | duplicateGroupName
  | lookAround
  | missingRepetition
  | notAscii
  | numberTooLarge
  | tooDeep
  | unclosedClass
  | unclosedCount
  | unclosedGroup
  | unexpectedEnd
  | unknownFlag
  | unknownGroupName
  | unopenedGroup
  | backReference
  | noCharacter
  deriving DecidableEq, Repr

/-- Why a pattern does not become an expression. -/
inductive PatternError where
  | malformed (cause : PatternCause)
  /-- The expression takes more bytes than the limit. -/
  | tooLarge (limit : Nat)
  deriving DecidableEq, Repr

/-- The wording of an error; a malformed pattern shows no more than its heading. -/
def PatternError.message : PatternError → String
  | malformed _ => "regex parse error:"
  | tooLarge limit => s!"Compiled regex exceeds size limit of {limit} bytes."

/-- The flags that hold at a place of a pattern. -/
structure Flags where
  caseInsensitive : Bool
  multiLine : Bool
  dotAll : Bool
  swapGreed : Bool
  unicode : Bool
  /-- A carriage return ends lines as a line feed does. -/
  returns : Bool
  /-- Blanks and comments are left out. -/
  spaced : Bool
  deriving DecidableEq, Repr, Inhabited

/-- Unicode is on and all else is off. -/
def Flags.default : Flags := ⟨false, false, false, false, true, false, false⟩

/-- Where the reading of a pattern stands. -/
structure Cursor where
  rest : List Char
  flags : Flags
  /-- The index of the next group that remembers. -/
  nextGroup : Nat
  groupNames : List String

/-- Reading part of a pattern. -/
abbrev Parse := StateT Cursor (Except PatternCause)

namespace Parse

def refuse {α : Type} (cause : PatternCause) : Parse α := throw cause

def rest : Parse (List Char) := return (← get).rest

def peek? : Parse (Option Char) := return (← get).rest.head?

def flags : Parse Flags := return (← get).flags

/-- Moves on to a rest of the pattern. -/
def moveTo (rest : List Char) : Parse Unit := modify fun cursor => { cursor with rest }

def bump : Parse Unit := modify fun cursor => { cursor with rest := cursor.rest.tail }

/-- The pattern without the blanks and comments in front. -/
def skipComments (inComment : Bool) : List Char → List Char
  | [] => []
  | c :: s =>
    if inComment then skipComments (c != '\n') s
    else if isBlank c then skipComments false s
    else if c = '#' then skipComments true s
    else c :: s

/-- Leaves out blanks and comments where flags say so. -/
def skipSpace : Parse Unit := do
  if (← flags).spaced then moveTo (skipComments false (← rest))

/-- Moves on by one character and past blanks and comments. -/
def bumpSpace : Parse Unit := do
  bump
  skipSpace

/-- The next character, which the pattern must not lack. -/
def next (cause : PatternCause) : Parse Char := do
  match ← peek? with
  | some c => return c
  | none => refuse cause

/-- The character after the next one, past blanks, where flags say so. A comment ends at its first
character that is not blank. -/
def afterSpace (inComment : Bool) : List Char → Option Char
  | [] => none
  | c :: s =>
    if isBlank c && !(inComment && c == '\n') then afterSpace inComment s
    else if !inComment && c == '#' then afterSpace true s
    else if inComment && c == '\n' then afterSpace false s
    else some c

/-- The character after the next one. -/
def peekSecond? : Parse (Option Char) := do
  let s := (← rest).tail
  return if (← flags).spaced then afterSpace false s else s.head?

/-- Digits, between which blanks and comments may stand where flags say so. -/
def digits : Nat → Parse (List Char)
  | 0 => return []
  | fuel + 1 => do
    match ← peek? with
    | some c =>
      if isAsciiDigit c then
        bumpSpace
        return c :: (← digits fuel)
      else return []
    | none => return []

/-- A decimal number of 32 bits with optional blanks around it. -/
def decimal? : Parse (Option Nat) := do
  moveTo ((← rest).dropWhile isBlank)
  let ds ← digits (← rest).length
  moveTo ((← rest).dropWhile isBlank)
  skipSpace
  if ds.isEmpty then return none
  let n := decimalNumber ds
  if twoTo 32 ≤ n then refuse .numberTooLarge
  return some n

end Parse
end Kitchen.Regex
