import Kitchen.Number.FloatFormat
import Kitchen.Number.Power
import Kitchen.Yaml.Resolution

/-!
# Writing nodes

The text of a node in blocks. Strings are plain where they read back as strings; otherwise they are
quoted, and strings of several lines are written as literal blocks where that keeps every character.
-/

namespace Kitchen.Yaml

open Text

/-! ## Styles -/

/-- A character that can be written as it is. -/
def isWritable (c : Char) : Bool :=
  c == '\n' || (decide (' ' ≤ c) && decide (c ≤ '~')) ||
    (decide ('\xa0' ≤ c) && c != '\ufeff' && c != '\ufffe' && c != '\uffff')

/-- Somewhere in a text two neighbours pass a test. -/
def anyNeighbours (test : Char → Char → Bool) : List Char → Bool
  | a :: b :: rest => test a b || anyNeighbours test (b :: rest)
  | _ => false

/-- A text starts like a document indicator. -/
def startsLikeIndicator (s : List Char) : Bool :=
  ['-', '-', '-'].isPrefixOf s || ['.', '.', '.'].isPrefixOf s

/-- The first character of a text means something else at the start of a scalar. -/
def hasIndicatorFirst (s : List Char) : Bool :=
  match s with
  | [] => false
  | c :: rest =>
    "#,[]\x7b\x7d&*!|>'\"%@`".toList.contains c ||
      ((c == '?' || c == ':' || c == '-') && isBoundary rest.head?)

/-- A text holds what would end a plain scalar: a colon before a blank or a number sign after
one. -/
def hasIndicatorInside (s : List Char) : Bool :=
  s.getLast? == some ':' ||
    anyNeighbours (fun a b =>
      (a == ':' && isBoundary (some b)) || ((isBlank a || isBreak a) && b == '#')) s

/-- A text can be written plain. -/
def allowsPlain (s : List Char) : Bool :=
  let isEdge := fun (c : Option Char) => c.any fun c => c == ' ' || isBreak c
  s.all (fun c => isWritable c && !isBreak c) && !isEdge s.head? && !isEdge s.getLast? &&
    !startsLikeIndicator s && !hasIndicatorFirst s && !hasIndicatorInside s

/-- Spaces at line breaks keep a text from being folded. -/
def allowsSingleQuotes (s : List Char) : Bool :=
  s.all isWritable &&
    !anyNeighbours (fun a b => (a == ' ' && isBreak b) || (isBreak a && b == ' ')) s

/-- A text can be written as a literal block. -/
def allowsLiteral (s : List Char) : Bool :=
  s.all isWritable && s.getLast? != some ' ' &&
    !anyNeighbours (fun a b => a == ' ' && isBreak b) s

/-- Words that some readers take for truth values. -/
def booleanWords : List String :=
  ["y", "Y", "yes", "Yes", "YES", "n", "N", "no", "No", "NO", "true", "True", "TRUE", "false",
    "False", "FALSE", "on", "On", "ON", "off", "Off", "OFF"]

/-- A plain scalar of this text would not be read as the text, by every reader. -/
def isAmbiguous (text : String) : Bool :=
  booleanWords.contains text || meaning text != .text || hasLeadingZero text.toList

/-- The style in which a string is written. -/
def stringStyle (text : String) : Style :=
  let s := text.toList
  let orDouble (style : Style) (allowed : Bool) := if allowed then style else .doubleQuoted
  if isAmbiguous text then orDouble .singleQuoted (allowsSingleQuotes s)
  else if s.contains '\n' then orDouble .literal (allowsLiteral s)
  else if allowsPlain s then .plain
  else orDouble .singleQuoted (allowsSingleQuotes s)

namespace Node

def ofString (text : String) : Node := .scalar none (stringStyle text) text

def plain (text : String) : Node := .scalar none .plain text

/-- The node of a truth value. -/
def ofBool (b : Bool) : Node := plain (if b then "true" else "false")

/-- The node of a natural number. -/
def ofNat (n : Nat) : Node := plain (toString n)

def ofFloat (x : Binary64) : Node := plain (Binary64.yaml.text x)

end Node

/-! ## Scalars -/

def margin (n : Nat) : List Char := List.replicate n ' '

/-- The letter of an escape, without its backslash, for a character that has one. -/
def escapeLetter? (c : Char) : Option Char :=
  [('\x00', '0'), ('\x07', 'a'), ('\x08', 'b'), ('\t', 't'), ('\n', 'n'), ('\x0b', 'v'),
    ('\x0c', 'f'), ('\r', 'r'), ('\x1b', 'e'), ('"', '"'), ('\\', '\\'), ('\x85', 'N'),
    ('\u2028', 'L'), ('\u2029', 'P')].lookup c

/-- The last upper-case hexadecimal digits of a number. -/
def hexText (count n : Nat) : List Char :=
  (List.range count).reverse.map fun i => (hexDigit (n / twoTo (4 * i) % 16)).toUpper

def doubleQuotedChar (c : Char) : List Char :=
  match escapeLetter? c with
  | some letter => ['\\', letter]
  | none =>
    if isWritable c then [c]
    else if c.toNat < 0x100 then '\\' :: 'x' :: hexText 2 c.toNat
    else if c.toNat < 0x10000 then '\\' :: 'u' :: hexText 4 c.toNat
    else '\\' :: 'U' :: hexText 8 c.toNat

/-- Characters in single quotes. A line starts behind a margin. -/
def singleQuotedChars (indent : Nat) (lineStart : Bool) : List Char → List Char
  | [] => if lineStart then margin indent else []
  | c :: s =>
    if isBreak c then c :: singleQuotedChars indent true s
    else
      (if lineStart then margin indent else []) ++ (if c = '\'' then ['\'', '\''] else [c]) ++
        singleQuotedChars indent false s

/-- Characters of a literal block. A line starts behind a margin, unless it is empty. -/
def literalChars (indent : Nat) (lineStart : Bool) : List Char → List Char
  | [] => []
  | c :: s =>
    if isBreak c then c :: literalChars indent true s
    else (if lineStart then margin indent else []) ++ c :: literalChars indent false s

/-- The indentation of every level. -/
def step : Nat := 2

/-- The header of a literal block: its indentation where the text starts with a blank or a break,
and what happens to the breaks at its end. -/
def literalHeader (s : List Char) : List Char :=
  let hint := if s.head?.any fun c => c == ' ' || isBreak c then Nat.toDigits 10 step else []
  let isBreakAt := fun (c : Option Char) => c.any isBreak
  let chomping :=
    if !isBreakAt s.getLast? then ['-']
    else if s.length = 1 || isBreakAt s.dropLast.getLast? then ['+']
    else []
  '|' :: hint ++ chomping

/-- A scalar as it stands behind its key or its hyphen, up to the end of its last line. -/
def scalarChars (indent : Nat) (style : Style) (text : String) : List Char :=
  let s := text.toList
  match style with
  | .plain => s ++ ['\n']
  | .singleQuoted => '\'' :: singleQuotedChars indent false s ++ ['\'', '\n']
  | .doubleQuoted => '"' :: s.flatMap doubleQuotedChar ++ ['"', '\n']
  | _ =>
    let body := literalChars indent true s
    literalHeader s ++ '\n' :: body ++ (if body.getLast?.any isBreak then [] else ['\n'])

/-! ## Collections -/

mutual

/-- A node as it stands behind a key. Sequences are not indented. -/
def valueChars (indent : Nat) : Node → List Char
  | .scalar _ style text => ' ' :: scalarChars (indent + step) style text
  | .sequence _ [] => " []\n".toList
  | .sequence _ items => '\n' :: itemsChars indent items
  | .mapping _ [] => " \x7b\x7d\n".toList
  | .mapping _ entries =>
    '\n' :: margin (indent + step) ++ entriesChars (indent + step) entries
  | .cycle => ['\n']

/-- A node as it stands behind a hyphen. -/
def itemChars (indent : Nat) : Node → List Char
  | .scalar _ style text => scalarChars (indent + step) style text
  | .sequence _ [] => "[]\n".toList
  | .sequence _ items => '-' :: ' ' :: itemsTail (indent + step) items
  | .mapping _ [] => "\x7b\x7d\n".toList
  | .mapping _ entries => entriesChars (indent + step) entries
  | .cycle => ['\n']

/-- The items of a sequence, each on lines of its own. -/
def itemsChars (indent : Nat) : List Node → List Char
  | [] => []
  | item :: rest => margin indent ++ '-' :: ' ' :: itemChars indent item ++ itemsChars indent rest

/-- The items of a sequence behind the hyphen of the first. -/
def itemsTail (indent : Nat) : List Node → List Char
  | [] => []
  | item :: rest => itemChars indent item ++ itemsChars indent rest

/-- The entries of a mapping, the first one without its margin. -/
def entriesChars (indent : Nat) : List (Node × Node) → List Char
  | [] => []
  | (.scalar _ _ name, value) :: rest =>
    name.toList ++ ':' :: valueChars indent value ++
      (if rest.isEmpty then [] else margin indent) ++ entriesChars indent rest
  | _ :: rest => entriesChars indent rest

end

/-- The text of a mapping with plain keys that is a document. -/
def Node.print : Node → String
  | .mapping _ entries => String.ofList (entriesChars 0 entries)
  | other => String.ofList (itemChars 0 other)

end Kitchen.Yaml
