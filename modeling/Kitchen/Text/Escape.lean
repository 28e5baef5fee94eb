import Kitchen.Number.Power
import Kitchen.Text.DecimalDigit

/-!
# Backslash escapes

Delimiters and search texts are written with escapes: line feed, carriage return, tab, null,
backslash, a byte by two hexadecimal digits, and a character by its code point in braces. Any other
escape stands for itself, and so does a backslash at the end.
-/

namespace Kitchen.Text

/-- Why a text is not well escaped. -/
inductive EscapeFault where
  /-- A byte escape without two hexadecimal digits. -/
  | byteDigits
  /-- A code point escape without its opening brace. -/
  | openBrace
  /-- A code point escape without digits or without its closing brace. -/
  | unterminated
  /-- More digits than a code point of 32 bits can hold. -/
  | codeOverflow
  /-- Digits, kept as written, that name no character. -/
  | noCharacter (digits : List Char)
  deriving DecidableEq, Repr

/-- The wording of a fault in a given text. -/
def EscapeFault.message (text : String) : EscapeFault → String
  | byteDigits => s!"'\\x' needs two hex digits in '{text}'"
  | openBrace => s!"'\\u' must be followed by '\x7b' in '{text}'"
  | unterminated => s!"Unterminated '\\u\x7b...\x7d' escape in '{text}'"
  | codeOverflow => "number too large to fit in target type"
  | noCharacter digits => s!"'\\u\x7b{String.ofList digits}\x7d' is not a valid character"

/-- How far into an escape the reading is. Digits are kept newest first. -/
inductive EscapeState where
  | plain
  | backslash
  | byte (digits : List Char)
  | brace
  | code (digits : List Char)

/-- The character that a code point escape names by its digits. -/
def charOfCode (digits : List Char) : Except EscapeFault Char :=
  let n := hexNumber digits
  if twoTo 32 ≤ n then .error .codeOverflow
  else if h : n.isValidChar then .ok (Char.ofNatAux n h)
  else .error (.noCharacter digits)

/-- Reads the rest of a text from a state. -/
def unescapeFrom : EscapeState → List Char → Except EscapeFault (List Char)
  | .plain, [] => .ok []
  | .plain, c :: s =>
    if c = '\\' then unescapeFrom .backslash s else (unescapeFrom .plain s).map (c :: ·)
  | .backslash, [] => .ok ['\\']
  | .backslash, c :: s =>
    match c with
    | 'n' => (unescapeFrom .plain s).map ('\n' :: ·)
    | 'r' => (unescapeFrom .plain s).map ('\r' :: ·)
    | 't' => (unescapeFrom .plain s).map ('\t' :: ·)
    | '0' => (unescapeFrom .plain s).map ('\x00' :: ·)
    | '\\' => (unescapeFrom .plain s).map ('\\' :: ·)
    | 'x' => unescapeFrom (.byte []) s
    | 'u' => unescapeFrom .brace s
    | c => (unescapeFrom .plain s).map fun t => '\\' :: c :: t
  | .byte _, [] => .error .byteDigits
  | .byte digits, c :: s =>
    if isHexDigit c then
      match digits with
      | [] => unescapeFrom (.byte [c]) s
      | d :: _ => (unescapeFrom .plain s).map (Char.ofNat (hexNumber [d, c]) :: ·)
    else .error .byteDigits
  | .brace, [] => .error .openBrace
  | .brace, c :: s => if c = '{' then unescapeFrom (.code []) s else .error .openBrace
  | .code _, [] => .error .unterminated
  | .code digits, c :: s =>
    if isHexDigit c then unescapeFrom (.code (c :: digits)) s
    else if c = '}' && !digits.isEmpty then do
      let d ← charOfCode digits.reverse
      (unescapeFrom .plain s).map (d :: ·)
    else .error .unterminated

/-- Expands the escapes of a text. -/
def unescapeChars (s : List Char) : Except EscapeFault (List Char) := unescapeFrom .plain s

/-- Expands the escapes of a text. -/
def unescape (s : String) : Except EscapeFault String :=
  (unescapeChars s.toList).map String.ofList

end Kitchen.Text
