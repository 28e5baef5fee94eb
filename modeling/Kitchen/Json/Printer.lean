import Kitchen.Json.Value
import Kitchen.Number.FloatFormat
import Kitchen.Text.DecimalDigit

/-!
# Writing JSON

The compact form, and the form with one item a line. Strings escape quotes, backslashes and control
characters, and leave every other character as it is.
-/

namespace Kitchen.Json

open Text

/-- A character inside a JSON string. -/
def escapedChar (c : Char) : List Char :=
  match c with
  | '"' => ['\\', '"']
  | '\\' => ['\\', '\\']
  | '\x08' => ['\\', 'b']
  | '\x0c' => ['\\', 'f']
  | '\n' => ['\\', 'n']
  | '\r' => ['\\', 'r']
  | '\t' => ['\\', 't']
  | c =>
    if c.toNat < 0x20 then ['\\', 'u', '0', '0', hexDigit (c.toNat / 16), hexDigit (c.toNat % 16)]
    else [c]

/-- A text as a JSON string. -/
def quotedChars (s : String) : List Char := '"' :: s.toList.flatMap escapedChar ++ ['"']

/-- A number; one that is not finite has no form and is written as null. -/
def numberChars : JsonNumber → List Char
  | .whole n => (toString n).toList
  | .binary x => if x.isFinite then Binary64.json.chars x else "null".toList

mutual

def compactChars : Json → List Char
  | null => "null".toList
  | bool b => (if b then "true" else "false").toList
  | number n => numberChars n
  | string s => quotedChars s
  | array items => '[' :: compactItems items ++ [']']
  | object members => '{' :: compactMembers members ++ ['}']

/-- The compact forms of items, with commas between them. -/
def compactItems : List Json → List Char
  | [] => []
  | [item] => compactChars item
  | item :: next :: rest => compactChars item ++ ',' :: compactItems (next :: rest)

/-- The compact forms of members, with commas between them. -/
def compactMembers : List (String × Json) → List Char
  | [] => []
  | [(key, value)] => quotedChars key ++ ':' :: compactChars value
  | (key, value) :: next :: rest =>
    quotedChars key ++ ':' :: compactChars value ++ ',' :: compactMembers (next :: rest)

end

/-- A line break and the indentation of a level. -/
def lineBreak (indent : List Char) (level : Nat) : List Char :=
  '\n' :: (List.replicate level indent).flatten

mutual

/-- The form with one item a line, at a level of indentation. -/
def prettyChars (indent : List Char) (level : Nat) : Json → List Char
  | null => "null".toList
  | bool b => (if b then "true" else "false").toList
  | number n => numberChars n
  | string s => quotedChars s
  | array [] => ['[', ']']
  | array (item :: rest) =>
    '[' :: prettyItems indent (level + 1) (item :: rest) ++ lineBreak indent level ++ [']']
  | object [] => ['{', '}']
  | object (member :: rest) =>
    '{' :: prettyMembers indent (level + 1) (member :: rest) ++ lineBreak indent level ++ ['}']

/-- Items, each on a line of its own. -/
def prettyItems (indent : List Char) (level : Nat) : List Json → List Char
  | [] => []
  | [item] => lineBreak indent level ++ prettyChars indent level item
  | item :: next :: rest =>
    lineBreak indent level ++ prettyChars indent level item ++
      ',' :: prettyItems indent level (next :: rest)

/-- Members, each on a line of its own. -/
def prettyMembers (indent : List Char) (level : Nat) : List (String × Json) → List Char
  | [] => []
  | [(key, value)] =>
    lineBreak indent level ++ quotedChars key ++ ':' :: ' ' :: prettyChars indent level value
  | (key, value) :: next :: rest =>
    lineBreak indent level ++ quotedChars key ++ ':' :: ' ' :: prettyChars indent level value ++
      ',' :: prettyMembers indent level (next :: rest)

end

def compact (value : Json) : String := String.ofList value.compactChars

/-- The form with one item a line, indented by the given text. -/
def pretty (indent : String) (value : Json) : String :=
  String.ofList (prettyChars indent.toList 0 value)

end Kitchen.Json
