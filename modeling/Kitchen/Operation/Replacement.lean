import Kitchen.Operation.Basic
import Kitchen.Regex.Matcher
import Kitchen.Text.Escape

/-!
# Finding and replacing

Replacing what a regular expression matches, by a template, or what a literal text occurs as, by a
literal text. The literal text may be written with escapes. It is found through the pattern that
matches nothing but itself.
-/

namespace Kitchen.Replacement

open Text

def regexMode : String := "Regex"

/-- The mode of literal texts with escapes. -/
def extendedMode : String := "Extended (\\n, \\t, \\x...)"

def simpleMode : String := "Simple string"

/-- The pattern of a text in a mode. -/
def patternOf (mode find : String) : Except Fault String :=
  let literal (text : String) := String.ofList (Regex.literalPattern text.toList)
  if mode = regexMode then .ok find
  else if mode = simpleMode then .ok (literal find)
  else match unescape find with
    | .ok text => .ok (literal text)
    | .error fault => .error (.invalid (fault.message find))

/-- Replaces in the input what the arguments ask for. -/
def findReplace (args : List Argument) (input : Dish) : Except Fault Dish := do
  let text ← input.asText.mapError .dish
  let (find, mode) := toggleAt args 0
  let new := textAt args 1
  let everywhere := boolAt args 2
  let pattern ← patternOf mode find
  let flags : Regex.Flags :=
    { Regex.Flags.default with
      caseInsensitive := boolAt args 3, multiLine := boolAt args 4, dotAll := boolAt args 5 }
  match Regex.Matcher.compile flags pattern with
  | .ok matcher =>
    if mode = regexMode then return .string (matcher.replace text new everywhere)
    else return .string (matcher.replaceVerbatim text new everywhere)
  | .error error => throw (.invalid s!"Invalid pattern '{find}': {error.message}")

def operation : Operation :=
  .ofFunction
    { Descriptor.plain "Find / Replace" .string .string with
      description := "Replaces every match of a pattern."
      parameters :=
        [.toggle "Find" "" [regexMode, extendedMode, simpleMode], .string "Replace" "",
          .boolean "Global match" true, .boolean "Case insensitive" false,
          .boolean "Multiline matching" true, .boolean "Dot matches all" false] }
    findReplace

end Kitchen.Replacement
