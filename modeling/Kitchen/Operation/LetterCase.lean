import Kitchen.Operation.Basic
import Kitchen.Regex.Matcher

/-!
# Letter case

Writing a text in upper or in lower case, and in upper case at the starts of words, sentences or
paragraphs only. A pattern says where these starts are: its group takes the character that stands
there.
-/

namespace Kitchen.LetterCase

open Text

/-- What starts with an upper-case character. -/
inductive Scope where
  | word
  | sentence
  | paragraph
  deriving DecidableEq, Repr

namespace Scope

def noun : Scope → String
  | word => "word"
  | sentence => "sentence"
  | paragraph => "paragraph"

/-- What comes before a start and belongs to it, and the character of the start as a group. -/
def pattern : Scope → String
  | word => "(\\b\\w)"
  | sentence => "(?:\\.|^)\\s*(\\b\\w)"
  | paragraph => "(?m)(?:\\n|^)\\s*(\\b\\w)"

end Scope

/-- The text of a match, from its group on in upper case. -/
def upperMatch (text : Array Char) (found : Regex.Match) : List Char :=
  match found.groups[0]? with
  | some (some (start, _)) =>
    Regex.slice text found.start start ++ upperChars (Regex.slice text start found.stop)
  | _ => Regex.slice text found.start found.stop

/-- The text with the starts of a scope in upper case. -/
def upperStarts (scope : Scope) (text : String) : Except Fault String :=
  match Regex.Matcher.compile .default scope.pattern with
  | .ok matcher =>
    let text := text.toList.toArray
    .ok (String.ofList
      (Regex.Matcher.replaceMatches text (upperMatch text) 0 (matcher.findAll text true)))
  | .error error =>
    .error (Halt.crash (some s!"{scope.noun} pattern is valid: {error.message}")).contained

/-- Upper case in the scope that an argument names. -/
def toUpper (args : List Argument) (input : Dish) : Except Fault Dish := do
  let text ← input.asText.mapError .dish
  match textAt args 0 with
  | "All" => return .string (uppercase text)
  | "Word" => return .string (← upperStarts .word text)
  | "Sentence" => return .string (← upperStarts .sentence text)
  | "Paragraph" => return .string (← upperStarts .paragraph text)
  | other => throw (.invalid s!"Unknown scope '{other}'")

def toLower (_ : List Argument) (input : Dish) : Except Fault Dish := do
  let text ← input.asText.mapError .dish
  return .string (lowercase text)

/-- Ranges keep their places. -/
def samePlaces : RangeMap := fun _ ranges => ranges

def upperCase : Operation :=
  (Operation.ofFunction
    { Descriptor.plain "To Upper case" .string .string with
      description := "Converts the input to upper case."
      parameters := [.option "Scope" ["All", "Word", "Sentence", "Paragraph"]] }
    toUpper).withHighlight samePlaces samePlaces

def lowerCase : Operation :=
  (Operation.ofFunction
    { Descriptor.plain "To Lower case" .string .string with
      description := "Converts the input to lower case." }
    toLower).withHighlight samePlaces samePlaces

end Kitchen.LetterCase
