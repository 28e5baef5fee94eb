import Kitchen.Number.Power
import Kitchen.Regex.Pattern
import Kitchen.Regex.Template

/-!
# Matchers

Patterns made ready for matching: whether a text has a match, what the groups of the first match
hold, and replacing matches by a template or by a text as it is.
-/

namespace Kitchen.Regex

/-- A pattern made ready for matching. -/
structure Matcher where
  program : Array Instruction
  /-- The names of the groups, from the first. -/
  groupNames : List (Option String)

namespace Matcher

/-- The most bytes that the states of a pattern may take. -/
def sizeLimit : Nat := 10 * twoTo 20

/-- The bytes of the states around every expression, which look for its start and bound its match. -/
def frameBytes : Nat := 6 * Expr.stateBytes + 16

def compile (flags : Flags) (pattern : String) : Except PatternError Matcher :=
  match Expr.ofPattern flags pattern.toList with
  | .error cause => .error (.malformed cause)
  | .ok e =>
    if sizeLimit < e.bytes + frameBytes then .error (.tooLarge sizeLimit)
    else .ok ⟨e.code.toArray, e.groupNames⟩

/-- The leftmost match from a position on. -/
def findFrom? (matcher : Matcher) (text : Array Char) (start : Nat) : Option Match :=
  Regex.findFrom? matcher.program matcher.groupNames.length text start

def isMatch (matcher : Matcher) (text : String) : Bool :=
  (matcher.findFrom? text.toList.toArray 0).isSome

/-- The texts of the groups of the first match; a group that took no part has none. -/
def captures? (matcher : Matcher) (text : String) : Option (List (Option String)) :=
  let text := text.toList.toArray
  (matcher.findFrom? text 0).map fun found =>
    (List.range' 1 matcher.groupNames.length).map fun i => (found.group text i).map String.ofList

/-- All matches, or the first one alone. -/
def findAll (matcher : Matcher) (text : Array Char) (everywhere : Bool) : List Match :=
  if everywhere then
    findAllFrom matcher.program matcher.groupNames.length text (2 * text.size + 3) 0 none
  else (matcher.findFrom? text 0).toList

/-- The text from a position on with every given match replaced. -/
def replaceMatches (text : Array Char) (new : Match → List Char) (start : Nat) :
    List Match → List Char
  | [] => slice text start text.size
  | found :: rest =>
    slice text start found.start ++ new found ++ replaceMatches text new found.stop rest

/-- Replaces all matches, or the first one alone, by what a template stands for. -/
def replace (matcher : Matcher) (text template : String) (everywhere : Bool) : String :=
  let text := text.toList.toArray
  let parts := TemplatePart.readAll template.toList
  let new (found : Match) := found.expand matcher.groupNames text parts
  String.ofList (replaceMatches text new 0 (matcher.findAll text everywhere))

/-- Replaces all matches, or the first one alone, by a text that is no template. -/
def replaceVerbatim (matcher : Matcher) (text new : String) (everywhere : Bool) : String :=
  let text := text.toList.toArray
  String.ofList (replaceMatches text (fun _ => new.toList) 0 (matcher.findAll text everywhere))

end Matcher
end Kitchen.Regex
