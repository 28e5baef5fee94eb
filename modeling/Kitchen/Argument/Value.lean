import Kitchen.Number.FloatFormat
import Kitchen.Number.Power
import Kitchen.Number.Reading
import Kitchen.Text.Blank
import Kitchen.Text.Casing
import Kitchen.Text.Quoted

/-!
# Argument values

What a recipe lists behind the name of an operation: booleans, numbers, texts, and texts paired with
the encoding or mode they are to be read in.
-/

namespace Kitchen

open Text

inductive Argument where
  | bool (b : Bool)
  | number (x : Binary64)
  | text (s : String)
  /-- A text with a choice beside it. -/
  | toggle (s option : String)
  deriving DecidableEq, Repr, Inhabited

namespace Argument

/-- The text of a value that has one. -/
def asText? : Argument → Option String
  | text s => some s
  | toggle s _ => some s
  | _ => none

/-- The number that a value is or, as text with blanks around it, writes. -/
def asNumber? : Argument → Option Binary64
  | number x => some x
  | text s => Binary64.ofChars? (trimChars s.toList)
  | _ => none

/-- The truth value that a word stands for, in any case and with blanks around it. -/
def boolOfWord? (s : String) : Option Bool :=
  let word := lowercase (trim s)
  if ["true", "yes", "on", "1"].contains word then some true
  else if ["false", "no", "off", "0"].contains word then some false
  else none

/-- The truth value of a value; a number counts as true unless it is zero. -/
def asBool? : Argument → Option Bool
  | bool b => some b
  | number x => some x.isNonzero
  | text s => boolOfWord? s
  | toggle _ _ => none

/-- The choice beside a text. -/
def option? : Argument → Option String
  | toggle _ option => some option
  | _ => none

/-- Whole numbers below this bound are written as integers. -/
def wholeTextBound : Binary64 := Binary64.ofNat (tenTo 15)

/-- The text of a number: whole numbers of up to fifteen digits have no sign of zero. -/
def numberText (x : Binary64) : String :=
  if x.isWhole && decide (-wholeTextBound < x) && decide (x < wholeTextBound) then
    toString x.truncate
  else Binary64.plain.text x

/-- The value as diagnostics show it. -/
def diagnostic : Argument → String
  | bool b => s!"Bool({b})"
  | number x => s!"Number({Binary64.diagnostic.text x})"
  | text s => s!"Text({quoted s})"
  | toggle s option => s!"Toggle \x7b string: {quoted s}, option: {quoted option} \x7d"

end Argument

/-! ## Arguments by position -/

/-- The text at a position, or nothing. -/
def textAt (args : List Argument) (i : Nat) : String := ((args[i]?).bind Argument.asText?).getD ""

/-- The truth value at a position, or false. -/
def boolAt (args : List Argument) (i : Nat) : Bool := ((args[i]?).bind Argument.asBool?).getD false

def numberAt? (args : List Argument) (i : Nat) : Option Binary64 :=
  (args[i]?).bind Argument.asNumber?

/-- The text and the choice at a position; a value without a choice has an empty one. -/
def toggleAt (args : List Argument) (i : Nat) : String × String :=
  match args[i]? with
  | some (.toggle s option) => (s, option)
  | some other => (other.asText?.getD "", "")
  | none => ("", "")

end Kitchen
