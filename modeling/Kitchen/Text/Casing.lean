import Kitchen.Text.CaseTable
import Kitchen.Text.Category

/-!
# Upper and lower case

Full case conversion: a character may become several, and a capital sigma becomes a final sigma at
the end of a word. Beside it stands simple case folding, which decides when two characters differ by
case alone.
-/

namespace Kitchen.Text

/-- The image of a code point under the first run that covers it; runs are in increasing order. -/
def shiftIn : List CaseRun → Nat → Nat
  | [], n => n
  | run :: rest, n =>
    if n < run.1 then n else if run.covers n then run.image n else shiftIn rest n

/-- The upper-case form of a character. -/
def upperChar (c : Char) : List Char :=
  match upperExpansions.lookup c.toNat with
  | some several => several.map Char.ofNat
  | none => [Char.ofNat (shiftIn upperRuns c.toNat)]

/-- The upper-case form of a text, character by character. -/
def upperChars (s : List Char) : List Char := s.flatMap upperChar

/-- The upper-case form of a text. -/
def uppercase (s : String) : String := String.ofList (upperChars s.toList)

/-- Past any case-ignorable characters stands a cased one. -/
def meetsCased (s : List Char) : Bool :=
  match s.dropWhile isCaseIgnorable with
  | [] => false
  | c :: _ => isCased c

/-- A sigma ends a word when a cased character precedes it and none follows it, ignoring
case-ignorable characters on both sides. `before` is the text before it, nearest character first. -/
def isFinalSigma (before after : List Char) : Bool := meetsCased before && !meetsCased after

/-- The lower-case form of a character between the text before it (nearest first) and after it. -/
def lowerChar (before : List Char) (c : Char) (after : List Char) : List Char :=
  if c = 'Σ' then [if isFinalSigma before after then 'ς' else 'σ']
  else if c = 'İ' then ['i', '\u0307']
  else [Char.ofNat (shiftIn lowerRuns c.toNat)]

private def lowerFrom (before : List Char) : List Char → List Char
  | [] => []
  | c :: after => lowerChar before c after ++ lowerFrom (c :: before) after

/-- The lower-case form of a text. -/
def lowerChars (s : List Char) : List Char := lowerFrom [] s

/-- The lower-case form of a text. -/
def lowercase (s : String) : String := String.ofList (lowerChars s.toList)

end Kitchen.Text
