import Kitchen.Number.Power
import Kitchen.Number.Reading
import Kitchen.Yaml.Node

/-!
# Meaning of plain scalars

A plain scalar may write null, a truth value or a number; any other stands for its own text. Digits
behind a leading zero write no number.
-/

namespace Kitchen.Yaml

open Text

/-- What a plain scalar stands for. -/
inductive Meaning where
  | null
  | bool (b : Bool)
  | integer (n : Int)
  | float (x : Binary64)
  | text
  deriving DecidableEq, Repr

def isNull (text : String) : Bool := ["~", "null", "Null", "NULL"].contains text

/-- The truth value of a word. -/
def bool? (text : String) : Option Bool :=
  if ["true", "True", "TRUE"].contains text then some true
  else if ["false", "False", "FALSE"].contains text then some false
  else none

def dropSign : List Char → List Char
  | '+' :: s => s
  | '-' :: s => s
  | s => s

/-- Digits behind a leading zero, with or without a sign. -/
def hasLeadingZero (s : List Char) : Bool :=
  match dropSign s with
  | '0' :: c :: rest => (c :: rest).all isAsciiDigit
  | _ => false

/-- The number that digits of a base write. -/
def digits? (base : Nat) (s : List Char) : Option Nat :=
  if !s.isEmpty && s.all fun c => isHexDigit c && decide (hexValue c < base) then
    some (s.foldl (fun n c => n * base + hexValue c) 0)
  else none

/-- The number that digits behind the mark of a base write. -/
def based? : List Char → Option Nat
  | '0' :: 'x' :: s => digits? 16 s
  | '0' :: 'o' :: s => digits? 8 s
  | '0' :: 'b' :: s => digits? 2 s
  | _ => none

/-- A natural number: in decimal digits, or in another base behind its mark, with or without a plus
sign. -/
def natural? (s : List Char) : Option Nat :=
  let body := match s with
    | '+' :: rest => rest
    | rest => rest
  match based? body with
  | some n => some n
  | none => if hasLeadingZero s then none else digits? 10 body

/-- A number with a minus sign. -/
def negative? (s : List Char) : Option Int :=
  match s with
  | '-' :: body =>
    match based? body with
    | some n => some (-n)
    | none => if hasLeadingZero s then none else (digits? 10 body).map fun n => -(n : Int)
  | _ => none

/-- An integer, which 128 bits hold. -/
def integer? (s : List Char) : Option Int :=
  match natural? s with
  | some n => if n < twoTo 128 then some n else none
  | none => (negative? s).filter fun n => decide (-(twoTo 127 : Int) ≤ n)

/-- A number with binary fractions; infinities and the value that is no number have words of their
own. -/
def float? (s : List Char) : Option Binary64 :=
  let body := match s with
    | '+' :: rest => rest
    | rest => rest
  let text := String.ofList s
  if s.head? = some '+' && (body.head? = some '+' || body.head? = some '-') then none
  else if [".inf", ".Inf", ".INF"].contains (String.ofList body) then some (.infinite false)
  else if ["-.inf", "-.Inf", "-.INF"].contains text then some (.infinite true)
  else if [".nan", ".NaN", ".NAN"].contains text then some .nan
  else (Binary64.ofChars? body).filter Binary64.isFinite

/-- What a plain scalar stands for. -/
def meaning (text : String) : Meaning :=
  let s := text.toList
  if s.isEmpty || isNull text then .null
  else match bool? text with
    | some b => .bool b
    | none => match integer? s with
      | some n => .integer n
      | none =>
        if hasLeadingZero s then .text
        else match float? s with
          | some x => .float x
          | none => .text

/-! ## Tags -/

/-- The full tag of a kind of scalar that all documents know. -/
def coreTag (name : String) : String := "tag:yaml.org,2002:" ++ name

/-- The name of a tag of the document's own. -/
def localTag? (tag : Option String) : Option String :=
  match tag.map String.toList with
  | some ('!' :: name) => some (String.ofList name)
  | _ => none

/-- What a scalar stands for, in view of its tag and style; nothing if it contradicts its tag. -/
def Node.meaning? (tag : Option String) (style : Style) (text : String) : Option Meaning :=
  match tag with
  | none => some (if style = .plain then meaning text else .text)
  | some tag =>
    if tag = coreTag "bool" then (bool? text).map .bool
    else if tag = coreTag "int" then (integer? text.toList).map .integer
    else if tag = coreTag "float" then (float? text.toList).map .float
    else if tag = coreTag "null" then (if isNull text then some .null else none)
    else some .text

end Kitchen.Yaml
