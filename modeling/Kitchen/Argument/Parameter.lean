import Kitchen.Argument.Value

/-!
# Parameters

What an operation expects at each position of its argument list, and the binding of values to it: a
missing value takes the default, and a value of another shape is turned into the expected one where
it has a meaning there.
-/

namespace Kitchen

open Text

inductive ParameterKind where
  | string
  | number
  | boolean
  /-- One of a fixed list of choices. -/
  | option
  /-- A text with one of a fixed list of choices beside it. -/
  | toggleString
  /-- Free text, possibly of several lines. -/
  | text
  deriving DecidableEq, Repr, Inhabited

def ParameterKind.label : ParameterKind → String
  | string => "string"
  | number => "number"
  | boolean => "boolean"
  | option => "option"
  | toggleString => "toggleString"
  | text => "text"

/-- What is expected at one position. -/
structure Parameter where
  name : String
  kind : ParameterKind
  default : Argument
  options : List String
  min : Option Binary64
  max : Option Binary64
  deriving DecidableEq, Repr, Inhabited

/-- Why values do not bind. -/
inductive BindError where
  | notNumber (name : String) (value : Argument)
  | belowMin (name : String) (min x : Binary64)
  | aboveMax (name : String) (max x : Binary64)
  | notBoolean (name : String) (value : Argument)
  | notOption (name : String)
  | unknownOption (name : String) (options : List String) (chosen : String)
  | notToggle (name : String) (value : Argument)
  | tooMany (operation : String) (expected supplied : Nat)
  deriving DecidableEq, Repr

/-- The wording of a bind error. -/
def BindError.message : BindError → String
  | notNumber name value => s!"'{name}' expects a number, got {value.diagnostic}"
  | belowMin name min x =>
    s!"'{name}' must be at least {Binary64.plain.text min}, got {Binary64.plain.text x}"
  | aboveMax name max x =>
    s!"'{name}' must be at most {Binary64.plain.text max}, got {Binary64.plain.text x}"
  | notBoolean name value => s!"'{name}' expects a boolean, got {value.diagnostic}"
  | notOption name => s!"'{name}' expects one of its options"
  | unknownOption name options chosen =>
    s!"'{name}' must be one of [" ++ ", ".intercalate options ++ s!"], got '{chosen}'"
  | notToggle name value => s!"'{name}' expects text with an encoding, got {value.diagnostic}"
  | tooMany operation expected supplied =>
    s!"'{operation}' takes {expected} argument(s) but {supplied} were supplied"

namespace Parameter

/-- A parameter of a shape with a default and nothing else. -/
def plain (name : String) (kind : ParameterKind) (default : Argument) : Parameter :=
  ⟨name, kind, default, [], none, none⟩

def string (name default : String) : Parameter := plain name .string (.text default)

/-- A text of any number of lines. -/
def text (name default : String) : Parameter := plain name .text (.text default)

def number (name : String) (default : Binary64) : Parameter := plain name .number (.number default)

def boolean (name : String) (default : Bool) : Parameter := plain name .boolean (.bool default)

/-- One of some choices, the first being the default. -/
def option (name : String) (options : List String) : Parameter :=
  { plain name .option (.text (options.headD "")) with options }

/-- A text with one of some choices, the first being the default. -/
def toggle (name default : String) (options : List String) : Parameter :=
  { plain name .toggleString (.toggle default (options.headD "")) with options }

/-- The parameter with bounds on its number. -/
def range (parameter : Parameter) (min max : Option Binary64) : Parameter :=
  { parameter with min, max }

/-- Equality up to the case of ASCII letters. -/
def sameInAnyCase (s t : List Char) : Bool := s.map Char.toLower == t.map Char.toLower

/-- The first choice that a text names, in any case and with blanks around it. -/
def matchOption (parameter : Parameter) (chosen : String) : Except BindError String :=
  match parameter.options.find? fun o => sameInAnyCase o.toList (trimChars chosen.toList) with
  | some o => .ok o
  | none => .error (.unknownOption parameter.name parameter.options chosen)

/-- A value as text: numbers and truth values are written out. -/
def bindText : Argument → Argument
  | .text s => .text s
  | .toggle s _ => .text s
  | .number x => .text (Argument.numberText x)
  | .bool b => .text (if b then "true" else "false")

/-- Refuses a number below the least one. -/
def checkMin (parameter : Parameter) (x : Binary64) : Except BindError Unit :=
  match parameter.min with
  | some min => if x < min then .error (.belowMin parameter.name min x) else .ok ()
  | none => .ok ()

/-- Refuses a number above the greatest one. -/
def checkMax (parameter : Parameter) (x : Binary64) : Except BindError Unit :=
  match parameter.max with
  | some max => if max < x then .error (.aboveMax parameter.name max x) else .ok ()
  | none => .ok ()

/-- A number that no bound excludes. -/
def bindNumber (parameter : Parameter) (x : Binary64) : Except BindError Argument := do
  parameter.checkMin x
  parameter.checkMax x
  return .number x

/-- Binds a value that was supplied. -/
def bindValue (parameter : Parameter) (value : Argument) : Except BindError Argument :=
  match parameter.kind with
  | .string => .ok (bindText value)
  | .text => .ok (bindText value)
  | .number =>
    match value.asNumber? with
    | some x => parameter.bindNumber x
    | none => .error (.notNumber parameter.name value)
  | .boolean =>
    match value.asBool? with
    | some b => .ok (.bool b)
    | none => .error (.notBoolean parameter.name value)
  | .option =>
    match value.asText? with
    | some chosen => (parameter.matchOption chosen).map .text
    | none => .error (.notOption parameter.name)
  | .toggleString =>
    match value with
    | .toggle s option => (parameter.matchOption option).map (.toggle s)
    | .text s => .ok (.toggle s (parameter.default.option?.getD ""))
    | other => .error (.notToggle parameter.name other)

/-- Binds a value, or the default where none was supplied. -/
def bind (parameter : Parameter) : Option Argument → Except BindError Argument
  | none => .ok parameter.default
  | some value => parameter.bindValue value

/-- Binds values to parameters by position. -/
def bindAll : List Parameter → List Argument → Except BindError (List Argument)
  | [], _ => .ok []
  | parameter :: rest, values => do
    let first ← parameter.bind values.head?
    return first :: (← bindAll rest values.tail)

end Parameter
end Kitchen
