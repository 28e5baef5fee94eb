import Kitchen.Dish.Basic
import Kitchen.Json.Reader
import Kitchen.Number.Reading

/-!
# Conversion between representations

Every kind but markup can be written as bytes, and bytes can be read as every kind. A conversion
takes this way through bytes unless a direct way is shorter. Markup converts to nothing else, and a
list of files only to bytes.
-/

namespace Kitchen

open Text

/-- What is wrong with content that cannot be read as another kind. -/
inductive ContentFault where
  | notUtf8 (fault : Utf8Fault)
  | notNumber (text : String)
  | notDecimal (text : String)
  | notWhole (value : Decimal)
  | tooLarge (value : Decimal)
  | notJson (fault : Json.Fault)
  deriving DecidableEq, Repr

/-- The wording of a content fault. -/
def ContentFault.message : ContentFault → String
  | notUtf8 fault => s!"invalid UTF-8: {fault.message}"
  | notNumber text => s!"'{text}' is not a number"
  | notDecimal text => s!"'{text}' is not a decimal number"
  | notWhole value => s!"{value.text} is not an integer"
  | tooLarge value => s!"{value.text} does not fit in 64 bits"
  | notJson fault => fault.message

/-- Why a dish cannot be stored or converted. -/
inductive DishError where
  | typeMismatch (declared found : Kind)
  | noConversionPath (source target : Kind)
  | malformed (source target : Kind) (fault : ContentFault)
  deriving DecidableEq, Repr

/-- The wording of a dish error. -/
def DishError.message : DishError → String
  | typeMismatch declared found =>
    s!"value of type {found.label} cannot be stored as {declared.label}"
  | noConversionPath source target =>
    s!"no conversion path from {source.label} to {target.label}"
  | malformed source target fault =>
    s!"cannot convert {source.label} to {target.label}: {fault.message}"

namespace Dish

def readText (bytes : List UInt8) : Except ContentFault String :=
  (utf8Decode bytes).mapError .notUtf8

/-- A decimal as an integer of 64 bits. -/
def wholeOfDecimal (value : Decimal) : Except ContentFault Int64 :=
  match value.toInteger with
  | .integer n => .ok (Int64.ofInt n)
  | .tooLarge => .error (.tooLarge value)
  | .notWhole => .error (.notWhole value)

/-- Text as an integer of 64 bits. Blanks around it are ignored, and nothing counts as zero. -/
def readWhole (text : String) : Except ContentFault Int64 :=
  let body := trimChars text.toList
  if body.isEmpty then .ok 0
  else match readInt64? body with
    | some n => .ok (Int64.ofInt n)
    | none => match Decimal.ofChars? body with
      | none => .error (.notNumber (String.ofList body))
      | some value => wholeOfDecimal value

/-- Text as a decimal. Blanks around it are ignored, and nothing counts as zero. -/
def readDecimal (text : String) : Except ContentFault Decimal :=
  let body := trimChars text.toList
  if body.isEmpty then .ok (Decimal.ofInt 0)
  else match Decimal.ofChars? body with
    | none => .error (.notDecimal (String.ofList body))
    | some value => .ok value

def readJson (text : String) : Except ContentFault Json := (Json.parse text).mapError .notJson

/-- The indentation of JSON that is written as text. -/
def jsonIndent : String := "    "

def jsonText (value : Json) : String := value.pretty jsonIndent

/-- The content as bytes; markup has none. -/
def toBytes? : Dish → Option (List UInt8)
  | byteArray bytes => some bytes
  | arrayBuffer bytes => some bytes
  | string text => some (utf8Encode text)
  | number n => some (utf8Encode (integerText n))
  | bigNumber value => some (utf8Encode value.text)
  | json value => some (utf8Encode (jsonText value))
  | listFile files => some (files.flatMap File.data)
  | html _ => none

/-- The name of the file that bytes become in a list of files. -/
def unnamedFile : String := "unknown"

def ofBytes (bytes : List UInt8) : Kind → Except ContentFault Dish
  | .byteArray => .ok (byteArray bytes)
  | .arrayBuffer => .ok (arrayBuffer bytes)
  | .string => (readText bytes).map string
  | .html => (readText bytes).map html
  | .number => do return number (← readWhole (← readText bytes))
  | .bigNumber => do return bigNumber (← readDecimal (← readText bytes))
  | .json => do return json (← readJson (← readText bytes))
  | .listFile => .ok (listFile [⟨unnamedFile, bytes, none⟩])

def throughBytes (dish : Dish) (target : Kind) : Except DishError Dish :=
  match dish.toBytes? with
  | none => .error (.noConversionPath dish.kind target)
  | some bytes => (ofBytes bytes target).mapError (.malformed dish.kind target)

/-- Converts a dish to a kind. -/
def convert (dish : Dish) (target : Kind) : Except DishError Dish :=
  if dish.kind = target then .ok dish
  else
    let malformed := DishError.malformed dish.kind target
    match dish, target with
    | html _, target => .error (.noConversionPath .html target)
    | listFile files, target =>
      if target.isBinary then throughBytes (listFile files) target
      else .error (.noConversionPath .listFile target)
    | byteArray bytes, .arrayBuffer => .ok (arrayBuffer bytes)
    | arrayBuffer bytes, .byteArray => .ok (byteArray bytes)
    | number n, .string => .ok (string (integerText n))
    | bigNumber value, .string => .ok (string value.text)
    | json value, .string => .ok (string (jsonText value))
    | string text, .number => ((readWhole text).map number).mapError malformed
    | string text, .bigNumber => ((readDecimal text).map bigNumber).mapError malformed
    | string text, .json => ((readJson text).map json).mapError malformed
    | number n, .bigNumber => .ok (bigNumber (Decimal.ofInt n.toInt))
    | bigNumber value, .number => ((wholeOfDecimal value).map number).mapError malformed
    | dish, target => throughBytes dish target

/-- The value shown as a kind: a failed conversion gives a text that says why. -/
def present (dish : Dish) (target : Kind) : Dish :=
  match dish.convert target with
  | .ok shown => shown
  | .error error =>
    let holds := s!"[{dish.kind.label} dish, {dish.size} bytes, "
    string (holds ++ s!"cannot be shown as {target.label}: {error.message}]")

/-- The text that stands for a dish on a screen: markup as it is, all else as text. -/
def display (dish : Dish) : String :=
  match dish with
  | html markup => markup
  | dish => match dish.present .string with
    | string text => text
    | _ => ""

/-- Replaces the value of a dish by one of a declared kind. -/
def store (value : Dish) (declared : Kind) : Except DishError Dish :=
  if value.kind = declared then .ok value else .error (.typeMismatch declared value.kind)

/-- The text of a string or of markup. -/
def asText : Dish → Except DishError String
  | string text => .ok text
  | html markup => .ok markup
  | other => .error (.typeMismatch .string other.kind)

/-- The bytes of either binary kind. -/
def asBytes : Dish → Except DishError (List UInt8)
  | byteArray bytes => .ok bytes
  | arrayBuffer bytes => .ok bytes
  | other => .error (.typeMismatch .byteArray other.kind)

/-- The value of a JSON dish. -/
def asJson : Dish → Except DishError Json
  | json value => .ok value
  | other => .error (.typeMismatch .json other.kind)

def asNumber? : Dish → Option Int64
  | number n => some n
  | _ => none

end Dish
end Kitchen
