import Kitchen.Json.Printer
import Kitchen.Number.Decimal
import Kitchen.Text.Blank
import Kitchen.Text.Casing
import Kitchen.Text.Utf8

/-!
# Dishes

What passes from step to step of a bake: a value in one of eight representations. The representation
of a dish is its constructor, so value and kind cannot disagree.
-/

namespace Kitchen

inductive Kind where
  | byteArray
  | arrayBuffer
  | string
  | number
  | bigNumber
  | json
  | listFile
  | html
  deriving DecidableEq, Repr, Inhabited

namespace Kind

/-- Every kind, in the order in which they are listed. -/
def all : List Kind := [byteArray, arrayBuffer, string, number, bigNumber, json, listFile, html]

def label : Kind → String
  | byteArray => "byteArray"
  | arrayBuffer => "arrayBuffer"
  | string => "string"
  | number => "number"
  | bigNumber => "bigNumber"
  | json => "json"
  | listFile => "listFile"
  | html => "html"

/-- The kind of a name written exactly. -/
def ofName? (name : String) : Option Kind := all.find? fun kind => kind.label == name

/-- The kind of a name written in any case, with blanks around it. -/
def ofLabel? (label : String) : Option Kind :=
  all.find? fun kind => Text.lowercase kind.label == Text.lowercase (Text.trim label)

/-- The message for a name that no kind has. -/
def unknownLabel (label : String) : String :=
  s!"Unknown dish type '{label}'. Known types: " ++ ", ".intercalate (all.map Kind.label)

/-- The two kinds that hold bytes. -/
def isBinary (kind : Kind) : Bool := kind == byteArray || kind == arrayBuffer

end Kind

/-- A named piece of binary content. -/
structure File where
  name : String
  data : List UInt8
  mime : Option String
  deriving DecidableEq, Repr, Inhabited

/-- A value in one of the representations. -/
inductive Dish where
  | byteArray (bytes : List UInt8)
  | arrayBuffer (bytes : List UInt8)
  | string (text : String)
  | number (n : Int64)
  | bigNumber (value : Decimal)
  | json (value : Json)
  | listFile (files : List File)
  | html (markup : String)
  deriving Inhabited

namespace Dish

def kind : Dish → Kind
  | byteArray _ => .byteArray
  | arrayBuffer _ => .arrayBuffer
  | string _ => .string
  | number _ => .number
  | bigNumber _ => .bigNumber
  | json _ => .json
  | listFile _ => .listFile
  | html _ => .html

/-- The decimal text of an integer of 64 bits. -/
def integerText (n : Int64) : String := toString n.toInt

/-- The size of the content in bytes; JSON is measured in its compact form. -/
def size : Dish → Nat
  | byteArray bytes => bytes.length
  | arrayBuffer bytes => bytes.length
  | string text => (Text.utf8Encode text).length
  | number n => (integerText n).length
  | bigNumber value => value.chars.length
  | json value => (Text.utf8Encode value.compact).length
  | listFile files => (files.flatMap File.data).length
  | html markup => (Text.utf8Encode markup).length

end Dish
end Kitchen
