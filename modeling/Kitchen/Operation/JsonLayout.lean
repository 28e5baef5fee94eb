import Kitchen.Operation.Basic

/-!
# Layout of JSON

Writing JSON with line breaks and a chosen indentation, or without any blanks.
-/

namespace Kitchen.JsonLayout

/-- Writes the input with line breaks. -/
def beautify (args : List Argument) (input : Dish) : Except Fault Dish := do
  let value ← input.asJson.mapError .dish
  return .string (value.pretty (textAt args 0))

def minify (_ : List Argument) (input : Dish) : Except Fault Dish := do
  let value ← input.asJson.mapError .dish
  return .string value.compact

def beautifier : Operation :=
  .ofFunction
    { Descriptor.plain "JSON Beautify" .json .string with
      description := "Pretty-prints JSON, keeping key order."
      parameters := [.string "Indent string" "    "] }
    beautify

def minifier : Operation :=
  .ofFunction
    { Descriptor.plain "JSON Minify" .json .string with
      description := "Removes all insignificant whitespace from JSON." }
    minify

end Kitchen.JsonLayout
