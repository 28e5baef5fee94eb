import Kitchen.Json.Value
import Kitchen.Recipe.Basic

/-!
# Recipes as JSON documents

A record is read from an object, whose other members are ignored, or from an array of its fields in
order. Fields that are left out take their defaults; a field that is there must have its shape, and
only the kind of the output may be null.
-/

namespace Kitchen

/-- The number as a binary64 number. -/
def JsonNumber.toBinary : JsonNumber → Binary64
  | whole n => .ofInt n
  | binary x => x

namespace Json

/-- The fields of a record, in order: members of an object, or items of an array that is not
longer. -/
def fields? (names : List String) : Json → Option (List (Option Json))
  | object members => some (names.map fun name => members.lookup name)
  | array items =>
    if items.length ≤ names.length then
      some ((List.range names.length).map fun i => items[i]?)
    else none
  | _ => none

def asBool? : Json → Option Bool
  | bool b => some b
  | _ => none

def asText? : Json → Option String
  | string text => some text
  | _ => none

/-- Reads every item of an array. -/
def asList? (read : Json → Option α) : Json → Option (List α)
  | array items => items.mapM read
  | _ => none

/-- Reads a field; the default stands for a field that is left out. -/
def read? (default : α) (read : Json → Option α) : Option Json → Option α
  | none => some default
  | some value => read value

end Json

/-- A version: a whole number of 32 bits. -/
def Recipe.version? : Json → Option Nat
  | .number (.whole n) => if 0 ≤ n && decide (n < versionBound) then some n.toNat else none
  | _ => none

/-- The value of an argument. An object must hold a text and a choice. -/
def Argument.ofJson? : Json → Option Argument
  | .bool b => some (.bool b)
  | .number n => some (.number n.toBinary)
  | .string s => some (.text s)
  | .object members => do
    let s ← (← members.lookup "string").asText?
    let option ← (← members.lookup "option").asText?
    return .toggle s option
  | _ => none

/-- A kind: its name, or an object whose only member has that name and is null. -/
def Kind.ofJson? : Json → Option Kind
  | .string name => ofName? name
  | .object [(name, .null)] => ofName? name
  | _ => none

/-- The kind of the output, which may be null. -/
def Options.outputKind? : Json → Option (Option Kind)
  | .null => some none
  | value => (Kind.ofJson? value).map some

/-- A step. It must name its operation. -/
def RecipeStep.ofJson? (document : Json) : Option RecipeStep := do
  match ← document.fields? ["op", "args", "disabled", "breakpoint"] with
  | [operation, args, disabled, breakpoint] =>
    let operation ← (← operation).asText?
    let args ← Json.read? [] (·.asList? Argument.ofJson?) args
    let disabled ← Json.read? false Json.asBool? disabled
    let breakpoint ← Json.read? false Json.asBool? breakpoint
    return ⟨operation, args, disabled, breakpoint⟩
  | _ => none

def Options.ofJson? (document : Json) : Option Options := do
  match ← document.fields? ["output_type", "ignore_breakpoints"] with
  | [outputKind, ignoreBreakpoints] =>
    let outputKind ← Json.read? none Options.outputKind? outputKind
    let ignoreBreakpoints ← Json.read? false Json.asBool? ignoreBreakpoints
    return ⟨outputKind, ignoreBreakpoints⟩
  | _ => none

/-- A recipe. -/
def Recipe.ofJson? (document : Json) : Option Recipe := do
  match ← document.fields? ["version", "steps", "options"] with
  | [version, steps, options] =>
    let version ← Json.read? currentVersion Recipe.version? version
    let steps ← Json.read? [] (·.asList? RecipeStep.ofJson?) steps
    let options ← Json.read? .default Options.ofJson? options
    return ⟨version, steps, options⟩
  | _ => none

end Kitchen
