import Kitchen.Number.Power
import Kitchen.Recipe.Basic
import Kitchen.Yaml.Resolution

/-!
# Recipes as documents

A record is read from a mapping, whose other entries are ignored, or from nothing at all. Fields
that are left out take their defaults; a field that is there must have its shape, and none may be
there twice. The values of arguments are told apart by what their scalars stand for, all other
scalars by their place.
-/

namespace Kitchen.Yaml.Node

/-! ## Scalars of a known kind -/

/-- A scalar is the empty plain one. -/
def isBlank : Node → Bool
  | scalar _ .plain text => text.isEmpty
  | _ => false

def asText? : Node → Option String
  | scalar _ _ text => some text
  | _ => none

/-- The text of a scalar that is plain, or a literal block with the tag of its kind. -/
def valueText? (kind : String) : Node → Option String
  | scalar _ .plain text => some text
  | scalar tag .literal text => if tag = some (coreTag kind) then some text else none
  | _ => none

def asBool? (node : Node) : Option Bool := (node.valueText? "bool").bind bool?

def asNatural? (node : Node) : Option Nat := (node.valueText? "int").bind (natural? ·.toList)

/-- Reads every item of a sequence; nothing counts as an empty sequence. -/
def asList? (read : Node → Option α) : Node → Option (List α)
  | sequence _ items => items.mapM read
  | node => if node.isBlank then some [] else none

/-! ## Records -/

/-- Keeps the value of a field that had none yet. -/
def addField (field : String) (value : Node) (fields : List (String × Node)) :
    Option (List (String × Node)) :=
  if (fields.lookup field).isSome then none else some ((field, value) :: fields)

/-- The fields among the entries of a mapping, where no field may come twice and every key must be a
scalar. -/
def knownEntries (names : List String) :
    List (Node × Node) → List (String × Node) → Option (List (String × Node))
  | [], fields => some fields
  | (key, value) :: rest, fields => do
    let name ← key.asText?
    let fields ← if names.contains name then addField name value fields else some fields
    knownEntries names rest fields

/-- The fields of a record, in order. -/
def fields? (names : List String) (node : Node) : Option (List (Option Node)) :=
  match node with
  | mapping _ entries =>
    (knownEntries names entries []).map fun fields => names.map fun name => fields.lookup name
  | node => if node.isBlank then some (names.map fun _ => none) else none

/-- Reads a field; the default stands for a field that is left out. -/
def read? (default : α) (read : Node → Option α) : Option Node → Option α
  | none => some default
  | some value => read value

/-! ## Values that show their own kind -/

/-- Numbers that a value may be. -/
def isStorable (n : Int) : Bool := -(twoTo 63 : Int) ≤ n && decide (n < twoTo 64)

/-- The meaning of a scalar that is a value: it has no tag of the document's own and, if it is an
integer, 64 bits hold it. -/
def value? (tag : Option String) (style : Style) (text : String) : Option Meaning :=
  if (localTag? tag).isSome then none
  else match meaning? tag style text with
    | some (.integer n) => if isStorable n then some (.integer n) else none
    | found => found

mutual

/-- A node holds values only, to a depth. -/
def isReadable (depth : Nat) : Node → Bool
  | scalar tag style text => (value? tag style text).isSome
  | sequence tag items => (localTag? tag).isNone && 0 < depth && areReadable (depth - 1) items
  | mapping tag entries =>
    (localTag? tag).isNone && 0 < depth && entriesReadable (depth - 1) entries
  | cycle => false

/-- Nodes hold values only. -/
def areReadable (depth : Nat) : List Node → Bool
  | [] => true
  | item :: rest => isReadable depth item && areReadable depth rest

/-- Keys and values hold values only. -/
def entriesReadable (depth : Nat) : List (Node × Node) → Bool
  | [] => true
  | (key, value) :: rest =>
    isReadable depth key && isReadable depth value && entriesReadable depth rest

end

/-- The text of a value that is text. -/
def valueString? : Node → Option String
  | scalar tag style text => if value? tag style text = some .text then some text else none
  | _ => none

/-- The name that a key among names stands for: its own text, or the name at the position that it
writes. Nothing if it is no key for a record, the empty text if it is none of the names. -/
def fieldName? (names : List String) : Node → Option String
  | scalar tag style text =>
    match value? tag style text with
    | some Meaning.text => some (if names.contains text then text else "")
    | some (.integer n) => if 0 ≤ n then some (names.getD n.toNat "") else none
    | _ => none
  | _ => none

/-- The fields among the entries of a value. -/
def valueEntries (names : List String) :
    List (Node × Node) → List (String × Node) → Option (List (String × Node))
  | [], fields => some fields
  | (key, value) :: rest, fields => do
    let name ← fieldName? names key
    let fields ← if name.isEmpty then some fields else addField name value fields
    valueEntries names rest fields

end Kitchen.Yaml.Node

namespace Kitchen

open Yaml

/-- Collections of a document nest to this depth. -/
def Recipe.nestingBound : Nat := 128

/-- Collections around the value of an argument. -/
def Argument.nesting : Nat := 4

/-- A version: a natural number of 32 bits. -/
def Recipe.versionOfNode? (node : Node) : Option Nat :=
  node.asNatural?.filter fun n => n < versionBound

/-- The value of an argument. A mapping must hold a text and a choice. -/
def Argument.ofNode? (node : Node) : Option Argument :=
  match node with
  | .scalar tag style word =>
    match Node.value? tag style word with
    | some (.bool b) => some (.bool b)
    | some (.integer n) => some (.number (.ofInt n))
    | some (.float x) => some (.number x)
    | some Meaning.text => some (.text word)
    | _ => none
  | .mapping _ entries => do
    if !node.isReadable (Recipe.nestingBound - nesting) then none
    let fields ← Node.valueEntries ["string", "option"] entries []
    let s ← (← fields.lookup "string").valueString?
    let option ← (← fields.lookup "option").valueString?
    return .toggle s option
  | _ => none

/-- A kind: its name, or its name as the tag of nothing. -/
def Kind.ofNode? : Node → Option Kind
  | .scalar tag style text =>
    match localTag? tag with
    | some name =>
      if style = .plain && (text.isEmpty || isNull text) then ofName? name else none
    | none => ofName? text
  | _ => none

/-- The kind of the output, which may be null. -/
def Options.outputKindOfNode? (node : Node) : Option (Option Kind) :=
  match node with
  | .scalar none .plain text =>
    if text.isEmpty || isNull text then some none else (Kind.ofNode? node).map some
  | .scalar (some tag) .plain text =>
    if tag = coreTag "null" then (if isNull text then some none else none)
    else (Kind.ofNode? node).map some
  | node => (Kind.ofNode? node).map some

/-- A step. It must name its operation. -/
def RecipeStep.ofNode? (node : Node) : Option RecipeStep := do
  match ← node.fields? ["op", "args", "disabled", "breakpoint"] with
  | [operation, args, disabled, breakpoint] =>
    let operation ← (← operation).asText?
    let args ← Node.read? [] (·.asList? Argument.ofNode?) args
    let disabled ← Node.read? false Node.asBool? disabled
    let breakpoint ← Node.read? false Node.asBool? breakpoint
    return ⟨operation, args, disabled, breakpoint⟩
  | _ => none

def Options.ofNode? (node : Node) : Option Options := do
  match ← node.fields? ["output_type", "ignore_breakpoints"] with
  | [outputKind, ignoreBreakpoints] =>
    let outputKind ← Node.read? none Options.outputKindOfNode? outputKind
    let ignoreBreakpoints ← Node.read? false Node.asBool? ignoreBreakpoints
    return ⟨outputKind, ignoreBreakpoints⟩
  | _ => none

namespace Recipe

/-- A recipe. -/
def ofNode? (node : Node) : Option Recipe := do
  match ← node.fields? ["version", "steps", "options"] with
  | [version, steps, options] =>
    let version ← Node.read? currentVersion versionOfNode? version
    let steps ← Node.read? [] (·.asList? RecipeStep.ofNode?) steps
    let options ← Node.read? .default Options.ofNode? options
    return ⟨version, steps, options⟩
  | _ => none

/-- The recipe that a text writes. A text without a document is the empty recipe. -/
def ofText? (text : String) : Option Recipe :=
  match Node.ofText? text with
  | some (some node) => ofNode? node
  | some none => some empty
  | none => none

end Recipe
end Kitchen
