import Kitchen.Recipe.Basic
import Kitchen.Yaml.Printer

/-!
# Writing recipes

A recipe as a document. Flags of a step are written only if they are set, and so is the kind of the
output.
-/

namespace Kitchen

open Yaml

def Yaml.Node.record (fields : List (String × Node)) : Node :=
  .mapping none (fields.map fun (name, value) => (.plain name, value))

def Argument.toNode : Argument → Node
  | bool b => .ofBool b
  | number x => .ofFloat x
  | text s => .ofString s
  | toggle s option => .record [("string", .ofString s), ("option", .ofString option)]

def RecipeStep.toNode (step : RecipeStep) : Node :=
  .record <|
    [("op", .ofString step.operation), ("args", .sequence none (step.args.map Argument.toNode))] ++
    (if step.disabled then [("disabled", .ofBool true)] else []) ++
    (if step.breakpoint then [("breakpoint", .ofBool true)] else [])

def Options.toNode (options : Options) : Node :=
  .record <|
    (match options.outputKind with
      | some kind => [("output_type", .ofString kind.label)]
      | none => []) ++
    [("ignore_breakpoints", .ofBool options.ignoreBreakpoints)]

/-- A recipe. -/
def Recipe.toNode (recipe : Recipe) : Node :=
  .record [("version", .ofNat recipe.version),
    ("steps", .sequence none (recipe.steps.map RecipeStep.toNode)),
    ("options", recipe.options.toNode)]

def Recipe.toText (recipe : Recipe) : String := recipe.toNode.print

end Kitchen
