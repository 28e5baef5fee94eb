import Kitchen.Bake.Failure
import Kitchen.Operation.Registry
import Kitchen.Recipe.Basic

/-!
# Plans

A recipe made ready for baking: every operation is known and every argument list is bound. Nothing
runs unless the whole recipe fits.
-/

namespace Kitchen

/-- A recipe made ready for baking. -/
structure Plan where
  registry : Registry
  steps : List Step
  options : Options

/-- The operation that a name stands for where it is unknown: it has no body. -/
def Registry.bodiless (name : String) : Operation :=
  .ofTransform (.plain name .string .string) (Operation.noTransform name)

def Registry.operation (registry : Registry) (name : String) : Operation :=
  (registry.get? name).getD (bodiless name)

/-- Makes the step at an index ready. -/
def Registry.prepareStep (registry : Registry) (index : Nat) (step : RecipeStep) :
    Except Failure Step :=
  match registry.resolve step.operation with
  | .error message => .error (.configuration index step.operation message)
  | .ok operation =>
    match operation.descriptor.bind step.args with
    | .error error => .error (.configuration index step.operation error.message)
    | .ok args => .ok ⟨index, step.operation, args, step.disabled, step.breakpoint⟩

/-- Makes steps from an index on ready. The first step that does not fit is reported. -/
def Registry.prepareSteps (registry : Registry) : Nat → List RecipeStep → Except Failure (List Step)
  | _, [] => .ok []
  | index, step :: rest => do
    let first ← registry.prepareStep index step
    return first :: (← registry.prepareSteps (index + 1) rest)

def Registry.prepare (registry : Registry) (recipe : Recipe) : Except Failure Plan :=
  if recipe.version ≠ Recipe.currentVersion then
    .error (.configuration 0 "recipe" (Recipe.versionMessage recipe.version))
  else (registry.prepareSteps 0 recipe.steps).map fun steps => ⟨registry, steps, recipe.options⟩

end Kitchen
