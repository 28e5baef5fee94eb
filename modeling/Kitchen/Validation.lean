import Kitchen.Operation.Flow
import Kitchen.Recipe.Basic
import Kitchen.Operation.Registry

/-!
# Validation

What is wrong with a recipe, and what may surprise: steps that do not fit the registry are errors,
jumps without a target, labels that repeat and forks and merges without a partner are warnings.
-/

namespace Kitchen

/-- What validation finds. -/
structure ValidationReport where
  errors : List String
  warnings : List String
  deriving DecidableEq, Repr, Inhabited

namespace ValidationReport

def empty : ValidationReport := ⟨[], []⟩

def error (message : String) : ValidationReport := ⟨[message], []⟩

def warning (message : String) : ValidationReport := ⟨[], [message]⟩

def append (a b : ValidationReport) : ValidationReport :=
  ⟨a.errors ++ b.errors, a.warnings ++ b.warnings⟩

instance : Append ValidationReport := ⟨append⟩

def join (reports : List ValidationReport) : ValidationReport :=
  ⟨reports.flatMap errors, reports.flatMap warnings⟩

def isOk (report : ValidationReport) : Bool := report.errors.isEmpty

end ValidationReport

open ValidationReport

/-! ## Steps -/

/-- The step at an index as messages name it, counted from one. -/
def stepTitle (index : Nat) (operation : String) : String := s!"Step {index + 1} ('{operation}')"

/-- What is wrong with a step by itself, if anything. -/
def Registry.stepError? (registry : Registry) (step : RecipeStep) : Option String :=
  match registry.resolve step.operation with
  | .error message => some message
  | .ok operation => match operation.descriptor.bind step.args with
    | .error error => some ("Invalid arguments: " ++ error.message)
    | .ok _ => none

/-- What is to be said about a step by itself. -/
def Registry.validateStep (registry : Registry) (index : Nat) (step : RecipeStep) :
    ValidationReport :=
  match registry.stepError? step with
  | some message => error (stepTitle index step.operation ++ ": " ++ message)
  | none =>
    if step.disabled && step.breakpoint then
      warning s!"Breakpoint on disabled step '{step.operation}' never pauses"
    else ValidationReport.empty

/-! ## Labels -/

/-- The name of the label that an enabled step marks. -/
def RecipeStep.label? (step : RecipeStep) : Option String :=
  if !step.disabled && step.operation == labelName then some (textAt step.args 0) else none

/-- The name of the label that an enabled step jumps to. -/
def RecipeStep.target? (step : RecipeStep) : Option String :=
  if step.disabled then none
  else if step.operation = Flow.jump.name then some (textAt step.args 0)
  else if step.operation = Flow.conditionalJump.name then some (textAt step.args 2)
  else none

/-- The labels of steps that repeat an earlier one. `known` holds the earlier ones with their
indices. -/
def validateLabels : Nat → List (String × Nat) → List RecipeStep → ValidationReport
  | _, _, [] => empty
  | index, known, step :: rest =>
    match step.label? with
    | none => validateLabels (index + 1) known rest
    | some name => match known.lookup name with
      | none => validateLabels (index + 1) ((name, index) :: known) rest
      | some first =>
        let repeats := s!"Label '{name}' at step {index + 1} repeats step {first + 1}; "
        warning (repeats ++ "jumps resolve to the first") ++ validateLabels (index + 1) known rest

def contains (text part : String) : Bool :=
  (Text.cut? (· == ·) part.toList text.toList).isSome

/-- What is to be said about the target of a step: none of the known labels has its name. Targets
that registers are put into are not known before the bake. -/
def validateTarget (labels : List String) (index : Nat) (step : RecipeStep) : ValidationReport :=
  match step.target? with
  | none => empty
  | some target =>
    if contains target "$R" || labels.contains target then empty
    else
      warning (stepTitle index step.operation ++
        s!" targets missing label '{target}' and will fall through")

/-! ## Forks -/

/-- Merges without a fork, and at the end the first fork that is still open. -/
def validateForks : Nat → Option Nat → List RecipeStep → ValidationReport
  | _, none, [] => empty
  | _, some first, [] =>
    warning s!"Fork at step {first + 1} has no Merge; it runs to the end of the recipe"
  | index, opened, step :: rest =>
    if step.disabled then validateForks (index + 1) opened rest
    else if step.operation = Flow.fork.name then
      validateForks (index + 1) (some (opened.getD index)) rest
    else if step.operation = mergeName then
      match opened with
      | some _ => validateForks (index + 1) none rest
      | none =>
        warning s!"Merge at step {index + 1} has no open Fork" ++
          validateForks (index + 1) none rest
    else validateForks (index + 1) opened rest

/-! ## Recipes -/

/-- What is to be said about the version. -/
def validateVersion (version : Nat) : ValidationReport :=
  if version ≠ Recipe.currentVersion then error (Recipe.versionMessage version) else empty

/-- What is to be said about a recipe without steps. -/
def validateLength (steps : List RecipeStep) : ValidationReport :=
  if steps.isEmpty then warning "Recipe has no steps; baking returns the input unchanged" else empty

def Registry.validate (registry : Registry) (recipe : Recipe) : ValidationReport :=
  let steps := recipe.steps
  let labels := steps.filterMap RecipeStep.label?
  validateVersion recipe.version ++ validateLength steps ++
    ValidationReport.join (steps.mapIdx registry.validateStep) ++
    validateLabels 0 [] steps ++ ValidationReport.join (steps.mapIdx (validateTarget labels)) ++
    validateForks 0 none steps

end Kitchen
