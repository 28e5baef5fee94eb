import Kitchen.Argument.Value
import Kitchen.Dish.Basic
import Kitchen.Number.Power

/-!
# Recipes

A recipe lists operations with their arguments, and says what the bake as a whole should do.
-/

namespace Kitchen

/-- A step as the recipe lists it, its arguments not yet bound. -/
structure RecipeStep where
  operation : String
  args : List Argument
  disabled : Bool
  breakpoint : Bool
  deriving DecidableEq, Repr, Inhabited

/-- What the bake as a whole should do. -/
structure Options where
  /-- The kind that the finished dish is turned into. -/
  outputKind : Option Kind
  ignoreBreakpoints : Bool
  deriving DecidableEq, Repr, Inhabited

/-- No kind is asked for, and breakpoints count. -/
def Options.default : Options := ⟨none, false⟩

/-- A recipe. -/
structure Recipe where
  version : Nat
  steps : List RecipeStep
  options : Options
  deriving DecidableEq, Repr, Inhabited

namespace Recipe

/-- The version that bakes support. -/
def currentVersion : Nat := 1

/-- Versions are numbers of 32 bits. -/
def versionBound : Nat := twoTo 32

def empty : Recipe := ⟨currentVersion, [], .default⟩

/-- The message for a version that bakes do not support. -/
def versionMessage (version : Nat) : String := s!"Unsupported recipe version: {version}"

end Recipe
end Kitchen
