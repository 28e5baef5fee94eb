import Kitchen.Bake.Plan

/-!
# Highlights

Following byte ranges of the input through the steps of a recipe to the output, or back. A step
without a map, and every flow-control step, has no answer.
-/

namespace Kitchen

/-- Which way ranges are followed. -/
inductive Direction where
  | forward
  | backward
  deriving DecidableEq, Repr

/-- The map of an operation in a direction. -/
def Operation.rangeMap? (operation : Operation) : Direction → Option RangeMap
  | .forward => operation.forward
  | .backward => operation.backward

namespace Plan

def mapByStep? (plan : Plan) (direction : Direction) (ranges : List ByteRange) (step : Step) :
    Option (List ByteRange) :=
  let operation := plan.registry.operation step.operation
  if operation.descriptor.flowControl then none
  else (operation.rangeMap? direction).map fun map => map step.args ranges

/-- The enabled steps in the order in which ranges pass them. -/
def passed (plan : Plan) (direction : Direction) : List Step :=
  let enabled := plan.steps.filter fun step => !step.disabled
  match direction with
  | .forward => enabled
  | .backward => enabled.reverse

/-- Maps ranges by all enabled steps. -/
def mapRanges? (plan : Plan) (direction : Direction) (ranges : List ByteRange) :
    Option (List ByteRange) :=
  (plan.passed direction).foldlM (plan.mapByStep? direction) ranges

end Plan

def Registry.highlight (registry : Registry) (recipe : Recipe) (direction : Direction)
    (ranges : List ByteRange) : Except Failure (Option (List ByteRange)) :=
  (registry.prepare recipe).map fun plan => plan.mapRanges? direction ranges

end Kitchen
