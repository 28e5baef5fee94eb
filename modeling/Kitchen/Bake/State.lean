import Kitchen.Bake.Failure
import Kitchen.Registers

/-!
# The state of a bake

What a bake carries from step to step: the cursor, the dish, the registers and the jumps taken,
within the range of steps that it may execute. A branch of a fork has a state of its own.
-/

namespace Kitchen

/-- A step of a prepared recipe: the name of its operation and its bound arguments. -/
structure Step where
  index : Nat
  operation : String
  args : List Argument
  disabled : Bool
  breakpoint : Bool
  deriving DecidableEq, Repr, Inhabited

/-- Where a bake stands. -/
inductive Phase where
  | running
  /-- Inside a flow-control step. -/
  | branching
  | paused
  | completed
  | failed
  deriving DecidableEq, Repr, Inhabited

def Phase.label : Phase → String
  | running => "running"
  | branching => "branching"
  | paused => "paused"
  | completed => "completed"
  | failed => "failed"

/-- What a bake carries from step to step. -/
structure State where
  /-- The step to run next. -/
  progress : Nat
  dish : Dish
  jumpsTaken : Nat
  registers : Registers
  /-- The steps that may be executed: from the first to before the last. -/
  scopeStart : Nat
  scopeEnd : Nat
  phase : Phase
  deriving Inhabited

/-- The name of the operation that marks a target of jumps. -/
def labelName : String := "Label"

/-- The name of the operation that ends the section of a fork. -/
def mergeName : String := "Merge"

/-- An enabled label of a name. -/
def Step.isLabel (step : Step) (name : String) : Bool :=
  !step.disabled && step.operation == labelName &&
    step.args.head?.bind Argument.asText? == some name

def Step.isMerge (step : Step) : Bool := !step.disabled && step.operation == mergeName

/-- The first index from `start` below `stop` whose step passes a test. -/
def findStep? (steps : List Step) (test : Step → Bool) (start stop : Nat) : Option Nat :=
  (List.range' start (stop - start)).find? fun i => (steps[i]?).any test

namespace State

/-- A state at the first of some steps. -/
def start (steps : Nat) (dish : Dish) : State :=
  ⟨0, dish, 0, .empty, 0, steps, .running⟩

/-- The first label of a name in the scope. -/
def findLabel? (state : State) (steps : List Step) (name : String) : Option Nat :=
  findStep? steps (·.isLabel name) state.scopeStart state.scopeEnd

/-- The first merge in the scope after an index. -/
def findMerge? (state : State) (steps : List Step) (after : Nat) : Option Nat :=
  findStep? steps Step.isMerge (after + 1) state.scopeEnd

/-- The state of a branch over a range of steps: the registers are copied, the jumps start anew. -/
def branch (state : State) (dish : Dish) (first stop : Nat) : State :=
  ⟨first, dish, 0, state.registers, first, stop, .running⟩

/-- The dish as text for a flow-control step; a dish that has none is a defect. -/
def text (state : State) : Except Fault String :=
  match state.dish.convert .string with
  | .ok (.string text) => .ok text
  | .ok other => .error (.broken s!"expected text, got {other.kind.label}")
  | .error error => .error (.broken s!"flow-control input is not text: {error.message}")

end State
end Kitchen
