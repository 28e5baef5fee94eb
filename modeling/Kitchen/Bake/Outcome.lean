import Kitchen.Bake.Run

/-!
# Bakes

A bake runs a whole plan on a dish and serves the result in the kind that the recipe asks for. A
bake that stopped at a breakpoint can be resumed.
-/

namespace Kitchen

/-- What a bake that did not fail has come to. -/
structure Outcome where
  dish : Dish
  status : Status
  progress : Nat
  registers : Registers
  /-- The jumps that count against the loop in which the bake stands. -/
  jumpsTaken : Nat
  deriving Inhabited

/-- The outcome of a finished bake. -/
def Outcome.isComplete (outcome : Outcome) : Bool := outcome.status == .completed

abbrev Result := Except Failure Outcome

/-- A call for a bake, with all events of it. -/
structure Attempt where
  result : Result
  log : Log
  /-- Whether its end is counted: a call that runs nothing is not. -/
  counted : Bool

namespace Options

/-- Turns the dish of a completed bake into the kind that is asked for. -/
def serve (options : Options) (status : Status) (state : State) : Except Failure Dish :=
  match options.outputKind with
  | none => .ok state.dish
  | some kind =>
    if status ≠ .completed then .ok state.dish
    else (state.dish.convert kind).mapError fun error =>
      .plain state.progress "output" .dishConversion error.message

end Options

/-- The failure of a bake, with the dish as it stood. A cancelled bake gives none. -/
def Failure.ofBake (failure : Failure) (dish : Dish) : Failure :=
  if failure.kind = .cancelled then failure else failure.withDish dish

/-- What the end of the run comes to under the options. -/
def SectionEnd.toResult (options : Options) (finished : SectionEnd) : Result :=
  let state := finished.state
  match finished.result with
  | .error failure => .error (failure.ofBake state.dish)
  | .ok status =>
    match options.serve status state with
    | .error failure => .error (failure.ofBake state.dish)
    | .ok dish => .ok ⟨dish, status, state.progress, state.registers, state.jumpsTaken⟩

namespace Plan

/-- The control under the options of the plan. -/
def control (plan : Plan) (control : Control) : Control :=
  if plan.options.ignoreBreakpoints then control.ignoringBreakpoints else control

/-- Runs the plan from a state. -/
def complete (plan : Plan) (fuel : Nat) (state : State) (control : Control) : Option Attempt :=
  (plan.runSection fuel (plan.control control) state []).map fun finished =>
    ⟨finished.toResult plan.options, finished.log, true⟩

/-- The state in which a bake of an input starts. -/
def initial (plan : Plan) (input : Dish) (control : Control) : State :=
  { State.start plan.steps.length input with progress := min control.startFrom plan.steps.length }

def bake (plan : Plan) (fuel : Nat) (input : Dish) (control : Control) : Option Attempt :=
  plan.complete fuel (plan.initial input control) control

/-- The state in which a paused bake goes on from a step. -/
def resumed (plan : Plan) (step : Nat) (paused : Outcome) : State :=
  { State.start plan.steps.length paused.dish with
    progress := min step plan.steps.length
    registers := paused.registers
    jumpsTaken := paused.jumpsTaken }

end Plan

namespace Registry

/-- Bakes an input by a recipe. -/
def bake (registry : Registry) (fuel : Nat) (recipe : Recipe) (input : Dish) (control : Control) :
    Option Attempt :=
  match registry.prepare recipe with
  | .error failure => some ⟨.error failure, [], true⟩
  | .ok plan => plan.bake fuel input control

/-- Goes on with a bake that stopped at a breakpoint; any other outcome stays as it is. A recipe
that does not fit fails before anything is counted. -/
def resume (registry : Registry) (fuel : Nat) (recipe : Recipe) (paused : Outcome)
    (control : Control) : Option Attempt :=
  match paused.status with
  | .completed => some ⟨.ok paused, [], false⟩
  | .paused step =>
    match registry.prepare recipe with
    | .error failure => some ⟨.error failure, [], false⟩
    | .ok plan => plan.complete fuel (plan.resumed step paused) { control with startFrom := step }

end Registry
end Kitchen
