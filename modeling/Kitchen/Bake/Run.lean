import Kitchen.Bake.Plan
import Kitchen.Operation.Flow
import Kitchen.Text.Escape

/-!
# Runs

A run takes turns at the cursor of a state until the cursor leaves the scope, a breakpoint pauses it
or a step fails. A fork runs the steps of its section on every piece of the dish, each in a state of
its own. Jumps can keep a run going, so the number of turns is bounded from outside, and running out
of turns is told apart from every way of ending.
-/

namespace Kitchen

/-- How a run ends that does not fail. -/
inductive Status where
  | completed
  /-- The run stands before a breakpoint. -/
  | paused (step : Nat)
  deriving DecidableEq, Repr, Inhabited

/-- The end of a run over a section: its status or its failure, the state as it was left, and all
events so far. -/
structure SectionEnd where
  result : Except Failure Status
  state : State
  log : Log

/-- What is to be done at the cursor. -/
inductive Turn where
  | finish
  | cancel (step : Step)
  | skip
  | pause
  | dispatch (step : Step)
  deriving DecidableEq, Repr

/-- What is to be done at the cursor. A cancelled run does not even skip a step. A breakpoint counts
only behind the step from which the run started. -/
def State.turn (state : State) (steps : List Step) (control : Control) (startFrom : Nat)
    (log : Log) : Turn :=
  if state.scopeEnd ≤ state.progress then .finish
  else match steps[state.progress]? with
    | none => .finish
    | some step =>
      if control.isCancelled log then .cancel step
      else if step.disabled then .skip
      else if step.breakpoint && control.honourBreakpoints &&
          decide (startFrom < state.progress) then .pause
      else .dispatch step

/-- The state with the cursor on the next step. -/
def State.advance (state : State) : State := { state with progress := state.progress + 1 }

/-- The message with which a step is announced. -/
def announcement (step : Step) (index count : Nat) : String :=
  s!"Baking... {step.operation} ({index + 1}/{count})"

/-- The events when a step is dispatched. -/
def Context.announce (context : Context) (step : Step) (count : Nat) (log : Log) : Log :=
  let reported := context.report (announcement step context.step count) none log
  .dispatched context.step step.operation :: reported

/-! ## Transformations -/

/-- Runs a transformation on a dish: the input is turned into the kind that the operation takes, the
output into the kind that it gives, and a crash is contained. -/
def Operation.bake (operation : Operation) (context : Context) (args : List Argument) (dish : Dish)
    (log : Log) : Except Fault Dish × Log :=
  match dish.convert operation.descriptor.input with
  | .error error => (.error (.dish error), log)
  | .ok input =>
    match operation.transform context args input log with
    | (.error halt, log) => (.error halt.contained, log)
    | (.ok output, log) =>
      ((output.convert operation.descriptor.output).mapError .dish, log)

/-! ## Forks -/

/-- Runs branches on pieces of a dish one after another and collects their outputs. A failed branch
is left out if errors are ignored; otherwise, and if it was cancelled, it ends the fork. -/
def bakePieces (run : State → Log → Option SectionEnd) (control : Control) (ignoreErrors : Bool)
    (branch : String → State) : List String → Log → Option (Except Fault (List String) × Log)
  | [], log => some (.ok [], log)
  | piece :: rest, log =>
    if control.isCancelled log then some (.error .cancelled, log)
    else match run (branch piece) log with
      | none => none
      | some ⟨.ok _, baked, log⟩ =>
        match Flow.branchOutput baked.dish with
        | .error fault => some (.error fault, log)
        | .ok output =>
          (bakePieces run control ignoreErrors branch rest log).map fun (result, log) =>
            (result.map (output :: ·), log)
      | some ⟨.error failure, _, log⟩ =>
        if ignoreErrors && failure.kind != .cancelled then
          bakePieces run control ignoreErrors branch rest log
        else some (.error (.branch failure), log)

/-- The range of steps that a fork at the cursor runs on every piece: up to the next merge, or to
the end of the scope. -/
def State.forkSection (state : State) (steps : List Step) : Nat × Nat :=
  (state.progress + 1, (state.findMerge? steps state.progress).getD state.scopeEnd)

/-- Where a fork at the cursor leaves it: on its merge, or on the last step of the scope. -/
def State.afterFork (state : State) (steps : List Step) : Nat :=
  (state.findMerge? steps state.progress).getD (max (state.scopeEnd - 1) state.progress)

/-- The delimiter that an argument writes with escapes. -/
def delimiterOf (text : String) : Except Fault String :=
  (Text.unescape text).mapError fun fault => .invalid (fault.message text)

/-- The delimiters of a fork and the text that it splits. -/
def State.forkParts (state : State) (args : List Argument) :
    Except Fault (String × String × String) := do
  let split ← delimiterOf (textAt args 0)
  let join ← delimiterOf (textAt args 1)
  return (split, join, ← state.text)

/-- Runs a fork at the cursor. -/
def State.fork (state : State) (steps : List Step)
    (run : Control → State → Log → Option SectionEnd) (control : Control) (args : List Argument)
    (log : Log) : Option (Except Fault State × Log) :=
  match state.forkParts args with
  | .error fault => some (.error fault, log)
  | .ok (split, join, text) =>
    let (first, stop) := state.forkSection steps
    let branch (piece : String) := state.branch (.string piece) first stop
    let pieces := Flow.pieces text split
    (bakePieces (run control.forBranch) control (boolAt args 2) branch pieces log).map
      fun (result, log) =>
        (result.map fun outputs =>
          { state with
            dish := .string (join.intercalate outputs)
            progress := state.afterFork steps },
        log)

/-- Runs the flow-control step at the cursor. -/
def State.steer (state : State) (steps : List Step)
    (run : Control → State → Log → Option SectionEnd) (body : FlowBody) (control : Control)
    (args : List Argument) (log : Log) : Option (Except Fault State × Log) :=
  match body with
  | .act action => some (action steps args state, log)
  | .fork => state.fork steps run control args log

/-! ## The loop -/

/-- The step at which a run starts: a later start may be asked for. -/
def State.startFrom (state : State) (control : Control) : Nat :=
  max state.progress control.startFrom

def State.inPhase (state : State) (phase : Phase) : State := { state with phase }

/-- Takes at most `fuel` turns, none of them counted twice in nested runs; gives nothing when they
do not suffice. -/
def Plan.runFrom (plan : Plan) : Nat → Control → Nat → State → Log → Option SectionEnd
  | 0, _, _, _, _ => none
  | fuel + 1, control, startFrom, state, log =>
    match state.turn plan.steps control startFrom log with
    | .finish => some ⟨.ok .completed, state, log⟩
    | .cancel step => some ⟨.error (.cancelled state.progress step.operation), state, log⟩
    | .skip => plan.runFrom fuel control startFrom state.advance log
    | .pause => some ⟨.ok (.paused state.progress), state.inPhase .paused, log⟩
    | .dispatch step =>
      let operation := plan.registry.operation step.operation
      let args := state.registers.substituteArguments step.args
      let context : Context := ⟨state.progress, step.operation, control⟩
      let log := context.announce step plan.steps.length log
      let failure := Failure.ofFault state.progress step.operation
      if operation.descriptor.flowControl then
        let run := fun (control : Control) (branch : State) log =>
          plan.runFrom fuel control (branch.startFrom control) (branch.inPhase .running) log
        let state := state.inPhase .branching
        match state.steer plan.steps run operation.flow control args log with
        | none => none
        | some (.error fault, log) => some ⟨.error (failure fault), state, log⟩
        | some (.ok steered, log) =>
          plan.runFrom fuel control startFrom (steered.inPhase .running).advance log
      else
        match operation.bake context args state.dish log with
        | (.error fault, log) => some ⟨.error (failure fault), state, log⟩
        | (.ok dish, log) =>
          plan.runFrom fuel control startFrom { state.advance with dish } log

/-- Runs the scope of a state from its cursor. -/
def Plan.runSection (plan : Plan) (fuel : Nat) (control : Control) (state : State) (log : Log) :
    Option SectionEnd :=
  plan.runFrom fuel control (state.startFrom control) (state.inPhase .running) log

end Kitchen
