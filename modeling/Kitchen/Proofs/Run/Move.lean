import Kitchen.Bake.Run
import Kitchen.Proofs.Operation.Steering

/-!
# Moves

One turn of a run, with the branches of a fork left out. Whatever a turn does without branches is a
function of the state and the events; a run is the repetition of such moves, and of forks whose
branches are runs themselves.
-/

namespace Kitchen

/-- What a fork makes of a dish: the pieces, the text between their outputs, and whether failed
branches are left out. -/
structure Split where
  pieces : List String
  join : String
  ignoreErrors : Bool

/-- What a turn comes to. A fork still has its branches to run. -/
inductive Move where
  | stop (finished : SectionEnd)
  | go (state : State) (log : Log)
  | fork (step : Step) (split : Split) (log : Log)

namespace State

/-- The state of the branch that a fork at the cursor starts on a piece. -/
def branchOn (state : State) (steps : List Step) (piece : String) : State :=
  state.branch (.string piece) (state.forkSection steps).1 (state.forkSection steps).2

/-- The state behind a fork at the cursor whose branches gave some outputs. -/
def joined (state : State) (steps : List Step) (split : Split) (outputs : List String) : State :=
  { state with
    dish := .string (split.join.intercalate outputs)
    progress := state.afterFork steps + 1
    phase := .running }

/-- The end of a run by a fault in the step at the cursor. -/
def fault (state : State) (step : Step) (fault : Fault) (log : Log) : SectionEnd :=
  ⟨.error (.ofFault state.progress step.operation fault), state, log⟩

/-- The arguments of a step, with the registers put in. -/
def argsFor (state : State) (step : Step) : List Argument :=
  state.registers.substituteArguments step.args

end State

namespace Plan

/-- What a step at the cursor may see of the bake. -/
def context (control : Control) (step : Step) (state : State) : Context :=
  ⟨state.progress, step.operation, control⟩

/-- The events when a step at the cursor is dispatched. -/
def announced (plan : Plan) (control : Control) (step : Step) (state : State) (log : Log) : Log :=
  (context control step state).announce step plan.steps.length log

/-- The move of a step that is dispatched at the cursor. -/
def dispatch (plan : Plan) (control : Control) (step : Step) (state : State) (log : Log) : Move :=
  let operation := plan.registry.operation step.operation
  let log := plan.announced control step state log
  if operation.descriptor.flowControl then
    let state := state.inPhase .branching
    match operation.flow with
    | .act action =>
      match action plan.steps (state.argsFor step) state with
      | .error fault => .stop (state.fault step fault log)
      | .ok steered => .go (steered.inPhase .running).advance log
    | .fork =>
      match state.forkParts (state.argsFor step) with
      | .error fault => .stop (state.fault step fault log)
      | .ok (split, join, text) =>
        .fork step ⟨Flow.pieces text split, join, boolAt (state.argsFor step) 2⟩ log
  else
    match operation.bake (context control step state) (state.argsFor step) state.dish log with
    | (.error fault, log) => .stop (state.fault step fault log)
    | (.ok dish, log) => .go { state.advance with dish } log

section Dispatch

variable {plan : Plan} {step : Step} (control : Control) (state : State) (log : Log)

theorem dispatch_act (hf : (plan.registry.operation step.operation).descriptor.flowControl = true)
    {action : List Step → List Argument → State → Except Fault State}
    (ha : (plan.registry.operation step.operation).flow = .act action) :
    plan.dispatch control step state log =
      match action plan.steps (state.argsFor step) (state.inPhase .branching) with
      | .error fault =>
        .stop ((state.inPhase .branching).fault step fault (plan.announced control step state log))
      | .ok steered =>
        .go (steered.inPhase .running).advance (plan.announced control step state log) := by
  rw [dispatch, if_pos hf, ha]
  rfl

/-- A step with the name of a built-in operation that acts on the state runs its action. -/
theorem dispatch_action (hr : plan.registry = .builtIn) {operation : Operation}
    (hmem : operation ∈ Flow.operations) (hname : step.operation = operation.name)
    {action : FlowAction} (hact : operation.flow = .act action) :
    plan.dispatch control step state log =
      match action plan.steps (state.argsFor step) (state.inPhase .branching) with
      | .error fault =>
        .stop ((state.inPhase .branching).fault step fault (plan.announced control step state log))
      | .ok steered =>
        .go (steered.inPhase .running).advance (plan.announced control step state log) := by
  have hop := Plan.operation_eq hr (List.mem_append_left _ hmem) hname
  have hflow := (Flow.mem_operations_cases hmem).1
  rw [← hop] at hflow hact
  exact dispatch_act control state log hflow hact

theorem dispatch_fork (hf : (plan.registry.operation step.operation).descriptor.flowControl = true)
    (ha : (plan.registry.operation step.operation).flow = .fork) :
    plan.dispatch control step state log =
      match state.forkParts (state.argsFor step) with
      | .error fault =>
        .stop ((state.inPhase .branching).fault step fault (plan.announced control step state log))
      | .ok (split, join, text) =>
        .fork step ⟨Flow.pieces text split, join, boolAt (state.argsFor step) 2⟩
          (plan.announced control step state log) := by
  rw [dispatch, if_pos hf, ha]
  rfl

theorem dispatch_transform
    (hf : (plan.registry.operation step.operation).descriptor.flowControl = false) :
    plan.dispatch control step state log =
      match (plan.registry.operation step.operation).bake (context control step state)
        (state.argsFor step) state.dish (plan.announced control step state log) with
      | (.error fault, log) => .stop (state.fault step fault log)
      | (.ok dish, log) => .go { state.advance with dish } log := by
  rw [dispatch, hf]
  rfl

end Dispatch

/-- The move at the cursor. -/
def move (plan : Plan) (control : Control) (startFrom : Nat) (state : State) (log : Log) : Move :=
  match state.turn plan.steps control startFrom log with
  | .finish => .stop ⟨.ok .completed, state, log⟩
  | .cancel step => .stop ⟨.error (.cancelled state.progress step.operation), state, log⟩
  | .skip => .go state.advance log
  | .pause => .stop ⟨.ok (.paused state.progress), state.inPhase .paused, log⟩
  | .dispatch step => plan.dispatch control step state log

/-- What a fork comes to once its branches have run. -/
def afterBranches (plan : Plan) (fuel : Nat) (control : Control) (startFrom : Nat) (state : State)
    (step : Step) (split : Split) : Except Fault (List String) × Log → Option SectionEnd
  | (.error fault, log) => some ((state.inPhase .branching).fault step fault log)
  | (.ok outputs, log) =>
    plan.runFrom fuel control startFrom (state.joined plan.steps split outputs) log

private theorem fork_eq_map {state : State} {args : List Argument} {split join text : String}
    (hparts : state.forkParts args = .ok (split, join, text)) (steps : List Step)
    (run : Control → State → Log → Option SectionEnd) (control : Control) (log : Log) :
    (state.inPhase .branching).fork steps run control args log =
      (bakePieces (run control.forBranch) control (boolAt args 2) (state.branchOn steps)
        (Flow.pieces text split) log).map fun (result, log) =>
          (result.map fun outputs =>
            { state with
              dish := .string (join.intercalate outputs)
              progress := state.afterFork steps
              phase := .branching },
          log) := by
  have hparts' : (state.inPhase .branching).forkParts args = .ok (split, join, text) := hparts
  rw [State.fork, hparts']
  rfl

/-- A turn is its move, and for a fork the runs of the branches. -/
theorem runFrom_succ (plan : Plan) (fuel : Nat) (control : Control) (startFrom : Nat)
    (state : State) (log : Log) :
    plan.runFrom (fuel + 1) control startFrom state log =
      match plan.move control startFrom state log with
      | .stop finished => some finished
      | .go next log => plan.runFrom fuel control startFrom next log
      | .fork step split log =>
        (bakePieces (plan.runSection fuel control.forBranch) control split.ignoreErrors
          (state.branchOn plan.steps) split.pieces log).bind
            (plan.afterBranches fuel control startFrom state step split) := by
  -- The branches run through the same function as the recipe, one unit of fuel below the fork.
  have hrun : (fun (control : Control) (branch : State) log =>
      plan.runFrom fuel control (branch.startFrom control) (branch.inPhase .running) log) =
        plan.runSection fuel := rfl
  rw [runFrom, move]
  cases state.turn plan.steps control startFrom log with
  | finish => rfl
  | cancel step => rfl
  | skip => rfl
  | pause => rfl
  | dispatch step =>
    simp only [hrun]
    cases hflow : (plan.registry.operation step.operation).descriptor.flowControl with
    | true =>
      rw [if_pos rfl]
      cases hact : (plan.registry.operation step.operation).flow with
      | act action =>
        rw [dispatch_act control state log hflow hact]
        simp only [State.steer, State.argsFor]
        cases action plan.steps (state.registers.substituteArguments step.args)
          (state.inPhase .branching) <;> rfl
      | fork =>
        rw [dispatch_fork control state log hflow hact]
        simp only [State.steer, State.argsFor]
        cases hparts : (state.inPhase .branching).forkParts
          (state.registers.substituteArguments step.args) with
        | error fault =>
          have hparts' : state.forkParts (state.registers.substituteArguments step.args) =
            .error fault := hparts
          simp only [State.fork, hparts, hparts']
          rfl
        | ok parts =>
          obtain ⟨split, join, text⟩ := parts
          have hparts' : state.forkParts (state.registers.substituteArguments step.args) =
            .ok (split, join, text) := hparts
          rw [hparts', fork_eq_map hparts']
          dsimp only [announced, context]
          rcases bakePieces _ _ _ _ _ _ with _ | ⟨result, log⟩
          · rfl
          · cases result <;> rfl
    | false =>
      rw [if_neg Bool.false_ne_true, dispatch_transform control state log hflow]
      change (match Operation.bake _ (context control step state) (state.argsFor step) state.dish
        (plan.announced control step state log) with | (.error _, _) => _ | (.ok _, _) => _) = _
      rcases Operation.bake _ _ _ _ _ with ⟨fault | dish, log⟩ <;> rfl

end Plan
end Kitchen
