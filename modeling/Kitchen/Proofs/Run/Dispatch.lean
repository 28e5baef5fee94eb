import Kitchen.Proofs.Operation.Watchful
import Kitchen.Proofs.Run.Ending

/-!
# Dispatch

All that a move can come to, said once: the end of the run, a state to go on from, or the branches of
a fork, and with it whether the run is cancelled and what a dispatched step adds to the events.
-/

namespace Kitchen

/-! ## Kinds of faults -/

/-- The kind of failure that a fault makes of a bake. -/
def Fault.kind : Fault → FailureKind
  | .invalid _ => .operation
  | .dish _ => .dishConversion
  | .cancelled => .cancelled
  | .branch failure => failure.kind
  | .defect _ => .defect

@[simp] theorem Failure.kind_ofFault (step : Nat) (operation : String) (fault : Fault) :
    (Failure.ofFault step operation fault).kind = fault.kind := by
  cases fault <;> rfl

/-- An own fault makes a failure of the step that raises it, without a dish. -/
theorem Failure.ofFault_of_isOwn {fault : Fault} (h : fault.IsOwn) (step : Nat)
    (operation : String) :
    (Failure.ofFault step operation fault).step = step ∧
      (Failure.ofFault step operation fault).operation = operation ∧
      (Failure.ofFault step operation fault).dish = none := by
  cases fault with
  | branch failure => exact absurd rfl (h failure)
  | invalid message => exact ⟨rfl, rfl, rfl⟩
  | dish error => exact ⟨rfl, rfl, rfl⟩
  | cancelled => exact ⟨rfl, rfl, rfl⟩
  | defect cause => exact ⟨rfl, rfl, rfl⟩

theorem Fault.IsOwn.kind_ne_configuration {fault : Fault} (h : fault.IsOwn) :
    fault.kind ≠ .configuration := by
  cases fault with
  | branch failure => exact absurd rfl (h failure)
  | invalid message => simp [Fault.kind]
  | dish error => simp [Fault.kind]
  | cancelled => simp [Fault.kind]
  | defect cause => simp [Fault.kind]

theorem Fault.IsOwn.kind_eq_cancelled {fault : Fault} (h : fault.IsOwn) :
    fault.kind = .cancelled ↔ fault = .cancelled := by
  cases fault with
  | branch failure => exact absurd rfl (h failure)
  | invalid message => simp [Fault.kind]
  | dish error => simp [Fault.kind]
  | cancelled => simp [Fault.kind]
  | defect cause => simp [Fault.kind]

/-! ## Steps -/

/-- The name of the fork stands for it alone. -/
theorem Registry.name_of_fork {name : String} (h : builtIn.operation name = Flow.fork) :
    name = Flow.fork.name := by
  rcases operation_builtIn name with ⟨_, hname⟩ | hnone
  · rw [← hname, h]
  · rw [hnone] at h
    have hflow : (bodiless name).descriptor.flowControl = Flow.fork.descriptor.flowControl := by
      rw [h]
    exact absurd hflow (by simp [bodiless, Operation.ofTransform, Descriptor.plain, Flow.fork,
      Operation.ofFlow])

@[simp] theorem Log.waits_announced (plan : Plan) (control : Control) (step : Step) (state : State)
    (log : Log) : (plan.announced control step state log).waits = log.waits := by
  have hreport := Log.waits_report (Plan.context control step state)
    (announcement step (Plan.context control step state).step plan.steps.length) none log
  simpa [Plan.announced, Context.announce, Log.waits] using hreport

/-- The move of a step whose body has been run on the dish. -/
def State.baked (state : State) (step : Step) : Except Fault Dish × Log → Move
  | (.error fault, log) => .stop (state.fault step fault log)
  | (.ok dish, log) => .go { state.advance with dish } log

theorem State.baked_ne_fork {state : State} {step other : Step} {split : Split} {log : Log}
    (result : Except Fault Dish × Log) : state.baked step result ≠ .fork other split log := by
  obtain ⟨fault | dish, last⟩ := result <;> exact Move.noConfusion

theorem Plan.dispatch_baked {plan : Plan} {step : Step}
    (hf : (plan.registry.operation step.operation).descriptor.flowControl = false)
    (control : Control) (state : State) (log : Log) :
    plan.dispatch control step state log =
      state.baked step ((plan.registry.operation step.operation).bake (context control step state)
        (state.argsFor step) state.dish (plan.announced control step state log)) := by
  rw [dispatch_transform control state log hf]
  rcases Operation.bake _ _ _ _ _ with ⟨fault | dish, last⟩ <;> rfl

/-- From some events to later ones no wait is taken behind the one at which the host cancels. -/
def Control.KeepsWaits (control : Control) (log last : Log) : Prop :=
  ∀ n, control.cancelAt = some (.wait n) → 0 < n → log.waits ≤ n → last.waits ≤ n

/-- The move of a dispatched step. -/
inductive Plan.Dispatched (plan : Plan) (control : Control) (step : Step) (state : State)
    (log : Log) : Move → Prop where
  | acts (next : State) :
      Dispatched plan control step state log (.go next (plan.announced control step state log))
  | bakes (dish : Dish) {last : Log} : Log.Quiet (plan.announced control step state log) last →
      control.KeepsWaits log last →
      (∀ n, control.cancelAt = some (.wait n) → log.waits < n → last.waits < n) →
      Dispatched plan control step state log (.go { state.advance with dish } last)
  | forks (split : Split) : step.operation = Flow.fork.name →
      Dispatched plan control step state log
        (.fork step split (plan.announced control step state log))
  | faults {fault : Fault} (phase : Phase) {last : Log} : fault.IsOwn →
      Log.Quiet (plan.announced control step state log) last → control.KeepsWaits log last →
      (fault = .cancelled → control.isCancelled last = true) →
      (∀ n, control.cancelAt = some (.wait n) → log.waits < n →
        fault = .cancelled ∨ last.waits < n) →
      Dispatched plan control step state log (.stop ((state.inPhase phase).fault step fault last))

namespace Plan

variable {plan : Plan} {control : Control} {step : Step} {state : State} {log : Log}

/-- A plain fault before the body of a step has been run. -/
private theorem Dispatched.of_plain {fault : Fault} (h : fault.IsPlain) (phase : Phase) :
    plan.Dispatched control step state log
      (.stop ((state.inPhase phase).fault step fault (plan.announced control step state log))) := by
  refine .faults phase h.isOwn (.refl _) ?_ (fun hc => absurd hc h.ne_cancelled) ?_
  · intro n _ _ hle
    rwa [Log.waits_announced]
  · intro n _ hlt
    rw [Log.waits_announced]
    exact .inr hlt

private theorem dispatched_transform {operation : Operation}
    (hop : plan.registry.operation step.operation = operation)
    (hf : operation.descriptor.flowControl = false) (hsteady : operation.Steady)
    (hwatchful : operation.Watchful) :
    plan.Dispatched control step state log (plan.dispatch control step state log) := by
  rw [dispatch_baked (by rw [hop]; exact hf), hop]
  generalize hcontext : context control step state = context
  have hcontrol : context.control = control := by rw [← hcontext]; rfl
  have hquiet := hwatchful.quiet_bake context (state.argsFor step) state.dish
    (plan.announced control step state log)
  have hown : OwnFaults (operation.bake context (state.argsFor step) state.dish
      (plan.announced control step state log)).1 := hsteady.ownFaults_bake _ _ _
  have hcancelled := hwatchful.isCancelled_bake context (state.argsFor step) state.dish
    (plan.announced control step state log)
  have hwait (n : Nat) (hmoment : control.cancelAt = some (.wait n)) (hlt : log.waits < n) :=
    hwatchful.lastWait_bake context (state.argsFor step) state.dish (hcontrol ▸ hmoment)
      (by rwa [Log.waits_announced plan control step state log])
  have hkeeps : control.KeepsWaits log (operation.bake context (state.argsFor step) state.dish
      (plan.announced control step state log)).2 := fun n hmoment hpos hle =>
    hwatchful.waits_bake_le context (state.argsFor step) state.dish (hcontrol ▸ hmoment) hpos
      (by rwa [Log.waits_announced plan control step state log])
  revert hquiet hown hcancelled hwait hkeeps
  rcases operation.bake context (state.argsFor step) state.dish
    (plan.announced control step state log) with ⟨fault | dish, last⟩
  · intro hquiet hown hcancelled hwait hkeeps
    refine .faults state.phase (hown fault rfl) hquiet hkeeps ?_ ?_
    · rintro rfl
      rw [← hcontrol]
      exact hcancelled rfl
    · intro n hmoment hlt
      by_cases hle : n ≤ last.waits
      · exact .inl (Except.error.inj (hwait n hmoment hlt hle))
      · exact .inr (Nat.not_le.mp hle)
  · intro hquiet _ _ hwait hkeeps
    refine .bakes dish hquiet hkeeps fun n hmoment hlt => Nat.lt_of_not_le fun hle => ?_
    exact absurd (hwait n hmoment hlt hle) (by simp)

/-- A dispatched step goes on, comes to the branches of a fork, or raises a fault of its own. -/
theorem dispatched_of_builtIn (hr : plan.registry = .builtIn) (control : Control) (step : Step)
    (state : State) (log : Log) :
    plan.Dispatched control step state log (plan.dispatch control step state log) := by
  have hop : plan.registry.operation step.operation = Registry.builtIn.operation step.operation := by
    rw [hr]
  rcases Registry.builtIn_cases step.operation with hfork | ⟨hflow, action, hact, haction⟩ |
    ⟨hflow, hsteady⟩
  · rw [hfork] at hop
    rw [dispatch_fork control state log (by rw [hop]; rfl) (by rw [hop]; rfl)]
    have hplain := Flow.plainFaults_forkParts state (state.argsFor step)
    cases hparts : state.forkParts (state.argsFor step) with
    | error fault => exact .of_plain (hplain fault hparts) .branching
    | ok parts => exact .forks _ (Registry.name_of_fork hfork)
  · rw [dispatch_act control state log (hop ▸ hflow) (hop ▸ hact)]
    have hplain := haction.plainFaults plan.steps (state.argsFor step) (state.inPhase .branching)
    cases hn : action plan.steps (state.argsFor step) (state.inPhase .branching) with
    | error fault => exact .of_plain (hplain fault hn) .branching
    | ok steered => exact .acts _
  · exact dispatched_transform hop hflow hsteady (Registry.watchful_builtIn hflow)

end Plan

/-! ## Turns -/

namespace State

variable {state : State} {steps : List Step} {control : Control} {startFrom : Nat} {log : Log}

/-- Once it is cancelled, a run finishes or ends by the cancellation. -/
theorem turn_of_isCancelled (h : control.isCancelled log = true) (state : State)
    (steps : List Step) (startFrom : Nat) :
    state.turn steps control startFrom log = .finish ∨
      ∃ step, state.turn steps control startFrom log = .cancel step := by
  unfold turn
  by_cases hend : state.scopeEnd ≤ state.progress
  · exact .inl (if_pos hend)
  · rw [if_neg hend]
    cases steps[state.progress]? with
    | none => exact .inl rfl
    | some step => exact .inr ⟨step, if_pos h⟩

theorem isCancelled_of_turn_cancel {step : Step}
    (h : state.turn steps control startFrom log = .cancel step) : control.isCancelled log = true := by
  unfold turn at h
  by_cases hc : control.isCancelled log = true
  · exact hc
  · rw [Bool.not_eq_true] at hc
    simp only [hc, Bool.false_eq_true, if_false] at h
    split at h
    · simp at h
    · split at h
      · simp at h
      · split at h
        · simp at h
        · split at h <;> simp at h

/-- A run that takes a step, or passes or pauses at one, has not been cancelled. -/
theorem isCancelled_of_turn {turn : Turn} (h : state.turn steps control startFrom log = turn)
    (hfinish : turn ≠ .finish) (hcancel : ∀ step, turn ≠ .cancel step) :
    control.isCancelled log = false := by
  cases hc : control.isCancelled log with
  | false => rfl
  | true =>
    rcases turn_of_isCancelled hc state steps startFrom with hturn | ⟨step, hturn⟩
    · exact absurd (h.symm.trans hturn) hfinish
    · exact absurd (h.symm.trans hturn) (hcancel step)

end State

/-! ## Moves -/

/-- The move that a run makes at a state. -/
inductive Plan.Makes (plan : Plan) (control : Control) (state : State) (log : Log) : Move → Prop where
  | finishes : Makes plan control state log (.stop ⟨.ok .completed, state, log⟩)
  | cancels (step : Step) : control.isCancelled log = true →
      Makes plan control state log
        (.stop ⟨.error (.cancelled state.progress step.operation), state, log⟩)
  | skips : control.isCancelled log = false →
      Makes plan control state log (.go state.advance log)
  | pauses : control.isCancelled log = false →
      Makes plan control state log
        (.stop ⟨.ok (.paused state.progress), state.inPhase .paused, log⟩)
  | dispatches (step : Step) {move : Move} : control.isCancelled log = false →
      plan.Dispatched control step state log move → Makes plan control state log move

theorem Plan.makes_move {plan : Plan} (hr : plan.registry = .builtIn) (control : Control)
    (startFrom : Nat) (state : State) (log : Log) :
    plan.Makes control state log (plan.move control startFrom state log) := by
  rw [move]
  cases hturn : state.turn plan.steps control startFrom log with
  | finish => exact .finishes
  | cancel step => exact .cancels step (State.isCancelled_of_turn_cancel hturn)
  | skip => exact .skips (State.isCancelled_of_turn hturn (by simp) (by simp))
  | pause => exact .pauses (State.isCancelled_of_turn hturn (by simp) (by simp))
  | dispatch step =>
    exact .dispatches step (State.isCancelled_of_turn hturn (by simp) (by simp))
      (dispatched_of_builtIn hr control step state log)

end Kitchen
