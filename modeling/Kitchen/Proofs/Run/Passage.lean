import Kitchen.Proofs.Run.Dispatch
import Kitchen.Proofs.Run.Stage

/-!
# Passage through the steps

A run seen from the scope in which it started: the stages between its own steps, the branches of
forks left out, and the dishes that these steps give. Every run that ends has passed to a last stage,
and the step at this stage leaves the state as it was.
-/

namespace Kitchen

namespace Plan

/-- The turn at a stage. -/
def turnAt (plan : Plan) (stage : Stage) : Turn :=
  stage.state.turn plan.steps stage.control stage.startFrom stage.log

/-- A run passes through its steps to a stage. The results are the dishes of the steps that it has
completed, the newest first. -/
inductive Passes (plan : Plan) (root : Stage) : List Dish → Stage → Prop where
  | start : Passes plan root [] root
  | skip {results : List Dish} {stage : Stage} : Passes plan root results stage →
      plan.turnAt stage = .skip →
      Passes plan root results { stage with state := stage.state.advance }
  | step {results : List Dish} {stage : Stage} {step : Step} {next : State} {log : Log} :
      Passes plan root results stage → plan.turnAt stage = .dispatch step →
      plan.moveAt stage = .go next log →
      Passes plan root (next.dish :: results) { stage with state := next, log }
  | fork {results : List Dish} {stage : Stage} {step : Step} {split : Split} {log last : Log}
      {outputs : List String} : Passes plan root results stage →
      plan.moveAt stage = .fork step split log →
      plan.ForkEnds stage.control stage.state split log (.ok outputs) last →
      Passes plan root (.string (split.join.intercalate outputs) :: results)
        { stage with state := stage.state.joined plan.steps split outputs, log := last }

/-- The step at a stage fails, by itself or in one of its branches. -/
inductive FailsAt (plan : Plan) (stage : Stage) : Failure → Prop where
  | step {failure : Failure} {left : State} {log : Log} :
      plan.moveAt stage = .stop ⟨.error failure, left, log⟩ → FailsAt plan stage failure
  | fork {step : Step} {split : Split} {log last : Log} {fault : Fault} :
      plan.moveAt stage = .fork step split log →
      plan.ForkEnds stage.control stage.state split log (.error fault) last →
      FailsAt plan stage (.ofFault stage.state.progress step.operation fault)

variable {plan : Plan} {root mid stage : Stage} {results before : List Dish} {failure : Failure}

theorem Passes.trans (h : plan.Passes root before mid) (h' : plan.Passes mid results stage) :
    plan.Passes root (results ++ before) stage := by
  induction h' with
  | start => exact h
  | skip _ hturn ih => exact ih.skip hturn
  | step _ hturn hmove ih => exact ih.step hturn hmove
  | fork _ hmove hb ih => exact ih.fork hmove hb

/-- The dish at a stage is the newest result, or the dish at the start. -/
theorem Passes.dish (h : plan.Passes root results stage) :
    stage.state.dish = results.headD root.state.dish := by
  induction h with
  | start => rfl
  | skip _ _ ih => exact ih
  | step => rfl
  | fork => rfl

theorem moveAt_eq (plan : Plan) (stage : Stage) :
    plan.moveAt stage =
      match plan.turnAt stage with
      | .finish => .stop ⟨.ok .completed, stage.state, stage.log⟩
      | .cancel step =>
        .stop ⟨.error (.cancelled stage.state.progress step.operation), stage.state, stage.log⟩
      | .skip => .go stage.state.advance stage.log
      | .pause =>
        .stop ⟨.ok (.paused stage.state.progress), stage.state.inPhase .paused, stage.log⟩
      | .dispatch step => plan.dispatch stage.control step stage.state stage.log := rfl

/-- The step whose branches are to be run is the one that has been dispatched. -/
private theorem dispatch_eq_fork {control : Control} {step other : Step} {state : State} {log log₁ : Log}
    {split : Split} (h : plan.dispatch control step state log = .fork other split log₁) :
    other = step := by
  cases hf : (plan.registry.operation step.operation).descriptor.flowControl with
  | false =>
    rw [dispatch_transform control state log hf] at h
    split at h <;> cases h
  | true =>
    cases ha : (plan.registry.operation step.operation).flow with
    | act action =>
      rw [dispatch_act control state log hf ha] at h
      split at h <;> cases h
    | fork =>
      rw [dispatch_fork control state log hf ha] at h
      split at h
      · cases h
      · cases h
        rfl

theorem turnAt_of_fork {step : Step} {split : Split} {log : Log}
    (h : plan.moveAt stage = .fork step split log) : plan.turnAt stage = .dispatch step := by
  rw [moveAt_eq] at h
  cases hturn : plan.turnAt stage with
  | finish => simp [hturn] at h
  | cancel => simp [hturn] at h
  | skip => simp [hturn] at h
  | pause => simp [hturn] at h
  | dispatch other =>
    rw [hturn] at h
    rw [dispatch_eq_fork h]

/-- A run that goes on passes over a step or completes it. -/
theorem passes_of_go (stage : Stage) {next : State} {log : Log}
    (hmove : plan.moveAt stage = .go next log) :
    ∃ results, plan.Passes stage results { stage with state := next, log } := by
  cases hturn : plan.turnAt stage with
  | finish => simp [moveAt_eq, hturn] at hmove
  | cancel step => simp [moveAt_eq, hturn] at hmove
  | skip =>
    rw [moveAt_eq, hturn] at hmove
    obtain ⟨rfl, rfl⟩ := Move.go.inj hmove
    exact ⟨_, Passes.start.skip hturn⟩
  | pause => simp [moveAt_eq, hturn] at hmove
  | dispatch step => exact ⟨_, Passes.start.step hturn hmove⟩

/-- A step that fails by no cancellation has been dispatched. -/
theorem FailsAt.exists_dispatch (h : plan.FailsAt stage failure)
    (hkind : failure.kind ≠ .cancelled) : ∃ step, plan.turnAt stage = .dispatch step := by
  cases hturn : plan.turnAt stage with
  | dispatch step => exact ⟨step, rfl⟩
  | finish => cases h <;> simp_all [moveAt_eq]
  | cancel step =>
    cases h with
    | step hmove =>
      rw [moveAt_eq, hturn] at hmove
      obtain ⟨hresult, _⟩ := SectionEnd.mk.inj (Move.stop.inj hmove)
      obtain rfl := Except.error.inj hresult
      exact absurd rfl hkind
    | fork hmove => simp [moveAt_eq, hturn] at hmove
  | skip => cases h <;> simp_all [moveAt_eq]
  | pause => cases h <;> simp_all [moveAt_eq]

/-- The end of a run at its last stage. -/
structure LastAt (plan : Plan) (stage : Stage) (finished : SectionEnd) : Prop where
  state : ∃ phase, finished.state = stage.state.inPhase phase
  fails : ∀ failure, finished.result = .error failure → plan.FailsAt stage failure
  completes : finished.result = .ok .completed → plan.turnAt stage = .finish

private theorem lastAt_of_stop (hr : plan.registry = .builtIn) (stage : Stage)
    {finished : SectionEnd} (hmove : plan.moveAt stage = .stop finished) :
    plan.LastAt stage finished where
  state := exists_inPhase_of_move_stop hmove
  fails failure hfailure := by
    obtain ⟨result, left, log⟩ := finished
    obtain rfl : result = .error failure := hfailure
    exact .step hmove
  completes hcompleted := by
    cases hturn : plan.turnAt stage with
    | finish => rfl
    | cancel step =>
      rw [moveAt_eq, hturn] at hmove
      obtain rfl := Move.stop.inj hmove
      simp at hcompleted
    | skip => simp [moveAt_eq, hturn] at hmove
    | pause =>
      rw [moveAt_eq, hturn] at hmove
      obtain rfl := Move.stop.inj hmove
      simp at hcompleted
    | dispatch step =>
      have hdispatched := dispatched_of_builtIn hr stage.control step stage.state stage.log
      rw [moveAt_eq, hturn] at hmove
      dsimp only at hmove
      rw [hmove] at hdispatched
      cases hdispatched with
      | faults => simp [State.fault] at hcompleted

/-- A run that ends has passed to a last stage. -/
theorem Ends.exists_last {control : Control} {startFrom : Nat} {state : State} {log : Log}
    {finished : SectionEnd} (h : plan.Ends control startFrom state log finished)
    (hr : plan.registry = .builtIn) :
    ∃ results stage, plan.Passes ⟨control, startFrom, state, log⟩ results stage ∧
      plan.LastAt stage finished := by
  induction h using Plan.Ends.induct with
  | @stop control startFrom state log finished hmove =>
    exact ⟨[], _, .start, lastAt_of_stop hr ⟨control, startFrom, state, log⟩ hmove⟩
  | @go control startFrom state log next log₁ finished hmove _ ih =>
    obtain ⟨results, stage, hpasses, hlast⟩ := ih
    obtain ⟨before, hbefore⟩ := passes_of_go ⟨control, startFrom, state, log⟩ hmove
    exact ⟨_, stage, hbefore.trans hpasses, hlast⟩
  | @forkFails control startFrom state log step split log₁ fault log₂ hmove hbranches =>
    have hb : plan.ForkEnds control state split log₁ (.error fault) log₂ :=
      hbranches.mono fun _ _ _ h => h.1
    have hfails : plan.FailsAt ⟨control, startFrom, state, log⟩
        (.ofFault state.progress step.operation fault) := .fork hmove hb
    refine ⟨[], _, .start, ⟨.branching, rfl⟩, fun failure hfailure => ?_, fun hcompleted => ?_⟩
    · obtain rfl := Except.error.inj hfailure
      exact hfails
    · simp [State.fault] at hcompleted
  | @forkJoins control startFrom state log step split log₁ outputs log₂ finished hmove hbranches _
      ih =>
    have hb : plan.ForkEnds control state split log₁ (.ok outputs) log₂ :=
      hbranches.mono fun _ _ _ h => h.1
    have hstart : plan.Passes ⟨control, startFrom, state, log⟩ [] ⟨control, startFrom, state, log⟩ :=
      .start
    have hbefore := hstart.fork hmove hb
    obtain ⟨results, stage, hpasses, hlast⟩ := ih
    exact ⟨_, stage, hbefore.trans hpasses, hlast⟩

end Plan
end Kitchen
