import Kitchen.Proofs.Operation.Capturing
import Kitchen.Proofs.Run.Passage

/-!
# Bindings of a run

The registers at a stage of a run are those at its start, changed by the bindings of the register
steps on the way to the stage. A branch of a fork starts with the bindings made before the fork, and
what it binds itself is forgotten behind the fork.
-/

namespace Kitchen

namespace Plan

def bindingsAt (plan : Plan) (stage : Stage) : List Binding :=
  match plan.turnAt stage with
  | .dispatch step => Flow.bindings step.operation (stage.state.argsFor step) stage.state
  | _ => []

/-- A stage that a run reaches, with the bindings on the way to it. -/
inductive Remembers (plan : Plan) (root : Stage) : Stage → List Binding → Prop where
  | start : Remembers plan root root []
  | go {stage : Stage} {history : List Binding} {next : State} {log : Log} :
      Remembers plan root stage history → plan.moveAt stage = .go next log →
      Remembers plan root { stage with state := next, log } (history ++ plan.bindingsAt stage)
  | join {stage : Stage} {history : List Binding} {step : Step} {split : Split} {log last : Log}
      {outputs : List String} : Remembers plan root stage history →
      plan.moveAt stage = .fork step split log →
      plan.ForkEnds stage.control stage.state split log (.ok outputs) last →
      Remembers plan root
        { stage with state := stage.state.joined plan.steps split outputs, log := last } history
  | branch {stage : Stage} {history : List Binding} {step : Step} {split : Split}
      {log last : Log} {outputs : List String} {before after : List String} {piece : String} :
      Remembers plan root stage history → plan.moveAt stage = .fork step split log →
      split.pieces = before ++ piece :: after →
      plan.ForkEnds stage.control stage.state { split with pieces := before } log (.ok outputs)
        last →
      stage.control.isCancelled last = false →
      Remembers plan root (plan.branchStage stage piece last) history

variable {plan : Plan} {root stage : Stage} {history : List Binding}

theorem Reaches.exists_remembers {n : Nat} (h : plan.Reaches root stage n) :
    ∃ history, plan.Remembers root stage history := by
  induction h with
  | start => exact ⟨[], .start⟩
  | go _ hmove ih =>
    obtain ⟨history, hhistory⟩ := ih
    exact ⟨_, hhistory.go hmove⟩
  | join _ hmove hb ih =>
    obtain ⟨history, hhistory⟩ := ih
    exact ⟨_, hhistory.join hmove hb⟩
  | branch _ hmove hpieces hb hc ih =>
    obtain ⟨history, hhistory⟩ := ih
    exact ⟨_, hhistory.branch hmove hpieces hb hc⟩

private theorem registers_of_dispatch (hr : plan.registry = .builtIn) {control : Control}
    {step : Step} {state next : State} {log log₁ : Log}
    (h : plan.dispatch control step state log = .go next log₁) :
    next.registers =
      state.registers.recordAll (Flow.bindings step.operation (state.argsFor step) state) := by
  cases hflow : (plan.registry.operation step.operation).descriptor.flowControl with
  | true =>
    cases hact : (plan.registry.operation step.operation).flow with
    | act action =>
      rw [dispatch_act control state log hflow hact] at h
      split at h
      · cases h
      · rename_i steered hsteered
        obtain ⟨rfl, -⟩ := Move.go.inj h
        rw [hr] at hflow hact
        have hregisters := Registry.registers_builtIn hflow hact hsteered
        exact hregisters
    | fork =>
      rw [dispatch_fork control state log hflow hact] at h
      split at h <;> cases h
  | false =>
    -- A register step controls the flow, so this is none, and it binds nothing.
    have hname : step.operation ≠ Flow.register.name := by
      intro hname
      rw [hname, hr, Registry.operation_register] at hflow
      cases hflow
    rw [dispatch_transform control state log hflow] at h
    rw [Flow.bindings, if_neg hname, Registers.recordAll_nil]
    split at h
    · cases h
    · obtain ⟨rfl, -⟩ := Move.go.inj h
      rfl

/-- A move changes the registers by what its step binds, and by nothing else. -/
theorem registers_of_go (hr : plan.registry = .builtIn) {next : State} {log : Log}
    (hmove : plan.moveAt stage = .go next log) :
    next.registers = stage.state.registers.recordAll (plan.bindingsAt stage) := by
  rw [moveAt_eq] at hmove
  rw [bindingsAt]
  cases hturn : plan.turnAt stage with
  | finish => simp [hturn] at hmove
  | cancel step => simp [hturn] at hmove
  | pause => simp [hturn] at hmove
  | skip =>
    rw [hturn] at hmove
    obtain ⟨rfl, -⟩ := Move.go.inj hmove
    rfl
  | dispatch step =>
    rw [hturn] at hmove
    exact registers_of_dispatch hr hmove

/-- The registers at a stage are those at the start with the bindings on the way. -/
theorem Remembers.registers (h : plan.Remembers root stage history)
    (hr : plan.registry = .builtIn) :
    stage.state.registers = root.state.registers.recordAll history := by
  induction h with
  | start => rfl
  | go _ hmove ih => rw [registers_of_go hr hmove, ih, Registers.recordAll_append]
  | join _ _ _ ih => exact ih
  | branch _ _ _ _ _ ih => exact ih

section Register

variable {step : Step} {matcher : Regex.Matcher} {text : String}

theorem bindingsAt_register (hturn : plan.turnAt stage = .dispatch step)
    (hname : step.operation = Flow.register.name)
    (hmatcher : Flow.extractor (stage.state.argsFor step) = .ok matcher)
    (htext : stage.state.text = .ok text) :
    plan.bindingsAt stage = Flow.matchBindings matcher
      (Flow.registerNames (textAt (stage.state.argsFor step) 1)) text := by
  rw [bindingsAt, hturn]
  dsimp only
  rw [Flow.bindings, if_pos hname, Flow.registerBindings, hmatcher, htext]

/-- A register step with a pattern that can be read, on a dish with a text, changes the registers
alone and moves on. -/
theorem moveAt_register (hr : plan.registry = .builtIn) (hturn : plan.turnAt stage = .dispatch step)
    (hname : step.operation = Flow.register.name)
    (hmatcher : Flow.extractor (stage.state.argsFor step) = .ok matcher)
    (htext : stage.state.text = .ok text) :
    plan.moveAt stage =
      .go
        { stage.state with
          progress := stage.state.progress + 1
          registers := stage.state.registers.recordAll (plan.bindingsAt stage)
          phase := .running }
        (plan.announced stage.control step stage.state stage.log) := by
  have hmem : Flow.register ∈ Flow.operations := by simp [Flow.operations]
  have hact : Flow.register.flow = .act Flow.registerAction := rfl
  have htext' : (stage.state.inPhase .branching).text = .ok text := htext
  rw [moveAt_eq, hturn]
  dsimp only
  rw [dispatch_action _ _ _ hr hmem hname hact, Flow.registerAction_eq, hmatcher, htext',
    bindingsAt_register hturn hname hmatcher htext]
  rfl

end Register

end Plan
end Kitchen
