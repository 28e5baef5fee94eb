import Kitchen.Proofs.Run.Matching
import Kitchen.Proofs.Run.Promptness
import Kitchen.Proofs.Run.Scope

/-!
# Tours

The way of the cursor in the scope of a run, and how often the steps are dispatched on it. A straight
step is dispatched once and leaves the cursor to the run, so steps that are straight are walked
through one by one.
-/

namespace Kitchen

/-! ## Dispatches -/

namespace Log

/-- The index of the step that an event dispatches. -/
def stepOf? : Event → Option Nat
  | .dispatched step _ => some step
  | _ => none

/-- How often a step has been dispatched. -/
def dispatches (i : Nat) (log : Log) : Nat := log.countP (stepOf? · == some i)

theorem Quiet.dispatches {log log' : Log} (h : Quiet log log') (i : Nat) :
    log'.dispatches i = log.dispatches i := by
  obtain ⟨events, rfl, hevents⟩ := h
  have hnone : events.countP (stepOf? · == some i) = 0 := by
    rw [List.countP_eq_zero]
    intro event hmem
    have hquiet := hevents event hmem
    cases event <;> simp_all [stepOf?, operationOf?]
  rw [Log.dispatches, List.countP_append, hnone, Nat.zero_add]
  rfl

theorem dispatches_announced (plan : Plan) (control : Control) (step : Step) (state : State)
    (log : Log) (i : Nat) :
    (plan.announced control step state log).dispatches i =
      log.dispatches i + if i = state.progress then 1 else 0 := by
  have hquiet : Quiet log ((Plan.context control step state).report
      (announcement step state.progress plan.steps.length) none log) := quiet_report _ _ _ _
  rw [← hquiet.dispatches i]
  change List.countP _ (_ :: _) = _
  have hsame : (some state.progress == some i) = true ↔ i = state.progress :=
    ⟨fun h => (Option.some.inj (beq_iff_eq.mp h)).symm, fun h => beq_iff_eq.mpr (congrArg some h.symm)⟩
  rw [List.countP_cons]
  simp only [stepOf?, Plan.context, hsame]
  rfl

end Log

/-! ## Straight steps -/

/-- The step is a transformation, a marker or a capture: it leaves the cursor to the run. -/
def Step.isStraight (step : Step) : Bool :=
  !(Registry.builtIn.operation step.operation).descriptor.flowControl ||
    [Flow.register.name, Flow.label.name, Flow.merge.name, Flow.comment.name].contains step.operation

namespace Plan

variable {plan : Plan} {control : Control} {startFrom : Nat} {state : State} {log : Log} {step : Step}

/-- What a straight step at the cursor comes to: a failure, or the next step. -/
def StepsOn (state : State) (log : Log) (dispatched : Bool) (move : Move) : Prop :=
  (∃ failure left last, move = .stop ⟨.error failure, left, last⟩) ∨
    ∃ next last, move = .go next last ∧ next.progress = state.progress + 1 ∧
      next.jumpsTaken = state.jumpsTaken ∧
      ∀ i, last.dispatches i =
        log.dispatches i + if i = state.progress ∧ dispatched = true then 1 else 0

private theorem dispatch_stepsOn_act (hr : plan.registry = .builtIn) {operation : Operation}
    (hmem : operation ∈ Flow.operations) (hname : step.operation = operation.name)
    {action : FlowAction} (hact : operation.flow = .act action)
    (hstays : ∀ steps args (state next : State), action steps args state = .ok next →
      ∃ registers, next = { state with registers }) :
    StepsOn state log true (plan.dispatch control step state log) := by
  rw [dispatch_action control state log hr hmem hname hact]
  cases hn : action plan.steps (state.argsFor step) (state.inPhase .branching) with
  | error fault => exact .inl ⟨_, _, _, rfl⟩
  | ok steered =>
    obtain ⟨registers, rfl⟩ := hstays _ _ _ _ hn
    refine .inr ⟨_, _, rfl, rfl, rfl, fun i => ?_⟩
    simp only [Log.dispatches_announced, and_true]

private theorem dispatch_stepsOn (hr : plan.registry = .builtIn) (h : step.isStraight = true)
    (control : Control) (state : State) (log : Log) :
    StepsOn state log true (plan.dispatch control step state log) := by
  cases hf : (Registry.builtIn.operation step.operation).descriptor.flowControl with
  | false =>
    have hf' : (plan.registry.operation step.operation).descriptor.flowControl = false := hr ▸ hf
    -- While a transformation bakes it reports and waits, but dispatches nothing.
    have hquiet := (Registry.watchful_builtIn hf).quiet_bake (context control step state)
      (state.argsFor step) state.dish (plan.announced control step state log)
    rw [dispatch_baked hf', hr]
    revert hquiet
    rcases Operation.bake _ _ _ _ _ with ⟨fault | dish, last⟩
    · exact fun _ => .inl ⟨_, _, _, rfl⟩
    · intro hquiet
      refine .inr ⟨_, _, rfl, rfl, rfl, fun i => ?_⟩
      rw [hquiet.dispatches]
      simp only [Log.dispatches_announced, and_true]
  | true =>
    have hmem : step.operation ∈
        [Flow.register.name, Flow.label.name, Flow.merge.name, Flow.comment.name] := by
      simpa only [Step.isStraight, hf, Bool.not_true, Bool.false_or, List.contains_iff_mem] using h
    have hstay : ∀ (steps : List Step) (args : List Argument) (state next : State),
        Flow.stay steps args state = .ok next → ∃ registers, next = { state with registers } :=
      fun _ _ state _ hn => ⟨state.registers, (Except.ok.inj hn).symm⟩
    simp only [List.mem_cons, List.not_mem_nil, or_false] at hmem
    rcases hmem with hname | hname | hname | hname
    · exact dispatch_stepsOn_act hr (by simp [Flow.operations]) hname rfl
        fun _ _ _ _ hn => Flow.registerAction_cases hn
    · exact dispatch_stepsOn_act hr (by simp [Flow.operations]) hname rfl hstay
    · exact dispatch_stepsOn_act hr (by simp [Flow.operations]) hname rfl hstay
    · exact dispatch_stepsOn_act hr (by simp [Flow.operations]) hname rfl hstay

theorem turn_of_unhindered (hc : control.Unhindered) (hlt : state.progress < state.scopeEnd)
    (hstep : plan.steps[state.progress]? = some step) (startFrom : Nat) (log : Log) :
    state.turn plan.steps control startFrom log =
      if step.disabled then .skip else .dispatch step := by
  rw [State.turn, if_neg (Nat.not_le.mpr hlt), hstep]
  simp only [hc.uncancelled.isCancelled, hc.honourBreakpoints, Bool.and_false, Bool.false_and,
    Bool.false_eq_true, if_false]

/-- A straight step fails or leads to the next step. -/
theorem move_stepsOn (hr : plan.registry = .builtIn) (hc : control.Unhindered)
    (hlt : state.progress < state.scopeEnd) (hstep : plan.steps[state.progress]? = some step)
    (hstraight : step.disabled = false → step.isStraight = true) (startFrom : Nat) (log : Log) :
    StepsOn state log (!step.disabled) (plan.move control startFrom state log) := by
  rw [move, turn_of_unhindered hc hlt hstep]
  cases hd : step.disabled with
  | true => exact .inr ⟨_, _, rfl, rfl, rfl, fun i => by simp⟩
  | false => exact dispatch_stepsOn hr (hstraight hd) control state log

/-! ## Tours -/

/-- A run in its own scope up to a stage. The moves are the cursors before and after each, the newest
first. -/
inductive Tours (plan : Plan) (root : Stage) : List (Nat × Nat) → Stage → Prop where
  | start : Tours plan root [] root
  | go {moves : List (Nat × Nat)} {stage : Stage} {next : State} {log : Log} :
      Tours plan root moves stage → plan.moveAt stage = .go next log →
      Tours plan root ((stage.state.progress, next.progress) :: moves)
        { stage with state := next, log }
  | join {moves : List (Nat × Nat)} {stage : Stage} {step : Step} {split : Split} {log last : Log}
      {outputs : List String} : Tours plan root moves stage →
      plan.moveAt stage = .fork step split log →
      plan.ForkEnds stage.control stage.state split log (.ok outputs) last →
      Tours plan root
        ((stage.state.progress, (stage.state.joined plan.steps split outputs).progress) :: moves)
        { stage with state := stage.state.joined plan.steps split outputs, log := last }

section Tours

variable {root mid stage : Stage} {moves before : List (Nat × Nat)}

theorem Tours.trans (h : plan.Tours root before mid) (h' : plan.Tours mid moves stage) :
    plan.Tours root (moves ++ before) stage := by
  induction h' with
  | start => exact h
  | go _ hmove ih => exact ih.go hmove
  | join _ hmove hb ih => exact ih.join hmove hb

theorem Tours.exists_passes (h : plan.Tours root moves stage) :
    ∃ results, plan.Passes root results stage := by
  induction h with
  | start => exact ⟨[], .start⟩
  | @go moves stage next log _ hmove ih =>
    obtain ⟨results, hpasses⟩ := ih
    obtain ⟨further, hfurther⟩ := passes_of_go stage hmove
    exact ⟨_, hpasses.trans hfurther⟩
  | join _ hmove hb ih =>
    obtain ⟨results, hpasses⟩ := ih
    exact ⟨_, hpasses.fork hmove hb⟩

theorem Tours.endsAt_iff (h : plan.Tours root moves stage) {finished : SectionEnd} :
    plan.EndsAt root finished ↔ plan.EndsAt stage finished := by
  induction h with
  | start => exact Iff.rfl
  | go _ hmove ih => exact ih.trans (ends_iff_of_go hmove)
  | join _ hmove hb ih => exact ih.trans (ends_iff_of_forkJoins hmove hb)

/-- No step of the run fails. -/
def Unfailing (plan : Plan) (root : Stage) : Prop :=
  ∀ results stage failure, plan.Passes root results stage → ¬plan.FailsAt stage failure

theorem Unfailing.of_tours (h : plan.Unfailing root) (htours : plan.Tours root moves stage) :
    plan.Unfailing stage := by
  obtain ⟨before, hbefore⟩ := htours.exists_passes
  exact fun results stage failure hpasses => h _ stage failure (hbefore.trans hpasses)

end Tours

/-! ## Walks -/

def EnabledAt (plan : Plan) (i : Nat) : Prop :=
  ∃ step, plan.steps[i]? = some step ∧ step.disabled = false

/-- Nobody hinders the run over all steps at the stage; the cursor stands at a place, and some jumps
are counted. -/
structure StandsAt (plan : Plan) (stage : Stage) (i jumps : Nat) : Prop where
  unhindered : stage.control.Unhindered
  scopeStart : stage.state.scopeStart = 0
  scopeEnd : stage.state.scopeEnd = plan.steps.length
  progress : stage.state.progress = i
  jumpsTaken : stage.state.jumpsTaken = jumps

theorem StandsAt.of_go {stage : Stage} {i j jumps jumps' : Nat} {next : State} {log : Log}
    (h : plan.StandsAt stage i jumps) (hr : plan.registry = .builtIn)
    (hmove : plan.moveAt stage = .go next log) (hprogress : next.progress = j)
    (hjumps : next.jumpsTaken = jumps') :
    plan.StandsAt { stage with state := next, log } j jumps' := by
  obtain ⟨_, _, _, hmoved⟩ := moved_of_move_go hr hmove
  exact ⟨h.unhindered, hmoved.scope.1.trans h.scopeStart, hmoved.scope.2.trans h.scopeEnd, hprogress,
    hjumps⟩

/-- Straight steps are walked through one by one, and each is dispatched once. -/
theorem StandsAt.exists_walk {stage : Stage} {i stop jumps : Nat} (h : plan.StandsAt stage i jumps)
    (hr : plan.registry = .builtIn) (hunfailing : plan.Unfailing stage) (hle : i ≤ stop)
    (hstop : stop ≤ plan.steps.length)
    (hstraight : ∀ n step, i ≤ n → n < stop → plan.steps[n]? = some step → step.disabled = false →
      step.isStraight = true) :
    ∃ moves last, plan.Tours stage moves last ∧ plan.StandsAt last stop jumps ∧
      (∀ move ∈ moves, move.1 < stop) ∧
      ∀ n, (n < i ∨ stop ≤ n → last.log.dispatches n = stage.log.dispatches n) ∧
        (i ≤ n → n < stop → plan.EnabledAt n →
          last.log.dispatches n = stage.log.dispatches n + 1) := by
  induction hle with
  | refl =>
    refine ⟨[], stage, .start, h, by simp, fun n => ⟨fun _ => rfl, fun hin hn => ?_⟩⟩
    omega
  | @step stop hle ih =>
    have hle : i ≤ stop := hle
    obtain ⟨moves, last, htours, hstands, hbefore, hcount⟩ :=
      ih (Nat.le_of_succ_le hstop) fun n step hin hn => hstraight n step hin (Nat.lt_succ_of_lt hn)
    obtain ⟨step, hstep⟩ : ∃ step, plan.steps[stop]? = some step :=
      ⟨_, List.getElem?_eq_getElem hstop⟩
    have hlt : last.state.progress < last.state.scopeEnd := by
      rw [hstands.progress, hstands.scopeEnd]
      exact hstop
    have hmove := move_stepsOn hr hstands.unhindered hlt (by rw [hstands.progress]; exact hstep)
      (hstraight stop step hle (Nat.lt_succ_self stop) hstep) last.startFrom last.log
    rcases hmove with ⟨failure, left, log, hfails⟩ | ⟨next, log, hgo, hprogress, hjumps, hlog⟩
    · exact absurd (.step hfails) (hunfailing.of_tours htours [] last failure .start)
    · refine ⟨_, _, htours.go hgo,
        hstands.of_go hr hgo (hprogress.trans (congrArg _ hstands.progress))
          (hjumps.trans hstands.jumpsTaken), ?_, fun n => ⟨fun hout => ?_, fun hin hn henabled => ?_⟩⟩
      · intro move hmem
        rcases List.mem_cons.mp hmem with rfl | hmem
        · exact Nat.lt_succ_of_le (Nat.le_of_eq hstands.progress)
        · exact Nat.lt_succ_of_lt (hbefore move hmem)
      · -- A step outside of the walk is dispatched as often as before.
        rw [hlog n, (hcount n).1 (by omega), if_neg (by rw [hstands.progress]; omega)]
        rfl
      · rw [hlog n]
        rcases Nat.lt_succ_iff_lt_or_eq.mp hn with hn | rfl
        · rw [(hcount n).2 hin hn henabled, if_neg (by rw [hstands.progress]; omega)]
        · obtain ⟨other, hother, hdisabled⟩ := henabled
          cases hstep.symm.trans hother
          rw [(hcount n).1 (.inr (Nat.le_refl n)), if_pos ⟨hstands.progress.symm, by rw [hdisabled]; rfl⟩]

end Plan
end Kitchen
