import Kitchen.Proofs.Run.Alignment

/-!
# Matching moves

Where nobody cancels, a run over a range of steps that may pause at breakpoints is matched, move by
move, by a run over a thinning of the range that ignores them: the first run pauses, passes an idle
step alone, or both runs finish or make the same move.
-/

namespace Kitchen

/-- Nobody cancels and no breakpoint pauses. -/
structure Control.Unhindered (control : Control) : Prop where
  uncancelled : control.Uncancelled
  honourBreakpoints : control.honourBreakpoints = false

theorem Control.Uncancelled.unhindered_forBranch {control : Control} (h : control.Uncancelled) :
    control.forBranch.Unhindered := ⟨h, rfl⟩

/-- From the first step on, without cancellation and without pauses. -/
def Control.straight (listening : Bool) : Control := ⟨none, listening, false, 0⟩

theorem Control.unhindered_straight (listening : Bool) : (straight listening).Unhindered :=
  ⟨rfl, rfl⟩

/-! ## Faults -/

section Faults

variable {first stop : Nat} {place : Nat → Nat} {state state' : State}

theorem Failure.ofFault_own {fault : Fault} (h : fault.IsOwn) (i j : Nat) (operation : String) :
    Failure.ofFault j operation fault = { Failure.ofFault i operation fault with step := j } := by
  cases fault with
  | branch failure => exact absurd rfl (h failure)
  | invalid message => rfl
  | dish error => rfl
  | cancelled => rfl
  | defect cause => rfl

private theorem step_ofFault_own {fault : Fault} (h : fault.IsOwn) (i : Nat) (operation : String) :
    (Failure.ofFault i operation fault).step = i := by
  rw [Failure.ofFault_own h 0 i operation]

/-- Aligned faults end aligned runs in aligned failures. -/
theorem Fault.Aligned.sectionEnd {fault fault' : Fault} (hf : fault.Aligned first stop place fault')
    (ha : Kitchen.Aligned first stop place state state') (hlt : state.progress < state.scopeEnd)
    (hkept : place (state.progress + 1) = place state.progress + 1) {step step' : Step}
    (hop : step'.operation = step.operation) (log log' : Log) :
    (state.fault step fault log).Aligned first stop place (state'.fault step' fault' log') := by
  refine .failed ha ?_
  cases hf with
  | own hown =>
    have hstep := step_ofFault_own hown state.progress step.operation
    have hstart := ha.start_le
    have hfirst := ha.first_le
    have hstop := ha.end_le
    refine ⟨by omega, by omega, by rwa [hstep], ?_⟩
    rw [hstep, hop, ← ha.progress]
    exact Failure.ofFault_own hown _ _ _
  | branch hb => exact hb

end Faults

/-! ## Moves -/

section Moves

variable {first stop : Nat} {place : Nat → Nat} {plan plan' : Plan} {state state' : State}
  {control control' : Control}

private theorem Plan.dispatch_aligned_act (T : Thinning plan.steps plan'.steps first stop place)
    (ha : Aligned first stop place state state') (hlt : state.progress < state.scopeEnd)
    (hkept : place (state.progress + 1) = place state.progress + 1) {step step' : Step}
    (hop : step'.operation = step.operation) (hargs : state'.argsFor step' = state.argsFor step)
    {action : FlowAction} (haction : Flow.IsAction action)
    (hf : (plan.registry.operation step.operation).descriptor.flowControl = true)
    (hf' : (plan'.registry.operation step'.operation).descriptor.flowControl = true)
    (hact : (plan.registry.operation step.operation).flow = .act action)
    (hact' : (plan'.registry.operation step'.operation).flow = .act action) (log log' : Log) :
    (plan.dispatch control step state log).Aligned first stop place
      (plan'.dispatch control' step' state' log') := by
  have hb := ha.inPhase .branching .branching
  have hown := (haction.plainFaults plan.steps (state.argsFor step) (state.inPhase .branching)).own
  have haligned := haction.aligned hb T hlt hkept (state.argsFor step)
  rw [Plan.dispatch_act control state log hf hact, Plan.dispatch_act control' state' log' hf' hact',
    hargs]
  generalize action plan.steps _ _ = result at hown haligned
  generalize action plan'.steps _ _ = result' at haligned
  cases haligned with
  | error fault =>
    exact .stop (Fault.Aligned.sectionEnd (.own (hown fault rfl)) hb hlt hkept hop _ _)
  | ok hnext => exact .go hnext

private theorem Plan.dispatch_aligned_fork (ha : Aligned first stop place state state')
    (hlt : state.progress < state.scopeEnd)
    (hkept : place (state.progress + 1) = place state.progress + 1) {step step' : Step}
    (hop : step'.operation = step.operation) (hargs : state'.argsFor step' = state.argsFor step)
    (hf : (plan.registry.operation step.operation).descriptor.flowControl = true)
    (hf' : (plan'.registry.operation step'.operation).descriptor.flowControl = true)
    (hact : (plan.registry.operation step.operation).flow = .fork)
    (hact' : (plan'.registry.operation step'.operation).flow = .fork) (log log' : Log) :
    (plan.dispatch control step state log).Aligned first stop place
      (plan'.dispatch control' step' state' log') := by
  have hb := ha.inPhase .branching .branching
  have hparts : state'.forkParts (state.argsFor step) = state.forkParts (state.argsFor step) := by
    simp only [State.forkParts, ha.text]
  have hown := (Flow.plainFaults_forkParts state (state.argsFor step)).own
  rw [Plan.dispatch_fork control state log hf hact, Plan.dispatch_fork control' state' log' hf' hact',
    hargs, hparts]
  cases hp : state.forkParts (state.argsFor step) with
  | error fault =>
    exact .stop (Fault.Aligned.sectionEnd (.own (hown fault hp)) hb hlt hkept hop _ _)
  | ok parts => exact .fork hop

private theorem Plan.dispatch_aligned_transform (hc : control.Uncancelled)
    (hc' : control'.Uncancelled) (ha : Aligned first stop place state state')
    (hlt : state.progress < state.scopeEnd)
    (hkept : place (state.progress + 1) = place state.progress + 1) {step step' : Step}
    (hop : step'.operation = step.operation) (hargs : state'.argsFor step' = state.argsFor step)
    {operation : Operation} (hsteady : operation.Steady)
    (hf : operation.descriptor.flowControl = false)
    (hr : plan.registry.operation step.operation = operation)
    (hr' : plan'.registry.operation step'.operation = operation) (log log' : Log) :
    (plan.dispatch control step state log).Aligned first stop place
      (plan'.dispatch control' step' state' log') := by
  have huncancelled : (Plan.context control step state).control.Uncancelled := hc
  have huncancelled' : (Plan.context control' step' state').control.Uncancelled := hc'
  rw [Plan.dispatch_transform control state log (hr ▸ hf),
    Plan.dispatch_transform control' state' log' (hr' ▸ hf), hr, hr', hargs, ha.dish]
  generalize plan.announced control step state log = announced
  generalize plan'.announced control' step' state' log' = announced'
  have hown : OwnFaults (operation.bake (Plan.context control step state) (state.argsFor step)
      state.dish announced).1 := hsteady.ownFaults_bake _ _ _
  have heq := hsteady.bake_fst (state.argsFor step) state.dish announced announced' huncancelled
    huncancelled'
  revert hown heq
  rcases operation.bake _ _ _ announced with ⟨result, next⟩
  rcases operation.bake _ _ _ announced' with ⟨result', next'⟩
  rintro hown rfl
  cases result with
  | error fault => exact .stop (Fault.Aligned.sectionEnd (.own (hown fault rfl)) ha hlt hkept hop _ _)
  | ok dish => exact .go { ha.advance hlt hkept with dish := rfl }

/-- A step that is dispatched at both of its places makes the same move. -/
theorem Plan.dispatch_aligned (T : Thinning plan.steps plan'.steps first stop place)
    (hr : plan.registry = .builtIn) (hr' : plan'.registry = .builtIn) (hc : control.Uncancelled)
    (hc' : control'.Uncancelled) (ha : Aligned first stop place state state')
    (hlt : state.progress < state.scopeEnd)
    (hkept : place (state.progress + 1) = place state.progress + 1) (step : Step) (index : Nat)
    (breakpoint : Bool) (log log' : Log) :
    (plan.dispatch control step state log).Aligned first stop place
      (plan'.dispatch control' { step with index, breakpoint } state' log') := by
  have hargs : state'.argsFor { step with index, breakpoint } = state.argsFor step := by
    simp only [State.argsFor, ha.registers]
  have hname : ({ step with index, breakpoint } : Step).operation = step.operation := rfl
  have hop : plan.registry.operation step.operation = Registry.builtIn.operation step.operation := by
    rw [hr]
  have hop' : plan'.registry.operation step.operation =
      Registry.builtIn.operation step.operation := by
    rw [hr']
  rcases Registry.builtIn_cases step.operation with hfork | ⟨hflow, action, hact, haction⟩ |
    ⟨hflow, hsteady⟩
  · rw [hfork] at hop hop'
    exact dispatch_aligned_fork ha hlt hkept hname hargs (by rw [hop]; rfl) (by rw [hop']; rfl)
      (by rw [hop]; rfl) (by rw [hop']; rfl) log log'
  · exact dispatch_aligned_act T ha hlt hkept hname hargs haction (hop ▸ hflow) (hop' ▸ hflow)
      (hop ▸ hact) (hop' ▸ hact) log log'
  · exact dispatch_aligned_transform hc hc' ha hlt hkept hname hargs hsteady hflow hop hop' log log'

/-! ## Matches -/

/-- What the move of a run that may pause has to do with the move at an aligned state of a run over
the thinned steps without pauses. -/
inductive Plan.Matches (plan plan' : Plan) (control control' : Control) (first stop : Nat)
    (place : Nat → Nat) (startFrom startFrom' : Nat) (state state' : State) (log log' : Log) :
    Prop where
  | pauses : control.honourBreakpoints = true → startFrom < state.progress →
      state.progress < state.scopeEnd →
      plan.move control startFrom state log =
        .stop ⟨.ok (.paused state.progress), state.inPhase .paused, log⟩ →
      Matches plan plan' control control' first stop place startFrom startFrom' state state' log log'
  | idles (next : State) (log₁ : Log) : next.progress = state.progress + 1 →
      next.scopeStart = state.scopeStart → next.scopeEnd = state.scopeEnd →
      Aligned first stop place next state' →
      plan.move control startFrom state log = .go next log₁ →
      Matches plan plan' control control' first stop place startFrom startFrom' state state' log log'
  | moves : (state.progress < state.scopeEnd → place (state.progress + 1) = place state.progress + 1) →
      (plan.move control startFrom state log).Aligned first stop place
        (plan'.move control' startFrom' state' log') →
      Matches plan plan' control control' first stop place startFrom startFrom' state state' log log'

private theorem State.turn_of_lt {steps : List Step} {step : Step} (hc : control.Uncancelled)
    (hlt : state.progress < state.scopeEnd) (hs : steps[state.progress]? = some step)
    (startFrom : Nat) (log : Log) :
    state.turn steps control startFrom log =
      if step.disabled then .skip
      else if step.breakpoint && control.honourBreakpoints &&
        decide (startFrom < state.progress) then .pause
      else .dispatch step := by
  rw [State.turn, if_neg (Nat.not_le.mpr hlt), hs]
  simp only [hc.isCancelled, Bool.false_eq_true, if_false]

private theorem Plan.dispatch_comment (hr : plan.registry = .builtIn) {step : Step}
    (hs : step.operation = Flow.comment.name) (log : Log) :
    ∃ log₁, plan.dispatch control step state log =
      .go ((state.inPhase .branching).inPhase .running).advance log₁ := by
  have hmem : Flow.comment ∈ Flow.operations := by simp [Flow.operations]
  have hact : Flow.comment.flow = .act Flow.stay := rfl
  exact ⟨_, Plan.dispatch_action control state log hr hmem hs hact⟩

private theorem Plan.matches_idle (hr : plan.registry = .builtIn) (hc : control.Uncancelled)
    (ha : Aligned first stop place state state') (hlt : state.progress < state.scopeEnd)
    (hplace : place (state.progress + 1) = place state.progress) {step : Step}
    (hs : plan.steps[state.progress]? = some step) (hidle : step.isIdle = true)
    (startFrom startFrom' : Nat) (log log' : Log)
    (hpause : state.turn plan.steps control startFrom log ≠ .pause) :
    plan.Matches plan' control control' first stop place startFrom startFrom' state state' log
      log' := by
  have hturn := State.turn_of_lt hc hlt hs startFrom log
  cases hd : step.disabled with
  | true =>
    rw [hd, if_pos rfl] at hturn
    exact .idles state.advance log rfl rfl rfl (ha.advance_idle hlt hplace)
      (by rw [Plan.move, hturn])
  | false =>
    have hname : step.operation = Flow.comment.name := by simpa [Step.isIdle, hd] using hidle
    have hdispatch : state.turn plan.steps control startFrom log = .dispatch step := by
      rw [hturn] at hpause ⊢
      rw [hd, if_neg Bool.false_ne_true] at hpause ⊢
      split at hpause
      · exact absurd rfl hpause
      · rename_i h
        rw [if_neg h]
    obtain ⟨log₁, hmove⟩ := Plan.dispatch_comment hr hname log
    have hb := (ha.inPhase .branching .branching).inPhase .running state'.phase
    refine .idles ((state.inPhase .branching).inPhase .running).advance log₁ rfl rfl rfl
      (hb.advance_idle hlt hplace) ?_
    rw [Plan.move, hdispatch]
    exact hmove

private theorem Plan.matches_kept (T : Thinning plan.steps plan'.steps first stop place)
    (hr : plan.registry = .builtIn) (hr' : plan'.registry = .builtIn) (hc : control.Uncancelled)
    (hc' : control'.Unhindered) (ha : Aligned first stop place state state')
    (hlt : state.progress < state.scopeEnd)
    (hkept : place (state.progress + 1) = place state.progress + 1) {step : Step} {index : Nat}
    {breakpoint : Bool} (hs : plan.steps[state.progress]? = some step)
    (hs' : plan'.steps[place state.progress]? = some { step with index, breakpoint })
    (startFrom startFrom' : Nat) (log log' : Log)
    (hpause : state.turn plan.steps control startFrom log ≠ .pause) :
    plan.Matches plan' control control' first stop place startFrom startFrom' state state' log
      log' := by
  have hturn := State.turn_of_lt hc hlt hs startFrom log
  rw [← ha.progress] at hs'
  have hturn' := State.turn_of_lt hc'.uncancelled (ha.lt_end T hlt hkept) hs' startFrom' log'
  rw [hc'.honourBreakpoints, Bool.and_false, Bool.false_and, if_neg Bool.false_ne_true] at hturn'
  refine .moves (fun _ => hkept) ?_
  cases hd : step.disabled with
  | true =>
    simp only [hd, if_true] at hturn hturn'
    rw [Plan.move, Plan.move, hturn, hturn']
    exact .go (ha.advance hlt hkept)
  | false =>
    rw [if_neg (by simp [hd])] at hturn hturn'
    split at hturn
    · exact absurd hturn hpause
    · rw [Plan.move, Plan.move, hturn, hturn']
      exact Plan.dispatch_aligned T hr hr' hc hc'.uncancelled ha hlt hkept step index breakpoint
        log log'

/-- Each move of a run that may pause is matched. -/
theorem Aligned.matches (T : Thinning plan.steps plan'.steps first stop place)
    (hr : plan.registry = .builtIn) (hr' : plan'.registry = .builtIn) (hc : control.Uncancelled)
    (hc' : control'.Unhindered) (ha : Aligned first stop place state state')
    (startFrom startFrom' : Nat) (log log' : Log) :
    plan.Matches plan' control control' first stop place startFrom startFrom' state state' log
      log' := by
  by_cases hlt : state.progress < state.scopeEnd
  · have hfirst := Nat.le_trans ha.first_le ha.start_le
    have hstop := Nat.lt_of_lt_of_le hlt ha.end_le
    obtain ⟨step, hs, hcases⟩ := T.kept_or_idle state.progress hfirst hstop
    by_cases hpause : state.turn plan.steps control startFrom log = .pause
    · have hturn := (State.turn_of_lt hc hlt hs startFrom log).symm.trans hpause
      split at hturn
      · simp at hturn
      · split at hturn
        · rename_i h
          simp only [Bool.and_eq_true, decide_eq_true_eq] at h
          exact .pauses h.1.2 h.2 hlt (by rw [Plan.move, hpause])
        · simp at hturn
    · rcases hcases with ⟨hkept, index, breakpoint, hs'⟩ | ⟨hplace, hidle⟩
      · exact Plan.matches_kept T hr hr' hc hc' ha hlt hkept hs hs' startFrom startFrom' log log'
          hpause
      · exact Plan.matches_idle hr hc ha hlt hplace hs hidle startFrom startFrom' log log' hpause
  · have hend : state.progress = state.scopeEnd := Nat.le_antisymm ha.le_end (Nat.not_lt.mp hlt)
    have hend' : state'.scopeEnd ≤ state'.progress :=
      Nat.le_of_eq (by rw [ha.scopeEnd, ha.progress, hend])
    refine .moves (fun h => absurd h hlt) ?_
    rw [Plan.move, Plan.move, State.turn, State.turn, if_pos (Nat.not_lt.mp hlt), if_pos hend']
    exact .stop (.completed ha hend)

end Moves
end Kitchen
