import Kitchen.Proofs.Operation.Steering
import Kitchen.Proofs.Run.Thinning

/-!
# Progress of moves

A move takes place inside the scope and leaves the scope as it is. Only a jump that is taken moves
the cursor back, and it raises the count of jumps; only a jump that is not taken lowers the count.
-/

namespace Kitchen

/-- What a move that goes on does at a step to the cursor and the count of jumps. -/
inductive State.Moved (steps : List Step) (state : State) (step : Step) : State → Prop where
  | onward {next : State} : state.progress < next.progress → next.progress ≤ state.scopeEnd →
      next.jumpsTaken = state.jumpsTaken → next.scopeStart = state.scopeStart →
      next.scopeEnd = state.scopeEnd → Moved steps state step next
  | fallsThrough {next : State} {i : Nat} : step.disabled = false →
      Flow.labelPosition? step.operation = some i → next.progress = state.progress + 1 →
      next.jumpsTaken = 0 → next.scopeStart = state.scopeStart →
      next.scopeEnd = state.scopeEnd → Moved steps state step next
  | jumpsTo {next : State} {i target : Nat} : step.disabled = false →
      Flow.labelPosition? step.operation = some i →
      state.findLabel? steps (textAt (state.argsFor step) i) = some target →
      state.jumpsTaken < twoTo 32 - 1 → next.progress = target + 1 →
      next.jumpsTaken = state.jumpsTaken + 1 → next.scopeStart = state.scopeStart →
      next.scopeEnd = state.scopeEnd → Moved steps state step next

theorem State.Moved.scope {steps : List Step} {state next : State} {step : Step}
    (h : state.Moved steps step next) :
    next.scopeStart = state.scopeStart ∧ next.scopeEnd = state.scopeEnd := by
  cases h <;> exact ⟨‹_›, ‹_›⟩

namespace Plan

variable {plan : Plan} {control : Control} {startFrom : Nat} {state next : State}
  {log log₁ : Log} {step : Step} {split : Split}

private theorem moved_of_effect {steered : State} (hlt : state.progress < state.scopeEnd)
    (hd : step.disabled = false)
    (h : Flow.Effect plan.steps (state.inPhase .branching)
      ((Flow.labelPosition? step.operation).map (textAt (state.argsFor step))) steered) :
    state.Moved plan.steps step (steered.inPhase .running).advance := by
  cases h with
  | onward _ hle hmax hjumps hstart hend =>
    have hle' : state.progress ≤ steered.progress := hle
    have hmax' : steered.progress ≤ max (state.scopeEnd - 1) state.progress := hmax
    refine .onward ?_ ?_ hjumps hstart hend
    · exact Nat.lt_succ_of_le hle'
    · change steered.progress + 1 ≤ state.scopeEnd
      omega
  | fallsThrough hlabel =>
    obtain ⟨i, hi, _⟩ := Option.map_eq_some_iff.mp hlabel
    exact .fallsThrough hd hi rfl rfl rfl rfl
  | jumpsTo hlabel htarget hjumps hmax =>
    obtain ⟨i, hi, rfl⟩ := Option.map_eq_some_iff.mp hlabel
    exact .jumpsTo hd hi htarget (Nat.lt_of_lt_of_le hjumps hmax) rfl rfl rfl rfl

private theorem dispatch_go (hr : plan.registry = .builtIn) (hlt : state.progress < state.scopeEnd)
    (hd : step.disabled = false) (h : plan.dispatch control step state log = .go next log₁) :
    state.Moved plan.steps step next := by
  have hop : plan.registry.operation step.operation = Registry.builtIn.operation step.operation := by
    rw [hr]
  rcases Registry.builtIn_cases step.operation with hfork | ⟨hflow, action, hact, _⟩ | ⟨hflow, _⟩
  · rw [hfork] at hop
    rw [dispatch_fork control state log (by rw [hop]; rfl) (by rw [hop]; rfl)] at h
    split at h <;> simp at h
  · rw [dispatch_act control state log (hop ▸ hflow) (hop ▸ hact)] at h
    cases hn : action plan.steps (state.argsFor step) (state.inPhase .branching) with
    | error fault => simp [hn] at h
    | ok steered =>
      simp only [hn, Move.go.injEq] at h
      obtain ⟨rfl, rfl⟩ := h
      exact moved_of_effect hlt hd (Registry.effect_builtIn hflow hact hn)
  · rw [dispatch_transform control state log (hop ▸ hflow)] at h
    split at h
    · simp at h
    · simp only [Move.go.injEq] at h
      obtain ⟨rfl, rfl⟩ := h
      exact .onward (Nat.lt_succ_self _) hlt rfl rfl rfl

/-- A move that goes on is made at a step of the scope, in one of three ways. -/
theorem moved_of_move_go (hr : plan.registry = .builtIn)
    (h : plan.move control startFrom state log = .go next log₁) :
    state.progress < state.scopeEnd ∧
      ∃ step, plan.steps[state.progress]? = some step ∧ state.Moved plan.steps step next := by
  unfold move State.turn at h
  by_cases hlt : state.scopeEnd ≤ state.progress
  · simp [if_pos hlt] at h
  · rw [if_neg hlt] at h
    refine ⟨Nat.not_le.mp hlt, ?_⟩
    cases hs : plan.steps[state.progress]? with
    | none => simp [hs] at h
    | some step =>
      refine ⟨step, rfl, ?_⟩
      simp only [hs] at h
      by_cases hc : control.isCancelled log = true
      · simp [if_pos hc] at h
      · rw [if_neg hc] at h
        cases hd : step.disabled with
        | true =>
          simp only [hd, if_true, Move.go.injEq] at h
          obtain ⟨rfl, rfl⟩ := h
          exact .onward (Nat.lt_succ_self _) (Nat.not_le.mp hlt) rfl rfl rfl
        | false =>
          rw [hd, if_neg Bool.false_ne_true] at h
          by_cases hpause : (step.breakpoint && control.honourBreakpoints &&
              decide (startFrom < state.progress)) = true
          · rw [if_pos hpause] at h
            simp at h
          · rw [if_neg hpause] at h
            exact dispatch_go hr (Nat.not_le.mp hlt) hd h

/-- A move that stops leaves the state as it is, but for the phase. -/
theorem exists_inPhase_of_move_stop {finished : SectionEnd}
    (h : plan.move control startFrom state log = .stop finished) :
    ∃ phase, finished.state = state.inPhase phase := by
  have hsame : ∃ phase, state = state.inPhase phase := ⟨state.phase, rfl⟩
  unfold move at h
  split at h
  · obtain rfl := Move.stop.inj h
    exact hsame
  · obtain rfl := Move.stop.inj h
    exact hsame
  · simp at h
  · obtain rfl := Move.stop.inj h
    exact ⟨.paused, rfl⟩
  · rename_i step _
    cases hf : (plan.registry.operation step.operation).descriptor.flowControl with
    | false =>
      rw [dispatch_transform control state log hf] at h
      split at h
      · obtain rfl := Move.stop.inj h
        exact hsame
      · simp at h
    | true =>
      cases ha : (plan.registry.operation step.operation).flow with
      | act action =>
        rw [dispatch_act control state log hf ha] at h
        split at h
        · obtain rfl := Move.stop.inj h
          exact ⟨.branching, rfl⟩
        · simp at h
      | fork =>
        rw [dispatch_fork control state log hf ha] at h
        split at h
        · obtain rfl := Move.stop.inj h
          exact ⟨.branching, rfl⟩
        · simp at h

/-- A fork stands inside the scope. -/
theorem lt_of_move_fork (h : plan.move control startFrom state log = .fork step split log₁) :
    state.progress < state.scopeEnd := by
  by_cases hlt : state.progress < state.scopeEnd
  · exact hlt
  · rw [move, State.turn, if_pos (Nat.not_lt.mp hlt)] at h
    exact absurd h (by simp)

/-- A run leaves the scope as it was. -/
theorem Ends.scope {finished : SectionEnd} (h : plan.Ends control startFrom state log finished)
    (hr : plan.registry = .builtIn) :
    finished.state.scopeStart = state.scopeStart ∧ finished.state.scopeEnd = state.scopeEnd := by
  induction h using Plan.Ends.induct with
  | stop hmove =>
    obtain ⟨phase, hstate⟩ := exists_inPhase_of_move_stop hmove
    rw [hstate]
    exact ⟨rfl, rfl⟩
  | go hmove _ ih =>
    obtain ⟨_, _, _, hmoved⟩ := moved_of_move_go hr hmove
    exact ⟨ih.1.trans hmoved.scope.1, ih.2.trans hmoved.scope.2⟩
  | forkFails _ _ => exact ⟨rfl, rfl⟩
  | forkJoins _ _ _ ih => exact ih

end Plan

/-- The section of a fork lies behind it inside the scope. -/
theorem State.forkSection_bounds {state : State} (hlt : state.progress < state.scopeEnd)
    (steps : List Step) :
    (state.forkSection steps).1 ≤ (state.forkSection steps).2 ∧
      (state.forkSection steps).2 ≤ state.scopeEnd := by
  unfold State.forkSection
  cases hm : state.findMerge? steps state.progress with
  | none => exact ⟨hlt, Nat.le_refl _⟩
  | some merge =>
    obtain ⟨hle, hend, _⟩ := findStep?_eq_some hm
    exact ⟨hle, Nat.le_of_lt hend⟩

/-- Behind a fork the cursor has moved on inside the scope. -/
theorem State.joined_progress {state : State} (hlt : state.progress < state.scopeEnd)
    (steps : List Step) (split : Split) (outputs : List String) :
    state.progress < (state.joined steps split outputs).progress ∧
      (state.joined steps split outputs).progress ≤ state.scopeEnd := by
  change state.progress < state.afterFork steps + 1 ∧ state.afterFork steps + 1 ≤ state.scopeEnd
  unfold State.afterFork
  cases hm : state.findMerge? steps state.progress with
  | none =>
    rw [Option.getD_none]
    omega
  | some merge =>
    obtain ⟨hle, hend, _⟩ := findStep?_eq_some hm
    rw [Option.getD_some]
    omega

end Kitchen
