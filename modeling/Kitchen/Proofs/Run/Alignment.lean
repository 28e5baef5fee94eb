import Kitchen.Proofs.Run.Thinning

/-!
# Alignment

A state in the range of a thinning and a state over the thinned steps are aligned if they differ in
their places only. A move keeps them aligned: an idle step moves the first of them alone, and at any
other step both make the same move.
-/

namespace Kitchen

/-- The states differ in their places only, and the first stands in the range. -/
structure Aligned (first stop : Nat) (place : Nat → Nat) (state state' : State) : Prop where
  first_le : first ≤ state.scopeStart
  start_le : state.scopeStart ≤ state.progress
  le_end : state.progress ≤ state.scopeEnd
  end_le : state.scopeEnd ≤ stop
  progress : state'.progress = place state.progress
  scopeStart : state'.scopeStart = place state.scopeStart
  scopeEnd : state'.scopeEnd = place state.scopeEnd
  dish : state'.dish = state.dish
  jumpsTaken : state'.jumpsTaken = state.jumpsTaken
  registers : state'.registers = state.registers

/-- The failures differ in their places only, and the failing step has been kept. -/
structure Failure.Aligned (first stop : Nat) (place : Nat → Nat) (failure failure' : Failure) :
    Prop where
  first_le : first ≤ failure.step
  lt_stop : failure.step < stop
  kept : place (failure.step + 1) = place failure.step + 1
  eq : failure' = { failure with step := place failure.step }

/-- The faults are the same, but for the place of a failure in a branch. -/
inductive Fault.Aligned (first stop : Nat) (place : Nat → Nat) : Fault → Fault → Prop where
  | own {fault : Fault} : fault.IsOwn → Fault.Aligned first stop place fault fault
  | branch {failure failure' : Failure} : failure.Aligned first stop place failure' →
      Fault.Aligned first stop place (.branch failure) (.branch failure')

/-- Two runs that do not pause came to the same end. -/
inductive SectionEnd.Aligned (first stop : Nat) (place : Nat → Nat) :
    SectionEnd → SectionEnd → Prop where
  | completed {state state' : State} {log log' : Log} :
      Kitchen.Aligned first stop place state state' → state.progress = state.scopeEnd →
      SectionEnd.Aligned first stop place ⟨.ok .completed, state, log⟩ ⟨.ok .completed, state', log'⟩
  | failed {failure failure' : Failure} {state state' : State} {log log' : Log} :
      Kitchen.Aligned first stop place state state' → failure.Aligned first stop place failure' →
      SectionEnd.Aligned first stop place ⟨.error failure, state, log⟩ ⟨.error failure', state', log'⟩

/-- Two moves do the same. -/
inductive Move.Aligned (first stop : Nat) (place : Nat → Nat) : Move → Move → Prop where
  | stop {finished finished' : SectionEnd} : finished.Aligned first stop place finished' →
      Move.Aligned first stop place (.stop finished) (.stop finished')
  | go {state state' : State} {log log' : Log} : Kitchen.Aligned first stop place state state' →
      Move.Aligned first stop place (.go state log) (.go state' log')
  | fork {step step' : Step} {split : Split} {log log' : Log} :
      step'.operation = step.operation →
      Move.Aligned first stop place (.fork step split log) (.fork step' split log')

/-- States at the start of a range and of its thinning are aligned. -/
theorem aligned_branch {first stop : Nat} {place : Nat → Nat} {a b : Nat} (ha : first ≤ a)
    (hab : a ≤ b) (hb : b ≤ stop) (state : State) (dish : Dish) :
    Aligned first stop place (state.branch dish a b) (state.branch dish (place a) (place b)) :=
  ⟨ha, Nat.le_refl _, hab, hb, rfl, rfl, rfl, rfl, rfl, rfl⟩

namespace Aligned

variable {steps thinned : List Step} {first stop : Nat} {place : Nat → Nat} {state state' : State}

/-- Aligned states stay aligned under a common change inside the scope. -/
theorem update (ha : Aligned first stop place state state') {i : Nat} (hi : state.scopeStart ≤ i)
    (hi' : i ≤ state.scopeEnd) (dish : Dish) (jumpsTaken : Nat) (registers : Registers)
    (phase phase' : Phase) :
    Aligned first stop place
      { state with progress := i, dish, jumpsTaken, registers, phase }
      { state' with progress := place i, dish, jumpsTaken, registers, phase := phase' } where
  first_le := ha.first_le
  start_le := hi
  le_end := hi'
  end_le := ha.end_le
  progress := rfl
  scopeStart := ha.scopeStart
  scopeEnd := ha.scopeEnd
  dish := rfl
  jumpsTaken := rfl
  registers := rfl

theorem inPhase (ha : Aligned first stop place state state') (phase phase' : Phase) :
    Aligned first stop place (state.inPhase phase) (state'.inPhase phase') :=
  { ha with }

/-- States at the same place are aligned both ways. -/
theorem symm_id (ha : Aligned first stop id state state') : Aligned first stop id state' state where
  first_le := ha.scopeStart ▸ ha.first_le
  start_le := by
    rw [ha.scopeStart, ha.progress]
    exact ha.start_le
  le_end := by
    rw [ha.scopeEnd, ha.progress]
    exact ha.le_end
  end_le := ha.scopeEnd ▸ ha.end_le
  progress := ha.progress.symm
  scopeStart := ha.scopeStart.symm
  scopeEnd := ha.scopeEnd.symm
  dish := ha.dish.symm
  jumpsTaken := ha.jumpsTaken.symm
  registers := ha.registers.symm

theorem text (ha : Aligned first stop place state state') : state'.text = state.text := by
  simp [State.text, ha.dish]

/-- The cursor stands on a step that has been kept. -/
theorem advance (ha : Aligned first stop place state state')
    (hlt : state.progress < state.scopeEnd)
    (hkept : place (state.progress + 1) = place state.progress + 1) :
    Aligned first stop place state.advance state'.advance :=
  { ha with
    start_le := Nat.le_succ_of_le ha.start_le
    le_end := hlt
    progress := by simp [State.advance, ha.progress, hkept] }

/-- The cursor stands on a step that has been left out. -/
theorem advance_idle (ha : Aligned first stop place state state')
    (hlt : state.progress < state.scopeEnd)
    (hidle : place (state.progress + 1) = place state.progress) :
    Aligned first stop place state.advance state' :=
  { ha with
    start_le := Nat.le_succ_of_le ha.start_le
    le_end := hlt
    progress := by simp [State.advance, ha.progress, hidle] }

/-- The cursor of the second state is inside its scope where a kept step stands at that of the
first. -/
theorem lt_end (ha : Aligned first stop place state state')
    (T : Thinning steps thinned first stop place) (hlt : state.progress < state.scopeEnd)
    (hkept : place (state.progress + 1) = place state.progress + 1) :
    state'.progress < state'.scopeEnd := by
  have hfirst := Nat.le_trans ha.first_le ha.start_le
  have hmono := T.place_mono (i := state.progress + 1) (j := state.scopeEnd) (by omega) hlt ha.end_le
  rw [ha.progress, ha.scopeEnd]
  omega

/-! ## Jumps and forks -/

theorem findLabel? (ha : Aligned first stop place state state')
    (T : Thinning steps thinned first stop place) (name : String) :
    state'.findLabel? thinned name = (state.findLabel? steps name).map place ∧
      ∀ i, state.findLabel? steps name = some i →
        state.scopeStart ≤ i ∧ i < state.scopeEnd ∧ place (i + 1) = place i + 1 := by
  obtain ⟨heq, hkept⟩ := T.findStep?_place (Step.lasting_isLabel name) ha.first_le
    (Nat.le_trans ha.start_le ha.le_end) ha.end_le
  refine ⟨?_, fun i hi => ?_⟩
  · rw [State.findLabel?, State.findLabel?, ha.scopeStart, ha.scopeEnd, heq]
  · obtain ⟨hstart, hend, _⟩ := findStep?_eq_some hi
    exact ⟨hstart, hend, hkept i hi⟩

theorem findMerge? (ha : Aligned first stop place state state')
    (T : Thinning steps thinned first stop place) (hlt : state.progress < state.scopeEnd)
    (hkept : place (state.progress + 1) = place state.progress + 1) :
    state'.findMerge? thinned state'.progress = (state.findMerge? steps state.progress).map place ∧
      ∀ i, state.findMerge? steps state.progress = some i →
        state.progress + 1 ≤ i ∧ i < state.scopeEnd ∧ place (i + 1) = place i + 1 := by
  have hfirst := Nat.le_trans ha.first_le ha.start_le
  obtain ⟨heq, hkept'⟩ := T.findStep?_place Step.lasting_isMerge
    (a := state.progress + 1) (b := state.scopeEnd) (by omega) hlt ha.end_le
  refine ⟨?_, fun i hi => ?_⟩
  · rw [State.findMerge?, State.findMerge?, ha.progress, ha.scopeEnd, ← hkept, heq]
  · obtain ⟨hstart, hend, _⟩ := findStep?_eq_some hi
    exact ⟨hstart, hend, hkept' i hi⟩

theorem branchOn (ha : Aligned first stop place state state')
    (T : Thinning steps thinned first stop place) (hlt : state.progress < state.scopeEnd)
    (hkept : place (state.progress + 1) = place state.progress + 1) (piece : String) :
    Aligned first stop place (state.branchOn steps piece) (state'.branchOn thinned piece) := by
  have hfirst := Nat.le_trans ha.first_le ha.start_le
  obtain ⟨heq, hrange⟩ := ha.findMerge? T hlt hkept
  have hstart : state'.progress + 1 = place (state.progress + 1) := by rw [ha.progress, hkept]
  have hbranch {a b : Nat} : state'.branch (.string piece) a b = state.branch (.string piece) a b := by
    simp [State.branch, ha.registers]
  simp only [State.branchOn, State.forkSection, heq, hstart, hbranch]
  cases hm : state.findMerge? steps state.progress with
  | none =>
    rw [Option.map_none, Option.getD_none, Option.getD_none, ha.scopeEnd]
    exact aligned_branch (by omega) hlt ha.end_le state _
  | some merge =>
    obtain ⟨hle, hend, _⟩ := hrange merge hm
    have hstop := ha.end_le
    rw [Option.map_some, Option.getD_some, Option.getD_some]
    exact aligned_branch (by omega) hle (by omega) state _

theorem joined (ha : Aligned first stop place state state')
    (T : Thinning steps thinned first stop place) (hlt : state.progress < state.scopeEnd)
    (hkept : place (state.progress + 1) = place state.progress + 1) (split : Split)
    (outputs : List String) :
    Aligned first stop place (state.joined steps split outputs)
      (state'.joined thinned split outputs) := by
  have hstart := ha.start_le
  obtain ⟨heq, hrange⟩ := ha.findMerge? T hlt hkept
  cases hm : state.findMerge? steps state.progress with
  | none =>
    have hlt' := ha.lt_end T hlt hkept
    have hafter : state.afterFork steps + 1 = state.scopeEnd := by
      simp only [State.afterFork, hm, Option.getD_none]
      omega
    have hafter' : state'.afterFork thinned + 1 = place state.scopeEnd := by
      simp only [State.afterFork, heq, hm, Option.map_none, Option.getD_none]
      rw [← ha.scopeEnd]
      omega
    simp only [State.joined, hafter, hafter', ha.jumpsTaken, ha.registers]
    exact ha.update (by omega) (Nat.le_refl _) _ _ _ _ _
  | some merge =>
    obtain ⟨hle, hend, hplace⟩ := hrange merge hm
    simp only [State.joined, State.afterFork, heq, hm, Option.map_some, Option.getD_some,
      ha.jumpsTaken, ha.registers, ← hplace]
    exact ha.update (by omega) hend _ _ _ _ _

end Aligned

/-! ## Actions -/

section Actions

variable {steps thinned : List Step} {first stop : Nat} {place : Nat → Nat} {state state' : State}

/-- Two results of an action are the same fault, or states that are aligned behind the step. -/
inductive ActionAligned (first stop : Nat) (place : Nat → Nat) :
    Except Fault State → Except Fault State → Prop where
  | error (fault : Fault) : ActionAligned first stop place (.error fault) (.error fault)
  | ok {next next' : State} :
      Aligned first stop place (next.inPhase .running).advance (next'.inPhase .running).advance →
      ActionAligned first stop place (.ok next) (.ok next')

private theorem fallThrough_aligned (ha : Aligned first stop place state state')
    (hlt : state.progress < state.scopeEnd)
    (hkept : place (state.progress + 1) = place state.progress + 1) :
    Aligned first stop place ((Flow.fallThrough state).inPhase .running).advance
      ((Flow.fallThrough state').inPhase .running).advance :=
  { ha.advance hlt hkept with jumpsTaken := rfl }

private theorem jumpTo_aligned (ha : Aligned first stop place state state')
    (T : Thinning steps thinned first stop place) (hlt : state.progress < state.scopeEnd)
    (hkept : place (state.progress + 1) = place state.progress + 1) (name : String) (maxJumps : Nat) :
    Aligned first stop place ((Flow.jumpTo steps name maxJumps state).inPhase .running).advance
      ((Flow.jumpTo thinned name maxJumps state').inPhase .running).advance := by
  obtain ⟨heq, hrange⟩ := ha.findLabel? T name
  unfold Flow.jumpTo
  rw [heq]
  cases hl : state.findLabel? steps name with
  | none => exact fallThrough_aligned ha hlt hkept
  | some target =>
    obtain ⟨hstart, hend, hplace⟩ := hrange target hl
    dsimp only [Option.map_some]
    rw [ha.jumpsTaken]
    by_cases hj : state.jumpsTaken < maxJumps
    · rw [if_pos hj, if_pos hj]
      simp only [State.inPhase, State.advance, ← hplace, ha.dish, ha.registers]
      exact ha.update (by omega) hend _ _ _ _ _
    · rw [if_neg hj, if_neg hj]
      exact fallThrough_aligned ha hlt hkept

/-- At a common step an action does the same to both states. -/
theorem Flow.IsAction.aligned {action : FlowAction} (h : Flow.IsAction action)
    (ha : Aligned first stop place state state') (T : Thinning steps thinned first stop place)
    (hlt : state.progress < state.scopeEnd)
    (hkept : place (state.progress + 1) = place state.progress + 1) (args : List Argument) :
    ActionAligned first stop place (action steps args state) (action thinned args state') := by
  cases h with
  | stay => exact .ok ((ha.inPhase _ _).advance hlt hkept)
  | jump => exact .ok (jumpTo_aligned ha T hlt hkept _ _)
  | conditionalJump =>
    unfold Flow.conditionalJumpAction
    dsimp only
    by_cases hempty : (textAt args 0).isEmpty = true
    · rw [if_pos hempty, if_pos hempty]
      exact .ok (fallThrough_aligned ha hlt hkept)
    · rw [if_neg hempty, if_neg hempty, ha.text]
      cases state.text with
      | error fault => exact .error fault
      | ok text =>
        cases Flow.compile .default (textAt args 0) with
        | error fault => exact .error fault
        | ok matcher =>
          change ActionAligned first stop place
            (if (matcher.isMatch text != boolAt args 1) = true then _ else _)
            (if (matcher.isMatch text != boolAt args 1) = true then _ else _)
          split
          · exact .ok (jumpTo_aligned ha T hlt hkept _ _)
          · exact .ok (fallThrough_aligned ha hlt hkept)
  | register =>
    unfold Flow.registerAction
    dsimp only
    cases Flow.compile _ (textAt args 0) with
    | error fault => exact .error fault
    | ok matcher =>
      rw [ha.text]
      cases state.text with
      | error fault => exact .error fault
      | ok text =>
        dsimp only [bind, Except.bind]
        cases matcher.captures? text with
        | none => exact .ok ((ha.inPhase _ _).advance hlt hkept)
        | some groups =>
          rw [ha.registers]
          exact .ok { ha.advance hlt hkept with registers := rfl }
  | leave =>
    have hstart := ha.start_le
    have hlt' := ha.lt_end T hlt hkept
    refine .ok ?_
    have hend : max (state.scopeEnd - 1) state.progress + 1 = state.scopeEnd := by omega
    have hend' : max (state'.scopeEnd - 1) state'.progress + 1 = place state.scopeEnd := by
      rw [← ha.scopeEnd]
      omega
    simp only [State.inPhase, State.advance, hend, hend', ha.dish, ha.jumpsTaken, ha.registers]
    exact ha.update (by omega) (Nat.le_refl _) _ _ _ _ _

end Actions
end Kitchen
