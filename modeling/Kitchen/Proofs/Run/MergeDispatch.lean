import Kitchen.Proofs.Run.Promptness
import Kitchen.Proofs.Run.Scope

/-!
# Dispatched merges

A move dispatches the step at the cursor and no other. So a run dispatches no merge in a scope that has
none, and neither do the branches of its forks, whose sections end before the first merge.
-/

namespace Kitchen

theorem Log.Quiet.mem_dispatched {log log' : Log} (h : Quiet log log') {n : Nat}
    {operation : String} : .dispatched n operation ∈ log' ↔ .dispatched n operation ∈ log := by
  obtain ⟨events, rfl, hevents⟩ := h
  refine ⟨fun hmem => ?_, List.mem_append_right events⟩
  rcases List.mem_append.mp hmem with hmem | hmem
  · have hquiet := hevents _ hmem
    simp [operationOf?] at hquiet
  · exact hmem

namespace Plan

variable {plan : Plan} {stage : Stage}

theorem mem_announced {control : Control} {step : Step} {state : State} {log : Log} {n : Nat}
    {operation : String} :
    .dispatched n operation ∈ plan.announced control step state log ↔
      .dispatched n operation ∈ log ∨ n = state.progress ∧ operation = step.operation := by
  rcases plan.announced_cases control step state log with h | ⟨update, _, _, h⟩
  · rw [h]
    simp [or_comm]
  · rw [h]
    simp [or_comm]

/-- A move dispatches the step at the cursor. -/
theorem mem_log_moveAt (hr : plan.registry = .builtIn) {n : Nat} {operation : String} :
    .dispatched n operation ∈ (plan.moveAt stage).log ↔ .dispatched n operation ∈ stage.log ∨
      n = stage.state.progress ∧
        ∃ step, plan.turnAt stage = .dispatch step ∧ step.operation = operation := by
  rw [moveAt_eq]
  cases plan.turnAt stage with
  | finish => simp [Move.log]
  | cancel step => simp [Move.log]
  | skip => simp [Move.log]
  | pause => simp [Move.log]
  | dispatch step =>
    dsimp only
    have hsteps : (n = stage.state.progress ∧
        ∃ other, Turn.dispatch step = .dispatch other ∧ other.operation = operation) ↔
          n = stage.state.progress ∧ operation = step.operation := by
      constructor
      · rintro ⟨hn, other, hother, rfl⟩
        cases hother
        exact ⟨hn, rfl⟩
      · rintro ⟨hn, rfl⟩
        exact ⟨hn, step, rfl, rfl⟩
    rw [hsteps, ← @mem_announced plan stage.control]
    have hdispatched := dispatched_of_builtIn hr stage.control step stage.state stage.log
    generalize plan.dispatch stage.control step stage.state stage.log = move at hdispatched
    cases hdispatched with
    | acts next => exact Iff.rfl
    | bakes dish hquiet _ _ => exact hquiet.mem_dispatched
    | forks split _ => exact Iff.rfl
    | faults phase _ hquiet _ _ _ => exact hquiet.mem_dispatched

/-- The step at the cursor of a scope without merges is none. -/
private theorem mem_merge_move {control : Control} {startFrom : Nat} {state : State} {log : Log}
    (hr : plan.registry = .builtIn) (hin : state.InScope plan.steps)
    (hm : state.Mergeless plan.steps) (n : Nat) :
    .dispatched n mergeName ∈ (plan.move control startFrom state log).log ↔
      .dispatched n mergeName ∈ log := by
  refine (@mem_log_moveAt plan ⟨control, startFrom, state, log⟩ hr n mergeName).trans
    (or_iff_left ?_)
  rintro ⟨_, step, hturn, hmerge⟩
  obtain ⟨hlt, hstep, henabled⟩ := State.of_turn_dispatch hturn
  have hnot := hm _ step hin.start_le hlt hstep
  rw [Step.isMerge, henabled, hmerge] at hnot
  exact absurd hnot (by decide)

/-- In a scope without merges none is dispatched, and none in the branches of its forks. -/
theorem Ends.mem_merge_iff {control : Control} {startFrom : Nat} {state : State} {log : Log}
    {finished : SectionEnd} (h : plan.Ends control startFrom state log finished)
    (hr : plan.registry = .builtIn) (hin : state.InScope plan.steps)
    (hm : state.Mergeless plan.steps) (n : Nat) :
    .dispatched n mergeName ∈ finished.log ↔ .dispatched n mergeName ∈ log := by
  induction h using Plan.Ends.induct with
  | @stop control startFrom state log finished hmove =>
    have hlast := @mem_merge_move plan control startFrom state log hr hin hm n
    rwa [hmove] at hlast
  | @go control startFrom state log next log₁ finished hmove _ ih =>
    have hnext := @mem_merge_move plan control startFrom state log hr hin hm n
    rw [hmove] at hnext
    obtain ⟨hlt, _, _, hmoved⟩ := moved_of_move_go hr hmove
    refine (ih (hin.moved hmoved hlt) fun i step hi hi' hstep => ?_).trans hnext
    exact hm i step (hmoved.scope.1 ▸ hi) (hmoved.scope.2 ▸ hi') hstep
  | @forkFails control startFrom state log step split log₁ fault log₂ hmove hbranches =>
    have hnext := @mem_merge_move plan control startFrom state log hr hin hm n
    rw [hmove] at hnext
    have hlt := lt_of_move_fork hmove
    exact hbranches.log_property (fun piece _ _ ⟨_, ih⟩ hq =>
      (ih (hin.branchOn hlt piece) (state.mergeless_branchOn plan.steps piece)).trans hq) hnext
  | @forkJoins control startFrom state log step split log₁ outputs log₂ finished hmove hbranches _
      ih =>
    have hnext := @mem_merge_move plan control startFrom state log hr hin hm n
    rw [hmove] at hnext
    have hlt := lt_of_move_fork hmove
    have hlast : .dispatched n mergeName ∈ log₂ ↔ .dispatched n mergeName ∈ log :=
      hbranches.log_property (fun piece _ _ ⟨_, ih⟩ hq =>
        (ih (hin.branchOn hlt piece) (state.mergeless_branchOn plan.steps piece)).trans hq) hnext
    exact (ih (hin.joined hlt split outputs) hm).trans hlast

end Plan
end Kitchen
