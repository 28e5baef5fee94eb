import Kitchen.Proofs.Recipe.Scope
import Kitchen.Proofs.Run.Failing
import Kitchen.Proofs.Run.MergeDispatch
import Kitchen.Proofs.Run.Tour
import Kitchen.Proofs.Validation.Forks

/-!
# Warnings about forks and merges

Where no step jumps, what validation says about forks and merges describes what a bake does in its own
scope. A run that completes comes to the same steps as the warnings do: it goes on behind the merge of
each fork, so a merge that it comes to is one without a fork, and dispatching it does nothing.
-/

namespace Kitchen

/-- No enabled step of the recipe moves the cursor by itself. -/
def Recipe.Jumpless (recipe : Recipe) : Prop :=
  ∀ step ∈ recipe.steps, step.disabled = false →
    step.operation ∉ [Flow.jump.name, Flow.conditionalJump.name, Flow.leave.name]

/-- A step that moves the cursor by itself is a fork. -/
private theorem fork_or_isStraight {step : Step}
    (h : step.operation ∉ [Flow.jump.name, Flow.conditionalJump.name, Flow.leave.name]) :
    step.operation = Flow.fork.name ∨ step.isStraight = true := by
  have hnames : (step.operation ∈ Flow.operations.map Operation.name) ∨
      (Registry.builtIn.operation step.operation).descriptor.flowControl = false := by
    rcases Registry.operation_builtIn step.operation with ⟨hmem, hname⟩ | hnone
    · rcases mem_builtIn_cases hmem with hflow | hsteady
      · exact .inl (List.mem_map.mpr ⟨_, hflow, hname⟩)
      · exact .inr hsteady.1
    · rw [hnone]
      exact .inr rfl
  rcases hnames with hname | hflow
  · simp only [Flow.operations, List.map_cons, List.map_nil, List.mem_cons, List.not_mem_nil,
      or_false] at hname
    simp only [List.mem_cons, List.not_mem_nil, or_false, not_or] at h
    have hmarks (hmem : step.operation ∈
        [Flow.register.name, Flow.label.name, Flow.merge.name, Flow.comment.name]) :
        step.isStraight = true := by
      rw [Step.isStraight, List.contains_iff_mem.mpr hmem, Bool.or_true]
    rcases hname with hname | hname | hname | hname | hname | hname | hname | hname
    · exact .inr (hmarks (by simp [hname]))
    · exact .inr (hmarks (by simp [hname]))
    · exact .inr (hmarks (by simp [hname]))
    · exact absurd hname h.1
    · exact absurd hname h.2.1
    · exact .inr (hmarks (by simp [hname]))
    · exact .inl hname
    · exact absurd hname h.2.2
  · exact .inr (by simp [Step.isStraight, hflow])

namespace Plan

variable {recipe : Recipe} {plan : Plan} {stage root : Stage} {i jumps : Nat}

/-- The plan has the built-in steps of the recipe, and no enabled one but forks moves the cursor. -/
structure JumplessFor (plan : Plan) (recipe : Recipe) : Prop where
  builtIn : plan.registry = .builtIn
  length_eq : plan.steps.length = recipe.steps.length
  written : ∀ (i : Nat) (step : Step), plan.steps[i]? = some step →
    ∃ written : RecipeStep, recipe.steps[i]? = some written ∧ written.disabled = step.disabled ∧
      written.operation = step.operation
  fork_or_straight : ∀ (i : Nat) (step : Step), plan.steps[i]? = some step →
    step.disabled = false → step.operation = Flow.fork.name ∨ step.isStraight = true

theorem jumplessFor_of_prepare (hp : Registry.builtIn.prepare recipe = .ok plan)
    (hj : recipe.Jumpless) : plan.JumplessFor recipe := by
  obtain ⟨_, hr, _, hsteps⟩ := Registry.prepare_eq_ok hp
  refine ⟨hr, Registry.length_prepareSteps hsteps, fun i step => Registry.exists_written hp,
    fun i step hstep henabled => ?_⟩
  obtain ⟨written, hi, hdisabled, hoperation⟩ := Registry.exists_written hp hstep
  have hnot := hj written (List.mem_of_getElem? hi) (hdisabled.trans henabled)
  exact fork_or_isStraight (hoperation ▸ hnot)

/-- A merge in the plan is one in the recipe. -/
theorem JumplessFor.isMerge_eq (F : plan.JumplessFor recipe) {step : Step} {written : RecipeStep}
    (hstep : plan.steps[i]? = some step) (hwritten : recipe.steps[i]? = some written) :
    written.isMerge = step.isMerge := by
  obtain ⟨found, hfound, hdisabled, hoperation⟩ := F.written i step hstep
  obtain rfl := Option.some.inj (hwritten.symm.trans hfound)
  rw [RecipeStep.isMerge, Step.isMerge, hdisabled, hoperation]

/-! ## From step to step -/

theorem StandsAt.turnAt_eq {step : Step} (h : plan.StandsAt stage i jumps)
    (hstep : plan.steps[i]? = some step) :
    plan.turnAt stage = if step.disabled then .skip else .dispatch step := by
  have hlt : stage.state.progress < stage.state.scopeEnd := by
    rw [h.progress, h.scopeEnd]
    exact (List.getElem?_eq_some_iff.mp hstep).1
  exact turn_of_unhindered h.unhindered hlt (by rwa [h.progress]) stage.startFrom stage.log

/-- What validation says about the step that is dispatched at a stage. -/
def said (plan : Plan) (stage : Stage) : List String :=
  match plan.turnAt stage with
  | .dispatch step =>
    if step.operation = mergeName then [unopenedMerge stage.state.progress]
    else if step.operation = Flow.fork.name ∧
        stage.state.findMerge? plan.steps stage.state.progress = none then
      [unmergedFork stage.state.progress]
    else []
  | _ => []

/-- Where the cursor goes from the step at a stage, unless the run ends. -/
def placeBehind (plan : Plan) (stage : Stage) : Nat :=
  match plan.turnAt stage with
  | .dispatch step =>
    if step.operation = Flow.fork.name then stage.state.afterFork plan.steps + 1
    else stage.state.progress + 1
  | _ => stage.state.progress + 1

private theorem forksFrom_of_dispatch_fork (F : plan.JumplessFor recipe)
    (h : plan.StandsAt stage i jumps) {step : Step} (hstep : plan.steps[i]? = some step)
    (henabled : step.disabled = false) (hfork : step.operation = Flow.fork.name) :
    forksFrom recipe.steps i = plan.said stage ++ forksFrom recipe.steps (plan.placeBehind stage) := by
  obtain ⟨written, hwritten, hdisabled, hoperation⟩ := F.written i step hstep
  have hturn := h.turnAt_eq hstep
  rw [henabled, if_neg Bool.false_ne_true] at hturn
  have hmerge : step.operation ≠ mergeName := by
    rw [hfork]
    decide
  -- No merge of the recipe stands where the search of the run passes none.
  have hunmerged {n : Nat} {other : RecipeStep} (hother : recipe.steps[n]? = some other)
      (hnot : ∀ step, plan.steps[n]? = some step → step.isMerge = false) : other.isMerge = false := by
    have hlt : n < plan.steps.length :=
      F.length_eq ▸ (List.getElem?_eq_some_iff.mp hother).1
    have hget := List.getElem?_eq_getElem hlt
    exact (F.isMerge_eq hget hother).trans (hnot _ hget)
  rw [said, placeBehind, hturn]
  dsimp only
  rw [if_neg hmerge, if_pos hfork, State.afterFork]
  cases hfind : stage.state.findMerge? plan.steps stage.state.progress with
  | none =>
    have hbehind : recipe.steps.length ≤
        max (stage.state.scopeEnd - 1) stage.state.progress + 1 := by
      rw [h.scopeEnd, ← F.length_eq]
      omega
    rw [if_pos ⟨hfork, rfl⟩, Option.getD_none, forksFrom_of_length_le hbehind, List.append_nil,
      h.progress]
    refine forksFrom_of_unmerged hwritten (hdisabled.trans henabled) (hoperation.trans hfork) ?_
    intro n other hn hother
    refine hunmerged hother fun step hstep => findStep?_eq_none.mp hfind n step ?_ ?_ hstep
    · rw [h.progress]
      exact hn
    · rw [h.scopeEnd]
      exact (List.getElem?_eq_some_iff.mp hstep).1
  | some merge =>
    obtain ⟨hlt, hend, found, hfound, hmerges⟩ := findStep?_eq_some hfind
    rw [h.progress] at hlt
    obtain ⟨other, hother, _⟩ := F.written merge found hfound
    have hsome : ¬(step.operation = Flow.fork.name ∧ some merge = none) := by simp
    rw [if_neg hsome, List.nil_append, Option.getD_some]
    refine forksFrom_of_merged hwritten (hdisabled.trans henabled) (hoperation.trans hfork) hlt hother
      ((F.isMerge_eq hfound hother).trans hmerges) ?_
    intro n between hn hn' hbetween
    refine hunmerged hbetween fun step hstep => findStep?_before hfind ?_ hn' hstep
    rw [h.progress]
    exact hn

/-- From each step to the next, validation says what it says about the step. -/
theorem JumplessFor.forksFrom_eq (F : plan.JumplessFor recipe) (h : plan.StandsAt stage i jumps)
    (hlt : stage.state.progress < stage.state.scopeEnd) :
    forksFrom recipe.steps i = plan.said stage ++ forksFrom recipe.steps (plan.placeBehind stage) := by
  rw [h.progress, h.scopeEnd] at hlt
  have hstep := List.getElem?_eq_getElem hlt
  generalize plan.steps[i] = step at hstep
  obtain ⟨written, hwritten, hdisabled, hoperation⟩ := F.written i step hstep
  have hturn := h.turnAt_eq hstep
  cases henabled : step.disabled with
  | true =>
    rw [henabled, if_pos rfl] at hturn
    rw [said, placeBehind, hturn, h.progress]
    exact forksFrom_of_disabled hwritten (hdisabled.trans henabled)
  | false =>
    rw [henabled, if_neg Bool.false_ne_true] at hturn
    by_cases hfork : step.operation = Flow.fork.name
    · exact forksFrom_of_dispatch_fork F h hstep henabled hfork
    · rw [said, placeBehind, hturn]
      simp only [hfork, false_and, if_false, h.progress]
      by_cases hmerge : step.operation = mergeName
      · rw [if_pos hmerge]
        exact forksFrom_of_merge hwritten (hdisabled.trans henabled) (hoperation.trans hmerge)
      · rw [if_neg hmerge]
        exact forksFrom_of_other hwritten (hoperation ▸ hfork) (hoperation ▸ hmerge)

/-- What validation says behind a step, it says from the step on. -/
theorem JumplessFor.mem_forksFrom_of_behind (F : plan.JumplessFor recipe)
    (h : plan.StandsAt stage i jumps) (hlt : stage.state.progress < stage.state.scopeEnd)
    {text : String} (htext : text ∈ forksFrom recipe.steps (plan.placeBehind stage)) :
    text ∈ forksFrom recipe.steps i := by
  rw [F.forksFrom_eq h hlt]
  exact List.mem_append_right _ htext

/-- A fork makes no plain move. -/
private theorem move_ne_go_of_fork (hr : plan.registry = .builtIn) {step : Step}
    (hturn : plan.turnAt stage = .dispatch step) (hfork : step.operation = Flow.fork.name)
    (next : State) (log : Log) : plan.moveAt stage ≠ .go next log := by
  have hop : plan.registry.operation step.operation = Flow.fork :=
    Plan.operation_eq hr (by simp [builtInOperations, Flow.operations]) hfork
  have hmove : plan.moveAt stage = plan.dispatch stage.control step stage.state stage.log := by
    rw [turnAt] at hturn
    rw [moveAt, move, hturn]
  rw [hmove, dispatch_fork _ _ _ (by rw [hop]; rfl) (by rw [hop]; rfl)]
  split <;> simp

/-- A run in which no step jumps goes on at the place behind a step. -/
theorem JumplessFor.standsAt_of_go (F : plan.JumplessFor recipe) (h : plan.StandsAt stage i jumps)
    {next : State} {log : Log} (hmove : plan.moveAt stage = .go next log) :
    plan.StandsAt { stage with state := next, log } (plan.placeBehind stage) next.jumpsTaken := by
  obtain ⟨hlt, step, hstep, _⟩ := moved_of_move_go F.builtIn hmove
  refine h.of_go F.builtIn hmove ?_ rfl
  have hturn := h.turnAt_eq (h.progress ▸ hstep)
  have hstraight : step.disabled = false → step.isStraight = true ∧ step.operation ≠ Flow.fork.name := by
    intro henabled
    rw [henabled, if_neg Bool.false_ne_true] at hturn
    have hfork : step.operation ≠ Flow.fork.name := fun hfork =>
      move_ne_go_of_fork F.builtIn hturn hfork next log hmove
    exact ⟨(F.fork_or_straight _ step hstep henabled).resolve_left hfork, hfork⟩
  have hplace : plan.placeBehind stage = stage.state.progress + 1 := by
    rw [placeBehind, hturn]
    cases henabled : step.disabled with
    | true => rfl
    | false => exact if_neg (hstraight henabled).2
  rw [hplace]
  have hon := move_stepsOn F.builtIn h.unhindered hlt hstep (fun henabled => (hstraight henabled).1)
    stage.startFrom stage.log
  rcases hon with ⟨failure, left, last, hstop⟩ | ⟨other, last, hgo, hprogress, _⟩
  · rw [show plan.move _ _ _ _ = _ from hmove] at hstop
    cases hstop
  · rw [show plan.move _ _ _ _ = _ from hmove] at hgo
    cases hgo
    exact hprogress

theorem JumplessFor.standsAt_of_join (F : plan.JumplessFor recipe) (h : plan.StandsAt stage i jumps)
    {step : Step} {split : Split} {log : Log} (hmove : plan.moveAt stage = .fork step split log)
    (outputs : List String) (last : Log) :
    plan.StandsAt { stage with state := stage.state.joined plan.steps split outputs, log := last }
      (plan.placeBehind stage) jumps := by
  refine ⟨h.unhindered, h.scopeStart, h.scopeEnd, ?_, h.jumpsTaken⟩
  have hturn : plan.turnAt stage = .dispatch step := turnAt_of_fork hmove
  rw [placeBehind, hturn]
  exact (if_pos (move_fork_cases F.builtIn hmove).1).symm

/-- A run that completes has come to the end of the steps, where nothing is said. -/
private theorem StandsAt.of_stop (hr : plan.registry = .builtIn) (h : plan.StandsAt stage i jumps)
    {finished : SectionEnd} (hmove : plan.moveAt stage = .stop finished)
    (hcompleted : finished.result = .ok .completed) :
    plan.steps.length ≤ i ∧ finished.log = stage.log := by
  have hmakes := makes_move hr stage.control stage.startFrom stage.state stage.log
  rw [show plan.move _ _ _ _ = _ from hmove] at hmakes
  cases hmakes with
  | cancels => simp at hcompleted
  | pauses => simp at hcompleted
  | dispatches step _ hdispatched =>
    cases hdispatched with
    | faults => simp [State.fault] at hcompleted
  | finishes =>
    refine ⟨Nat.not_lt.mp fun hlt => ?_, rfl⟩
    have hstep := List.getElem?_eq_getElem hlt
    generalize plan.steps[i] = step at hstep
    have hturn := h.turnAt_eq hstep
    cases hd : step.disabled with
    | true =>
      rw [hd, if_pos rfl] at hturn
      simp [moveAt_of_skip hturn] at hmove
    | false =>
      rw [hd, if_neg Bool.false_ne_true] at hturn
      have hdispatched := dispatched_of_builtIn hr stage.control step stage.state stage.log
      rw [moveAt_eq, hturn] at hmove
      dsimp only at hmove
      rw [hmove] at hdispatched
      cases hdispatched

/-! ## A run that completes -/

theorem mem_said_unopenedMerge {n : Nat} :
    unopenedMerge n ∈ plan.said stage ↔ n = stage.state.progress ∧
      ∃ step, plan.turnAt stage = .dispatch step ∧ step.operation = mergeName := by
  rw [said]
  cases plan.turnAt stage with
  | dispatch step =>
    by_cases hmerge : step.operation = mergeName
    · simp only [if_pos hmerge, List.mem_singleton]
      exact ⟨fun h => ⟨unopenedMerge_inj h, step, rfl, hmerge⟩, fun h => congrArg _ h.1⟩
    · have hsilent : ¬∃ other, Turn.dispatch step = .dispatch other ∧ other.operation = mergeName := by
        rintro ⟨_, hother, h⟩
        cases hother
        exact hmerge h
      simp only [if_neg hmerge, hsilent, and_false, iff_false]
      split
      · simpa using unopenedMerge_ne_unmergedFork n stage.state.progress
      · simp
  | finish => simp
  | cancel => simp
  | skip => simp
  | pause => simp

/-- A move dispatches the merge that is said to be unopened, and no other. -/
theorem mem_merge_moveAt (hr : plan.registry = .builtIn) (n : Nat) :
    .dispatched n mergeName ∈ (plan.moveAt stage).log ↔
      .dispatched n mergeName ∈ stage.log ∨ unopenedMerge n ∈ plan.said stage := by
  rw [mem_said_unopenedMerge]
  exact mem_log_moveAt hr

theorem mem_said_unmergedFork {n : Nat} :
    unmergedFork n ∈ plan.said stage ↔ n = stage.state.progress ∧
      ∃ step, plan.turnAt stage = .dispatch step ∧ step.operation = Flow.fork.name ∧
        stage.state.findMerge? plan.steps n = none := by
  rw [said]
  cases plan.turnAt stage with
  | dispatch step =>
    by_cases hmerge : step.operation = mergeName
    · have hfork : step.operation ≠ Flow.fork.name := by
        rw [hmerge]
        decide
      simp only [if_pos hmerge, List.mem_singleton]
      constructor
      · exact fun h => absurd h.symm (unopenedMerge_ne_unmergedFork _ _)
      · rintro ⟨_, _, hother, h, _⟩
        cases hother
        exact absurd h hfork
    · dsimp only
      rw [if_neg hmerge]
      by_cases hopen : step.operation = Flow.fork.name ∧
          stage.state.findMerge? plan.steps stage.state.progress = none
      · simp only [if_pos hopen, List.mem_singleton]
        constructor
        · intro h
          obtain rfl := unmergedFork_inj h
          exact ⟨rfl, step, rfl, hopen⟩
        · exact fun h => congrArg _ h.1
      · simp only [if_neg hopen, List.not_mem_nil, false_iff]
        rintro ⟨rfl, _, hother, h⟩
        cases hother
        exact hopen h
  | finish => simp
  | cancel => simp
  | skip => simp
  | pause => simp

/-- A run that completes comes to every step that validation says something about. -/
theorem JumplessFor.exists_passes (F : plan.JumplessFor recipe) (h : plan.StandsAt stage i jumps)
    {finished : SectionEnd} (hends : plan.EndsAt stage finished)
    (hcompleted : finished.result = .ok .completed) {text : String}
    (htext : text ∈ forksFrom recipe.steps i) :
    ∃ results last, plan.Passes stage results last ∧ text ∈ plan.said last := by
  obtain ⟨control, startFrom, state, log⟩ := stage
  change plan.Ends control startFrom state log finished at hends
  induction hends using Plan.Ends.induct generalizing i jumps with
  | @stop control startFrom state log finished hmove =>
    have hend := h.of_stop F.builtIn hmove hcompleted
    rw [forksFrom_of_length_le (F.length_eq ▸ hend.1)] at htext
    cases htext
  | @go control startFrom state log next log₁ finished hmove _ ih =>
    obtain ⟨hlt, _⟩ := moved_of_move_go F.builtIn hmove
    rw [F.forksFrom_eq h hlt] at htext
    rcases List.mem_append.mp htext with hhere | hlater
    · exact ⟨_, _, .start, hhere⟩
    · obtain ⟨before, hbefore⟩ := passes_of_go ⟨control, startFrom, state, log⟩ hmove
      obtain ⟨results, last, hpasses, hsaid⟩ := ih hcompleted hlater (F.standsAt_of_go h hmove)
      exact ⟨_, last, hbefore.trans hpasses, hsaid⟩
  | forkFails => simp [State.fault] at hcompleted
  | @forkJoins control startFrom state log step split log₁ outputs log₂ finished hmove hbranches _
      ih =>
    have hlt := lt_of_move_fork hmove
    have hb : plan.ForkEnds control state split log₁ (.ok outputs) log₂ :=
      hbranches.mono fun _ _ _ h => h.1
    rw [F.forksFrom_eq h hlt] at htext
    rcases List.mem_append.mp htext with hhere | hlater
    · exact ⟨_, _, .start, hhere⟩
    · have hstart : plan.Passes ⟨control, startFrom, state, log⟩ [] _ := .start
      have hbefore := hstart.fork hmove hb
      obtain ⟨results, last, hpasses, hsaid⟩ :=
        ih hcompleted hlater (F.standsAt_of_join h hmove outputs log₂)
      exact ⟨_, last, hbefore.trans hpasses, hsaid⟩

/-- A run that completes dispatches those merges that validation says to be unopened. -/
theorem JumplessFor.mem_merge_iff (F : plan.JumplessFor recipe) (h : plan.StandsAt stage i jumps)
    (hin : stage.state.InScope plan.steps) {finished : SectionEnd}
    (hends : plan.EndsAt stage finished) (hcompleted : finished.result = .ok .completed) (n : Nat) :
    .dispatched n mergeName ∈ finished.log ↔
      .dispatched n mergeName ∈ stage.log ∨ unopenedMerge n ∈ forksFrom recipe.steps i := by
  obtain ⟨control, startFrom, state, log⟩ := stage
  change plan.Ends control startFrom state log finished at hends
  induction hends using Plan.Ends.induct generalizing i jumps with
  | @stop control startFrom state log finished hmove =>
    have hend := h.of_stop F.builtIn hmove hcompleted
    rw [forksFrom_of_length_le (F.length_eq ▸ hend.1), hend.2]
    simp
  | @go control startFrom state log next log₁ finished hmove _ ih =>
    obtain ⟨hlt, _, _, hmoved⟩ := moved_of_move_go F.builtIn hmove
    have hnext := @mem_merge_moveAt plan ⟨control, startFrom, state, log⟩ F.builtIn n
    rw [show plan.moveAt ⟨control, startFrom, state, log⟩ = _ from hmove] at hnext
    rw [ih hcompleted (F.standsAt_of_go h hmove) (hin.moved hmoved hlt),
      F.forksFrom_eq h hlt, List.mem_append, ← or_assoc]
    exact or_congr_left hnext
  | forkFails => simp [State.fault] at hcompleted
  | @forkJoins control startFrom state log step split log₁ outputs log₂ finished hmove hbranches _
      ih =>
    have hlt := lt_of_move_fork hmove
    have hnext := @mem_merge_moveAt plan ⟨control, startFrom, state, log⟩ F.builtIn n
    rw [show plan.moveAt ⟨control, startFrom, state, log⟩ = _ from hmove] at hnext
    -- The branches dispatch none: their section ends before the first merge.
    have hlast : .dispatched n mergeName ∈ log₂ ↔ .dispatched n mergeName ∈ log₁ :=
      hbranches.log_property (fun piece _ _ hbranch hq =>
        (hbranch.1.mem_merge_iff F.builtIn (hin.branchOn hlt piece)
          (state.mergeless_branchOn plan.steps piece) n).trans hq) Iff.rfl
    rw [ih hcompleted (F.standsAt_of_join h hmove outputs log₂) (hin.joined hlt split outputs),
      F.forksFrom_eq h hlt, List.mem_append, ← or_assoc]
    exact or_congr_left (hlast.trans hnext)

/-- Where a run has come to, nothing is said that was not said from the start. -/
theorem JumplessFor.of_passes (F : plan.JumplessFor recipe) (h : plan.StandsAt root i jumps)
    {results : List Dish} (hpasses : plan.Passes root results stage) :
    ∃ j jumps', plan.StandsAt stage j jumps' ∧
      ∀ text ∈ forksFrom recipe.steps j, text ∈ forksFrom recipe.steps i := by
  induction hpasses with
  | start => exact ⟨i, jumps, h, fun _ htext => htext⟩
  | skip _ hturn ih =>
    obtain ⟨j, jumps', hstands, hsaid⟩ := ih
    have hmove := moveAt_of_skip hturn
    obtain ⟨hlt, _⟩ := moved_of_move_go F.builtIn hmove
    exact ⟨_, _, F.standsAt_of_go hstands hmove, fun text htext =>
      hsaid text (F.mem_forksFrom_of_behind hstands hlt htext)⟩
  | step _ _ hmove ih =>
    obtain ⟨j, jumps', hstands, hsaid⟩ := ih
    obtain ⟨hlt, _⟩ := moved_of_move_go F.builtIn hmove
    exact ⟨_, _, F.standsAt_of_go hstands hmove, fun text htext =>
      hsaid text (F.mem_forksFrom_of_behind hstands hlt htext)⟩
  | fork _ hmove _ ih =>
    obtain ⟨j, jumps', hstands, hsaid⟩ := ih
    have hlt := lt_of_move_fork hmove
    exact ⟨_, _, F.standsAt_of_join hstands hmove _ _, fun text htext =>
      hsaid text (F.mem_forksFrom_of_behind hstands hlt htext)⟩

/-- What is said about a step that a run comes to is said from the start. -/
theorem JumplessFor.mem_forksFrom (F : plan.JumplessFor recipe) (h : plan.StandsAt root i jumps)
    {results : List Dish} (hpasses : plan.Passes root results stage) {text : String}
    (htext : text ∈ plan.said stage) : text ∈ forksFrom recipe.steps i := by
  obtain ⟨j, jumps', hstands, hsaid⟩ := F.of_passes h hpasses
  rcases Nat.lt_or_ge stage.state.progress stage.state.scopeEnd with hlt | hge
  · refine hsaid text ?_
    rw [F.forksFrom_eq hstands hlt]
    exact List.mem_append_left _ htext
  · have hturn : plan.turnAt stage = .finish := by
      rw [turnAt, State.turn, if_pos hge]
    simp [said, hturn] at htext

/-! ## Bakes -/

/-- The step at a stage is a merge that does nothing: only the cursor moves on. -/
def IdlesAtMerge (plan : Plan) (stage : Stage) : Prop :=
  ∃ step, plan.turnAt stage = .dispatch step ∧ step.operation = mergeName ∧
    plan.moveAt stage = .go (stage.state.inPhase .running).advance
      (plan.announced stage.control step stage.state stage.log)

theorem idlesAtMerge_of_dispatch (hr : plan.registry = .builtIn) {step : Step}
    (hturn : plan.turnAt stage = .dispatch step) (hmerge : step.operation = mergeName) :
    plan.IdlesAtMerge stage := by
  have hmem : Flow.merge ∈ Flow.operations := by simp [Flow.operations]
  have hact : Flow.merge.flow = .act Flow.stay := rfl
  refine ⟨step, hturn, hmerge, ?_⟩
  rw [moveAt_eq, hturn]
  dsimp only
  rw [dispatch_action _ _ _ hr hmem hmerge hact]
  rfl

/-- What validation says about forks and merges describes a run with its events. -/
structure DescribesForks (warnings : List String) (plan : Plan) (root : Stage) (log : Log) : Prop where
  /-- A merge is warned about exactly if it is dispatched, -/
  merges : ∀ i, unopenedMerge i ∈ warnings ↔ .dispatched i mergeName ∈ log
  /-- and then it does nothing, in the scope of the run itself. -/
  idle : ∀ i, .dispatched i mergeName ∈ log → ∃ results stage, plan.Passes root results stage ∧
    stage.state.progress = i ∧ plan.IdlesAtMerge stage
  /-- No branch dispatches a merge. -/
  unbranched : ∀ stage n step, plan.Reaches root stage n → plan.turnAt stage = .dispatch step →
    step.operation = mergeName → ∃ results, plan.Passes root results stage
  /-- A fork is warned about exactly if it is dispatched in the scope of the run itself and finds no
  merge. -/
  forks : ∀ i, unmergedFork i ∈ warnings ↔ ∃ results stage step, plan.Passes root results stage ∧
    stage.state.progress = i ∧ plan.turnAt stage = .dispatch step ∧
      step.operation = Flow.fork.name ∧ stage.state.findMerge? plan.steps i = none

end Plan

/-- Where no step jumps and nobody hinders the bake, the warnings about forks and merges describe each
bake from the start that completes. -/
theorem Registry.fork_warnings {recipe : Recipe} {plan : Plan}
    (hp : builtIn.prepare recipe = .ok plan) (hj : recipe.Jumpless) {input : Dish}
    {control : Control} (hc : (plan.control control).Unhindered) (hstart : control.startFrom = 0)
    {attempt : Attempt} {outcome : Outcome} (h : builtIn.Attempts recipe input control attempt)
    (hok : attempt.result = .ok outcome) :
    outcome.status = .completed ∧
      Plan.DescribesForks (builtIn.validate recipe).warnings plan (plan.firstStage input control)
        attempt.log := by
  have F := Plan.jumplessFor_of_prepare hp hj
  obtain ⟨finished, hends, rfl⟩ := (attempts_iff hp).mp h
  have hresult := SectionEnd.toResult_eq_ok hok
  have hcompleted : outcome.status = .completed := by
    cases hstatus : outcome.status with
    | completed => rfl
    | paused i =>
      exact absurd (hresult.trans (congrArg _ hstatus)) (hends.ne_paused F.builtIn hc.honourBreakpoints i)
  rw [hcompleted] at hresult
  have hstands : plan.StandsAt (plan.firstStage input control) 0 0 :=
    ⟨hc, rfl, rfl, by simp [Plan.firstStage, Plan.initial, State.inPhase, hstart], rfl⟩
  have hroot : plan.StartsAt (plan.firstStage input control) := .bake input control
  have hin := hroot.inScope
  have hsaid (i : Nat) : unopenedMerge i ∈ (builtIn.validate recipe).warnings ↔
      .dispatched i mergeName ∈ finished.log := by
    rw [mem_warnings_iff_forksFrom (.inl (initial?_unopenedMerge i)),
      F.mem_merge_iff hstands hin hends hresult i]
    exact (or_iff_right List.not_mem_nil).symm
  refine ⟨hcompleted, hsaid, fun i hmem => ?_, ?_, fun i => ?_⟩
  · have hwarned := (mem_warnings_iff_forksFrom (.inl (initial?_unopenedMerge i))).mp
      ((hsaid i).mpr hmem)
    obtain ⟨results, stage, hpasses, hhere⟩ := F.exists_passes hstands hends hresult hwarned
    obtain ⟨hi, step, hturn, hmerge⟩ := Plan.mem_said_unopenedMerge.mp hhere
    exact ⟨results, stage, hpasses, hi.symm, Plan.idlesAtMerge_of_dispatch F.builtIn hturn hmerge⟩
  · intro stage n step hreaches hturn hmerge
    -- The section of a fork ends before the first merge, so a stage at a merge is one of the run itself.
    obtain ⟨outer, scope, results, hopens, hpasses⟩ := hreaches.exists_opens
    cases outer with
    | some fork =>
      exact absurd hmerge ((hopens.keepsSection F.builtIn hin).unmerged _ _ _ hpasses hturn)
    | none =>
      cases hopens with
      | root => exact ⟨results, hpasses⟩
  · rw [mem_warnings_iff_forksFrom (.inr (initial?_unmergedFork i))]
    constructor
    · intro hwarned
      obtain ⟨results, stage, hpasses, hhere⟩ := F.exists_passes hstands hends hresult hwarned
      obtain ⟨rfl, step, hturn, hfork, hfind⟩ := Plan.mem_said_unmergedFork.mp hhere
      exact ⟨results, stage, step, hpasses, rfl, hturn, hfork, hfind⟩
    · rintro ⟨results, stage, step, hpasses, rfl, hturn, hfork, hfind⟩
      exact F.mem_forksFrom hstands hpasses
        (Plan.mem_said_unmergedFork.mpr ⟨rfl, step, hturn, hfork, hfind⟩)

/-- A merge without a fork, and a fork without a merge. -/
def Recipe.looseEnds : Recipe :=
  ⟨1, [⟨"Merge", [], false, false⟩, ⟨"Fork", [.text ",", .text "-"], false, false⟩], .default⟩

/-- The plan of the loose ends. -/
def Plan.looseEnds : Plan :=
  ⟨.builtIn, [⟨0, "Merge", [], false, false⟩,
    ⟨1, "Fork", [.text ",", .text "-", .bool false], false, false⟩], .default⟩

theorem Registry.fork_warnings_looseEnds :
    ∃ attempt outcome, builtIn.prepare .looseEnds = .ok Plan.looseEnds ∧
      Recipe.looseEnds.Jumpless ∧ (Plan.looseEnds.control (.straight false)).Unhindered ∧
      builtIn.Attempts .looseEnds (.string "a,b") (.straight false) attempt ∧
      attempt.result = .ok outcome ∧
      (builtIn.validate .looseEnds).warnings = [unopenedMerge 0, unmergedFork 1] ∧
      Plan.DescribesForks [unopenedMerge 0, unmergedFork 1] Plan.looseEnds
        (Plan.looseEnds.firstStage (.string "a,b") (.straight false)) attempt.log := by
  have hp : builtIn.prepare .looseEnds = .ok Plan.looseEnds := rfl
  have hj : Recipe.looseEnds.Jumpless := by
    unfold Recipe.Jumpless
    decide
  have hc : (Plan.looseEnds.control (.straight false)).Unhindered := ⟨rfl, rfl⟩
  have hwarnings : (builtIn.validate .looseEnds).warnings = [unopenedMerge 0, unmergedFork 1] := by
    decide +kernel
  have hbake : (builtIn.bake 4 .looseEnds (.string "a,b") (.straight false)).any
      (·.result.isOk) = true := by decide +kernel
  cases hattempt : builtIn.bake 4 .looseEnds (.string "a,b") (.straight false) with
  | none => simp [hattempt] at hbake
  | some attempt =>
    rw [hattempt, Option.any_some] at hbake
    cases hresult : attempt.result with
    | error failure => simp [hresult, Except.isOk, Except.toBool] at hbake
    | ok outcome =>
      have hdescribes := (fork_warnings hp hj hc rfl ⟨4, hattempt⟩ hresult).2
      rw [hwarnings] at hdescribes
      exact ⟨attempt, outcome, hp, hj, hc, ⟨4, hattempt⟩, hresult, hwarnings, hdescribes⟩

end Kitchen
