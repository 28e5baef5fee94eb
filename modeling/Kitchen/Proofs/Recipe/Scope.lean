import Kitchen.Operation.BuiltIn
import Kitchen.Proofs.Recipe.ForkSection
import Kitchen.Proofs.Recipe.Preparation
import Kitchen.Proofs.Run.Scope

/-!
# The cursor in its scope

Wherever a bake starts or is resumed, the cursor of every scope that it opens stays in the scope, which
is a range of the steps, and a scope that completes leaves the cursor right behind its last step. The
scope of a branch lies behind its fork, and since it has no merges a fork in it takes all that follows.
-/

namespace Kitchen

namespace Plan

variable {plan : Plan} {root scope fork : Stage} {outer : Option Stage}

/-- The cursor of a run in a scope. -/
structure KeepsCursor (plan : Plan) (scope : Stage) : Prop where
  /-- The scope is a range of the steps. -/
  range : scope.state.scopeStart ≤ scope.state.scopeEnd ∧ scope.state.scopeEnd ≤ plan.steps.length
  /-- Between any two of its steps the run has its scope still, with the cursor in it or right behind
  it. -/
  heads : ∀ results stage, plan.Passes scope results stage →
    stage.state.scopeStart = scope.state.scopeStart ∧
      stage.state.scopeEnd = scope.state.scopeEnd ∧
      scope.state.scopeStart ≤ stage.state.progress ∧
      stage.state.progress ≤ scope.state.scopeEnd ∧
      (stage.state.progress < scope.state.scopeEnd →
        ∃ step, plan.steps[stage.state.progress]? = some step)
  /-- A run that completes leaves the cursor right behind the scope. -/
  completes : ∀ finished, plan.EndsAt scope finished → finished.result = .ok .completed →
    finished.state.progress = scope.state.scopeEnd

/-- The scope of a branch that the fork at a stage starts. -/
structure KeepsSection (plan : Plan) (fork scope : Stage) : Prop where
  /-- The section lies behind the fork in the scope of the fork. -/
  within : fork.state.scopeStart ≤ fork.state.progress ∧
    fork.state.progress < scope.state.scopeStart ∧ scope.state.scopeEnd ≤ fork.state.scopeEnd
  mergeless : ∀ i step, scope.state.scopeStart ≤ i → i < scope.state.scopeEnd →
    plan.steps[i]? = some step → step.isMerge = false
  /-- A fork in the branch takes the rest of the branch. -/
  nested : ∀ results stage step split log, plan.Passes scope results stage →
    plan.moveAt stage = .fork step split log →
    stage.state.forkSection plan.steps = (stage.state.progress + 1, scope.state.scopeEnd)
  /-- No merge is dispatched in the branch. -/
  unmerged : ∀ results stage step, plan.Passes scope results stage →
    plan.turnAt stage = .dispatch step → step.operation ≠ mergeName
  unpaused : ∀ finished i, plan.EndsAt scope finished → finished.result ≠ .ok (.paused i)

theorem Opens.keepsCursor (h : plan.Opens root outer scope) (hr : plan.registry = .builtIn)
    (hroot : root.state.InScope plan.steps) : plan.KeepsCursor scope := by
  have hscope := h.inScope hr hroot
  refine ⟨⟨Nat.le_trans hscope.start_le hscope.le_end, hscope.end_le⟩, ?_, ?_⟩
  · intro results stage hpasses
    obtain ⟨hstart, hend⟩ := hpasses.scope_eq hr
    have hin := hpasses.inScope hr hscope
    refine ⟨hstart, hend, hstart ▸ hin.start_le, hend ▸ hin.le_end, fun hlt => ?_⟩
    exact hin.exists_step (hend ▸ hlt)
  · exact fun finished hends hcompleted => hends.progress_of_completed hr hscope hcompleted

theorem Opens.keepsSection (h : plan.Opens root (some fork) scope) (hr : plan.registry = .builtIn)
    (hroot : root.state.InScope plan.steps) : plan.KeepsSection fork scope := by
  cases h with
  | @branch outer parent _ results step split log last outputs before after piece hopens hpasses
      hmove hpieces hb hc =>
    have hfork := hpasses.inScope hr (hopens.inScope hr hroot)
    have hlt := lt_of_move_fork hmove
    have hmergeless := fork.state.mergeless_branchOn plan.steps piece
    have hbranch := hfork.branchOn hlt piece
    -- A run stays in its scope, so at no stage of the branch has it a merge.
    have hsame {results stage} (hpasses : plan.Passes (plan.branchStage fork piece last) results stage) :
        stage.state.Mergeless plan.steps := by
      intro i step hi hi' hstep
      obtain ⟨hstart, hend⟩ := hpasses.scope_eq hr
      exact hmergeless i step (hstart ▸ hi) (hend ▸ hi') hstep
    refine ⟨⟨hfork.start_le, Nat.lt_succ_self _, (State.forkSection_bounds hlt plan.steps).2⟩,
      hmergeless, ?_, ?_, ?_⟩
    · intro results stage step split log hpasses _
      have hin := hpasses.inScope hr hbranch
      rw [(hsame hpasses).forkSection hin.start_le, (hpasses.scope_eq hr).2]
    · intro results stage step hpasses hturn hmerge
      obtain ⟨hlt, hstep, henabled⟩ := State.of_turn_dispatch hturn
      have hin := hpasses.inScope hr hbranch
      have hnot := hsame hpasses _ step hin.start_le hlt hstep
      rw [Step.isMerge, henabled, hmerge] at hnot
      exact absurd hnot (by decide)
    · exact fun finished i hends => hends.ne_paused hr rfl i

/-- The stage at which a bake that was left with an outcome goes on from a step. -/
def resumedStage (plan : Plan) (i : Nat) (paused : Outcome) (control : Control) : Stage :=
  let state := plan.resumed i paused
  let control := plan.control { control with startFrom := i }
  ⟨control, state.startFrom control, state.inPhase .running, []⟩

/-- The stages at which a bake starts or goes on. -/
inductive StartsAt (plan : Plan) : Stage → Prop where
  | bake (input : Dish) (control : Control) : StartsAt plan (plan.firstStage input control)
  | resume (i : Nat) (paused : Outcome) (control : Control) :
      StartsAt plan (plan.resumedStage i paused control)

theorem StartsAt.inScope (h : plan.StartsAt root) : root.state.InScope plan.steps := by
  cases h with
  | bake input control => exact ⟨Nat.zero_le _, Nat.min_le_right _ _, Nat.le_refl _⟩
  | resume i paused control => exact ⟨Nat.zero_le _, Nat.min_le_right _ _, Nat.le_refl _⟩

end Plan

/-- In every bake the cursor keeps to its scope, in the bake itself and in every branch. -/
theorem Registry.scopes_kept {recipe : Recipe} {plan : Plan}
    (hp : builtIn.prepare recipe = .ok plan) {root : Stage} (hroot : plan.StartsAt root)
    {outer : Option Stage} {scope : Stage} (hopens : plan.Opens root outer scope) :
    plan.KeepsCursor scope ∧ ∀ fork, outer = some fork → plan.KeepsSection fork scope := by
  obtain ⟨_, hr, _, _⟩ := prepare_eq_ok hp
  have hstart := hroot.inScope
  refine ⟨hopens.keepsCursor hr hstart, ?_⟩
  rintro fork rfl
  exact hopens.keepsSection hr hstart

/-! ## A fork in a branch -/

/-- A fork whose section is another fork. -/
def Recipe.nestedForks : Recipe :=
  ⟨1, [⟨"Fork", [.text ",", .text "-"], false, false⟩, ⟨"Fork", [.text ";", .text "+"], false, false⟩,
    ⟨"Merge", [], false, false⟩], .default⟩

def Plan.nestedForks : Plan :=
  ⟨.builtIn, [⟨0, "Fork", [.text ",", .text "-", .bool false], false, false⟩,
    ⟨1, "Fork", [.text ";", .text "+", .bool false], false, false⟩, ⟨2, "Merge", [], false, false⟩],
    .default⟩

def Stage.nestedForks : Stage := Plan.nestedForks.firstStage (.string "a;b,c") .default

private theorem moveAt_nestedForks :
    Plan.nestedForks.moveAt .nestedForks =
      .fork ⟨0, "Fork", [.text ",", .text "-", .bool false], false, false⟩ ⟨["a;b", "c"], "-", false⟩
        [.dispatched 0 "Fork"] := by
  have hsplit : delimiterOf (Registers.empty.substitute ",") = .ok "," :=
    delimiterOf_substitute (by decide +kernel) rfl
  have hjoin : delimiterOf (Registers.empty.substitute "-") = .ok "-" :=
    delimiterOf_substitute (by decide +kernel) rfl
  have hpieces : Flow.pieces "a;b,c" "," = ["a;b", "c"] := by decide +kernel
  rw [← hpieces]
  exact move_fork rfl rfl rfl hsplit hjoin rfl rfl

/-- The inner fork of two is the whole scope of a branch. -/
theorem Registry.scopes_kept_nestedForks :
    builtIn.prepare .nestedForks = .ok Plan.nestedForks ∧
      Plan.nestedForks.StartsAt (Plan.nestedForks.firstStage (.string "a;b,c") .default) ∧
      Plan.nestedForks.Opens (Plan.nestedForks.firstStage (.string "a;b,c") .default)
        (some .nestedForks)
        (Plan.nestedForks.branchStage .nestedForks "a;b" [.dispatched 0 "Fork"]) ∧
      Plan.nestedForks.KeepsCursor
        (Plan.nestedForks.branchStage .nestedForks "a;b" [.dispatched 0 "Fork"]) ∧
      Plan.nestedForks.KeepsSection .nestedForks
        (Plan.nestedForks.branchStage .nestedForks "a;b" [.dispatched 0 "Fork"]) := by
  have hp : builtIn.prepare .nestedForks = .ok Plan.nestedForks := rfl
  have hroot : Plan.nestedForks.StartsAt (Plan.nestedForks.firstStage (.string "a;b,c") .default) :=
    .bake _ _
  have hpieces : (["a;b", "c"] : List String) = [] ++ "a;b" :: ["c"] := rfl
  have hopens : Plan.nestedForks.Opens (Plan.nestedForks.firstStage (.string "a;b,c") .default)
      (some .nestedForks)
      (Plan.nestedForks.branchStage .nestedForks "a;b" [.dispatched 0 "Fork"]) :=
    .branch .root .start moveAt_nestedForks hpieces (.nil _) rfl
  obtain ⟨hcursor, hsection⟩ := scopes_kept hp hroot hopens
  exact ⟨hp, hroot, hopens, hcursor, hsection _ rfl⟩

end Kitchen
