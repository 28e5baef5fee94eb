import Kitchen.Proofs.Run.Passage

/-!
# Scopes

The scopes that a run opens, its own and those of the branches at any depth. Every move keeps the
cursor in its scope or right behind it, and a scope in the steps opens none that leaves it.
-/

namespace Kitchen

/-! ## Turns -/

namespace State

variable {state : State} {steps : List Step} {control : Control} {startFrom : Nat} {log : Log}

theorem of_turn_dispatch {step : Step}
    (h : state.turn steps control startFrom log = .dispatch step) :
    state.progress < state.scopeEnd ∧ steps[state.progress]? = some step ∧
      step.disabled = false := by
  unfold turn at h
  by_cases hend : state.scopeEnd ≤ state.progress
  · rw [if_pos hend] at h
    cases h
  · rw [if_neg hend] at h
    refine ⟨Nat.not_le.mp hend, ?_⟩
    cases hs : steps[state.progress]? with
    | none =>
      rw [hs] at h
      cases h
    | some other =>
      simp only [hs] at h
      split at h
      · cases h
      · split at h
        · cases h
        · rename_i hd
          split at h
          · cases h
          · cases h
            exact ⟨rfl, Bool.eq_false_iff.mpr hd⟩

theorem of_turn_skip (h : state.turn steps control startFrom log = .skip) :
    ∃ step, steps[state.progress]? = some step ∧ step.disabled = true := by
  unfold turn at h
  split at h
  · cases h
  · split at h
    · cases h
    · rename_i step hstep
      split at h
      · cases h
      · split at h
        · rename_i hdisabled
          exact ⟨step, hstep, hdisabled⟩
        · split at h <;> cases h

theorem honours_of_turn_pause (h : state.turn steps control startFrom log = .pause) :
    control.honourBreakpoints = true := by
  unfold turn at h
  split at h
  · cases h
  · split at h
    · cases h
    · split at h
      · cases h
      · split at h
        · cases h
        · split at h
          · rename_i hpause
            simp only [Bool.and_eq_true] at hpause
            exact hpause.1.2
          · cases h

end State

/-! ## The cursor -/

/-- The scope lies in the steps, and the cursor in the scope or right behind it. -/
structure State.InScope (steps : List Step) (state : State) : Prop where
  start_le : state.scopeStart ≤ state.progress
  le_end : state.progress ≤ state.scopeEnd
  end_le : state.scopeEnd ≤ steps.length

namespace State.InScope

variable {steps : List Step} {state next : State}

theorem exists_step (h : state.InScope steps) (hlt : state.progress < state.scopeEnd) :
    ∃ step, steps[state.progress]? = some step :=
  ⟨_, List.getElem?_eq_getElem (Nat.lt_of_lt_of_le hlt h.end_le)⟩

/-- A run that has nothing to do has come to the end of the scope. -/
theorem progress_of_turn_finish {control : Control} {startFrom : Nat} {log : Log}
    (h : state.InScope steps) (hturn : state.turn steps control startFrom log = .finish) :
    state.progress = state.scopeEnd := by
  rcases Nat.lt_or_ge state.progress state.scopeEnd with hlt | hge
  · obtain ⟨step, hstep⟩ := h.exists_step hlt
    rw [State.turn, if_neg (Nat.not_le.mpr hlt), hstep] at hturn
    dsimp only at hturn
    split at hturn
    · cases hturn
    · split at hturn
      · cases hturn
      · split at hturn <;> cases hturn
  · exact Nat.le_antisymm h.le_end hge

theorem moved {step : Step} (h : state.InScope steps) (hmoved : state.Moved steps step next)
    (hlt : state.progress < state.scopeEnd) : next.InScope steps := by
  have hstart := h.start_le
  have hend := h.end_le
  cases hmoved with
  | onward hprogress hle _ hstart' hend' => exact ⟨by omega, by omega, by omega⟩
  | fallsThrough _ _ hprogress _ hstart' hend' => exact ⟨by omega, by omega, by omega⟩
  | jumpsTo _ _ hlabel _ hprogress _ hstart' hend' =>
    obtain ⟨htarget, htarget', _⟩ := findStep?_eq_some hlabel
    exact ⟨by omega, by omega, by omega⟩

theorem joined (h : state.InScope steps) (hlt : state.progress < state.scopeEnd) (split : Split)
    (outputs : List String) : (state.joined steps split outputs).InScope steps :=
  have hprogress := State.joined_progress hlt steps split outputs
  ⟨Nat.le_trans h.start_le (Nat.le_of_lt hprogress.1), hprogress.2, h.end_le⟩

theorem branchOn (h : state.InScope steps) (hlt : state.progress < state.scopeEnd) (piece : String) :
    (state.branchOn steps piece).InScope steps :=
  have hsection := State.forkSection_bounds hlt steps
  ⟨Nat.le_refl _, hsection.1, Nat.le_trans hsection.2 h.end_le⟩

end State.InScope

/-! ## Merges -/

/-- No enabled merge stands in the scope. -/
def State.Mergeless (steps : List Step) (state : State) : Prop :=
  ∀ i step, state.scopeStart ≤ i → i < state.scopeEnd → steps[i]? = some step →
    step.isMerge = false

namespace State

variable {steps : List Step} {state : State}

/-- The section of a fork ends before the first merge. -/
theorem mergeless_branchOn (steps : List Step) (state : State) (piece : String) :
    (state.branchOn steps piece).Mergeless steps := by
  intro i step hstart hend hstep
  change state.progress + 1 ≤ i at hstart
  change i < (state.findMerge? steps state.progress).getD state.scopeEnd at hend
  cases hm : state.findMerge? steps state.progress with
  | none =>
    rw [hm] at hend
    exact findStep?_eq_none.mp hm i step hstart hend hstep
  | some merge =>
    rw [hm] at hend
    exact findStep?_before hm hstart hend hstep

/-- In a scope without merges the section of a fork is all that follows it. -/
theorem Mergeless.forkSection (h : state.Mergeless steps)
    (hstart : state.scopeStart ≤ state.progress) :
    state.forkSection steps = (state.progress + 1, state.scopeEnd) := by
  have hnone : state.findMerge? steps state.progress = none :=
    findStep?_eq_none.mpr fun i step hi hend => h i step (by omega) hend
  rw [State.forkSection, hnone, Option.getD_none]

end State

namespace Plan

variable {plan : Plan} {root scope stage : Stage} {results : List Dish}

theorem moveAt_of_skip (hturn : plan.turnAt stage = .skip) :
    plan.moveAt stage = .go stage.state.advance stage.log := by
  rw [turnAt] at hturn
  rw [moveAt, move, hturn]

/-! ## Runs in their scope -/

theorem Passes.scope_eq (h : plan.Passes scope results stage) (hr : plan.registry = .builtIn) :
    stage.state.scopeStart = scope.state.scopeStart ∧
      stage.state.scopeEnd = scope.state.scopeEnd := by
  induction h with
  | start => exact ⟨rfl, rfl⟩
  | skip _ _ ih => exact ih
  | step _ _ hmove ih =>
    obtain ⟨_, _, _, hmoved⟩ := moved_of_move_go hr hmove
    exact ⟨hmoved.scope.1.trans ih.1, hmoved.scope.2.trans ih.2⟩
  | fork _ _ _ ih => exact ih

/-- Every move keeps the cursor in the scope or right behind it. -/
theorem Passes.inScope (h : plan.Passes scope results stage) (hr : plan.registry = .builtIn)
    (hscope : scope.state.InScope plan.steps) : stage.state.InScope plan.steps := by
  induction h with
  | start => exact hscope
  | skip _ hturn ih =>
    obtain ⟨hlt, _, _, hmoved⟩ := moved_of_move_go hr (moveAt_of_skip hturn)
    exact ih.moved hmoved hlt
  | step _ _ hmove ih =>
    obtain ⟨hlt, _, _, hmoved⟩ := moved_of_move_go hr hmove
    exact ih.moved hmoved hlt
  | fork _ hmove _ ih => exact ih.joined (lt_of_move_fork hmove) _ _

theorem Passes.control_eq (h : plan.Passes scope results stage) : stage.control = scope.control := by
  induction h with
  | start => rfl
  | skip _ _ ih => exact ih
  | step _ _ _ ih => exact ih
  | fork _ _ _ ih => exact ih

/-- A run that completes has come to the end of its scope. -/
theorem Ends.progress_of_completed {finished : SectionEnd} (h : plan.EndsAt scope finished)
    (hr : plan.registry = .builtIn) (hscope : scope.state.InScope plan.steps)
    (hcompleted : finished.result = .ok .completed) :
    finished.state.progress = scope.state.scopeEnd := by
  obtain ⟨results, stage, hpasses, hlast⟩ := h.exists_last hr
  obtain ⟨phase, hstate⟩ := hlast.state
  have hfinish := (hpasses.inScope hr hscope).progress_of_turn_finish (hlast.completes hcompleted)
  rw [hstate]
  exact hfinish.trans (hpasses.scope_eq hr).2

theorem Ends.ne_paused {control : Control} {startFrom : Nat} {state : State} {log : Log}
    {finished : SectionEnd} (h : plan.Ends control startFrom state log finished)
    (hr : plan.registry = .builtIn) (hbreakpoints : control.honourBreakpoints = false) (i : Nat) :
    finished.result ≠ .ok (.paused i) := by
  induction h using Plan.Ends.induct with
  | @stop control startFrom state log finished hmove =>
    rintro hpaused
    rw [move] at hmove
    cases hturn : state.turn plan.steps control startFrom log with
    | finish =>
      rw [hturn] at hmove
      cases hmove
      cases hpaused
    | cancel step =>
      rw [hturn] at hmove
      cases hmove
      cases hpaused
    | skip =>
      rw [hturn] at hmove
      cases hmove
    | pause => exact absurd (State.honours_of_turn_pause hturn) (by simp [hbreakpoints])
    -- A dispatched step stops the run only by failing.
    | dispatch step =>
      rw [hturn] at hmove
      dsimp only at hmove
      have hdispatched := dispatched_of_builtIn hr control step state log
      rw [hmove] at hdispatched
      cases hdispatched with
      | faults => cases hpaused
  | go _ _ ih => exact ih hbreakpoints
  | forkFails => simp [State.fault]
  | forkJoins _ _ _ ih => exact ih hbreakpoints

/-! ## Opened scopes -/

/-- The scopes that a run opens: its own, and the sections of forks that stand in opened scopes, once
for each piece that gets a branch. A branch comes with the stage of its fork. -/
inductive Opens (plan : Plan) (root : Stage) : Option Stage → Stage → Prop where
  | root : Opens plan root none root
  | branch {outer : Option Stage} {scope fork : Stage} {results : List Dish} {step : Step}
      {split : Split} {log last : Log} {outputs before after : List String} {piece : String} :
      Opens plan root outer scope → plan.Passes scope results fork →
      plan.moveAt fork = .fork step split log → split.pieces = before ++ piece :: after →
      plan.ForkEnds fork.control fork.state { split with pieces := before } log (.ok outputs) last →
      fork.control.isCancelled last = false →
      Opens plan root (some fork) (plan.branchStage fork piece last)

/-- Every stage of a run lies in an opened scope. -/
theorem Reaches.exists_opens {n : Nat} (h : plan.Reaches root stage n) :
    ∃ outer scope results, plan.Opens root outer scope ∧ plan.Passes scope results stage := by
  induction h with
  | start => exact ⟨none, root, [], .root, .start⟩
  | @go stage n next log _ hmove ih =>
    obtain ⟨outer, scope, results, hopens, hpasses⟩ := ih
    obtain ⟨further, hfurther⟩ := passes_of_go stage hmove
    exact ⟨outer, scope, _, hopens, hpasses.trans hfurther⟩
  | join _ hmove hb ih =>
    obtain ⟨outer, scope, results, hopens, hpasses⟩ := ih
    exact ⟨outer, scope, _, hopens, hpasses.fork hmove hb⟩
  | branch _ hmove hpieces hb hc ih =>
    obtain ⟨outer, scope, results, hopens, hpasses⟩ := ih
    exact ⟨_, _, [], .branch hopens hpasses hmove hpieces hb hc, .start⟩

/-- Every scope that a run opens lies in the steps if the first does. -/
theorem Opens.inScope {outer : Option Stage} (h : plan.Opens root outer scope)
    (hr : plan.registry = .builtIn) (hroot : root.state.InScope plan.steps) :
    scope.state.InScope plan.steps := by
  induction h with
  | root => exact hroot
  | branch _ hpasses hmove _ _ _ ih =>
    exact (hpasses.inScope hr ih).branchOn (lt_of_move_fork hmove) _

end Plan
end Kitchen
