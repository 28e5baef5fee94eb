import Kitchen.Bake.Outcome
import Kitchen.Proofs.Run.Progress

/-!
# Stages of a run

The moments that a run comes to, those in the branches of its forks included. What keeps a run from
its end is told by the count of jumps alone: the run halts if the count is forgotten a bounded number
of times, and the turns of a run that halts are such a bound.
-/

namespace Kitchen

/-- A moment of a run. -/
structure Stage where
  control : Control
  startFrom : Nat
  state : State
  log : Log

namespace Plan

/-- The move at a stage. -/
def moveAt (plan : Plan) (stage : Stage) : Move :=
  plan.move stage.control stage.startFrom stage.state stage.log

/-- The run ends from a stage. -/
abbrev EndsAt (plan : Plan) (stage : Stage) (finished : SectionEnd) : Prop :=
  plan.Ends stage.control stage.startFrom stage.state stage.log finished

/-- The run comes to an end from a stage. -/
def Halts (plan : Plan) (stage : Stage) : Prop :=
  ∃ finished, plan.Ends stage.control stage.startFrom stage.state stage.log finished

/-- The first stage of the branch that the fork at a stage starts on a piece. -/
def branchStage (plan : Plan) (stage : Stage) (piece : String) (log : Log) : Stage :=
  let branch := stage.state.branchOn plan.steps piece
  ⟨stage.control.forBranch, branch.startFrom stage.control.forBranch, branch.inPhase .running, log⟩

/-- The stage at which the bake of an input starts. -/
def firstStage (plan : Plan) (input : Dish) (control : Control) : Stage :=
  let state := plan.initial input control
  ⟨plan.control control, state.startFrom (plan.control control), state.inPhase .running, []⟩

end Plan

/-- The bake of an input by a recipe ends, with a result and events. -/
def Registry.Attempts (registry : Registry) (recipe : Recipe) (input : Dish) (control : Control)
    (attempt : Attempt) : Prop :=
  ∃ fuel, registry.bake fuel recipe input control = some attempt

/-- A bake by a recipe that does not fit ends with the failure to fit. -/
theorem Registry.attempts_iff_of_error {registry : Registry} {recipe : Recipe} {failure : Failure}
    (hp : registry.prepare recipe = .error failure) {input : Dish} {control : Control}
    {attempt : Attempt} :
    registry.Attempts recipe input control attempt ↔ attempt = ⟨.error failure, [], true⟩ := by
  simp only [Attempts, bake, hp, Option.some.injEq, exists_const, eq_comm]

/-- A bake by a recipe that fits is the run of its plan from the first stage. -/
theorem Registry.attempts_iff {registry : Registry} {recipe : Recipe} {plan : Plan}
    (hp : registry.prepare recipe = .ok plan) {input : Dish} {control : Control}
    {attempt : Attempt} :
    registry.Attempts recipe input control attempt ↔
      ∃ finished, plan.EndsAt (plan.firstStage input control) finished ∧
        attempt = ⟨finished.toResult plan.options, finished.log, true⟩ := by
  simp only [Attempts, bake, hp]
  constructor
  · rintro ⟨fuel, hbake⟩
    obtain ⟨finished, hf, rfl⟩ := Option.map_eq_some_iff.mp hbake
    exact ⟨finished, ⟨fuel, hf⟩, rfl⟩
  · rintro ⟨finished, ⟨fuel, hf⟩, rfl⟩
    exact ⟨fuel, Option.map_eq_some_iff.mpr ⟨finished, hf, rfl⟩⟩

/-- A bake has one result. -/
theorem Registry.Attempts.unique {registry : Registry} {recipe : Recipe} {input : Dish}
    {control : Control} {attempt other : Attempt}
    (h : registry.Attempts recipe input control attempt)
    (h' : registry.Attempts recipe input control other) : attempt = other := by
  cases hp : registry.prepare recipe with
  | error failure =>
    rw [(attempts_iff_of_error hp).mp h, (attempts_iff_of_error hp).mp h']
  | ok plan =>
    obtain ⟨finished, hends, rfl⟩ := (attempts_iff hp).mp h
    obtain ⟨finished', hends', rfl⟩ := (attempts_iff hp).mp h'
    rw [hends.unique hends']

/-- One, if a move from a state to the next forgets jumps. -/
def State.forgets (state next : State) : Nat :=
  if 0 < state.jumpsTaken ∧ next.jumpsTaken = 0 then 1 else 0

theorem State.forgets_le (state next : State) : state.forgets next ≤ 1 := by
  unfold State.forgets
  split <;> omega

theorem State.forgets_eq_zero {state next : State} (h : state.jumpsTaken ≤ next.jumpsTaken) :
    state.forgets next = 0 := by
  unfold State.forgets
  rw [if_neg (by omega)]

/-- The stages that a run comes to, with the number of times that jumps have been forgotten so far in
the run or in the branch in which the stage is. -/
inductive Plan.Reaches (plan : Plan) (root : Stage) : Stage → Nat → Prop where
  | start : Reaches plan root root 0
  | go {stage : Stage} {n : Nat} {next : State} {log : Log} : Reaches plan root stage n →
      plan.moveAt stage = .go next log →
      Reaches plan root { stage with state := next, log } (n + stage.state.forgets next)
  | join {stage : Stage} {n : Nat} {step : Step} {split : Split} {log last : Log}
      {outputs : List String} : Reaches plan root stage n →
      plan.moveAt stage = .fork step split log →
      plan.ForkEnds stage.control stage.state split log (.ok outputs) last →
      Reaches plan root
        { stage with state := stage.state.joined plan.steps split outputs, log := last } n
  | branch {stage : Stage} {n : Nat} {step : Step} {split : Split} {log last : Log}
      {outputs : List String} {before after : List String} {piece : String} :
      Reaches plan root stage n → plan.moveAt stage = .fork step split log →
      split.pieces = before ++ piece :: after →
      plan.ForkEnds stage.control stage.state { split with pieces := before } log (.ok outputs)
        last →
      stage.control.isCancelled last = false →
      Reaches plan root (plan.branchStage stage piece last) 0

/-! ## Branches one after another -/

section Branches

variable {run run' : State → Log → SectionEnd → Prop} {control : Control} {ignoreErrors : Bool}
  {branch : String → State} {log last last' : Log} {before after : List String} {piece : String}
  {outputs : List String} {result : Except Fault (List String)}

/-- If a fork comes to an end past some pieces, the branch on the next piece ends. -/
theorem Branches.exists_run {passed : Except Fault (List String)}
    (h : Branches run control ignoreErrors branch before log passed last)
    (hpassed : ∀ fault, passed ≠ .error fault)
    (hall : Branches run' control ignoreErrors branch (before ++ piece :: after) log result last')
    (hsame : ∀ {state log finished finished'}, run state log finished → run' state log finished' →
      finished = finished')
    (hc : control.isCancelled last = false) : ∃ finished, run' (branch piece) last finished := by
  induction h generalizing result with
  | nil log =>
    cases hall with
    | cancelled hcancelled =>
      rw [hc] at hcancelled
      exact absurd hcancelled (by simp)
    | text _ hrun => exact ⟨_, hrun⟩
    | noText _ hrun => exact ⟨_, hrun⟩
    | skipped _ hrun => exact ⟨_, hrun⟩
    | failed _ hrun => exact ⟨_, hrun⟩
  | cancelled => exact absurd rfl (hpassed _)
  | noText => exact absurd rfl (hpassed _)
  | failed => exact absurd rfl (hpassed _)
  | @text other rest log next last status baked output passed hc₁ hrun ho _ ih =>
    have hrest : ∀ fault, passed ≠ .error fault := by
      rintro fault rfl
      exact hpassed fault rfl
    cases hall with
    | cancelled hcancelled =>
      rw [hc₁] at hcancelled
      exact absurd hcancelled (by simp)
    | text _ hrun' _ htail =>
      cases hsame hrun hrun'
      exact ih hrest htail hc
    | noText _ hrun' ho' =>
      cases hsame hrun hrun'
      rw [ho] at ho'
      exact absurd ho' (by simp)
    | skipped _ hrun' => exact absurd (hsame hrun hrun') (by simp)
    | failed _ hrun' => exact absurd (hsame hrun hrun') (by simp)
  | @skipped other rest log next last failure left passed hc₁ hrun hi _ ih =>
    cases hall with
    | cancelled hcancelled =>
      rw [hc₁] at hcancelled
      exact absurd hcancelled (by simp)
    | text _ hrun' => exact absurd (hsame hrun hrun') (by simp)
    | noText _ hrun' => exact absurd (hsame hrun hrun') (by simp)
    | skipped _ hrun' _ htail =>
      cases hsame hrun hrun'
      exact ih hpassed htail hc
    | failed _ hrun' hi' =>
      cases hsame hrun hrun'
      rw [hi] at hi'
      exact absurd hi' (by simp)

/-- Branches that end, each where those before it have ended, make a fork that ends. -/
theorem Branches.exists_of_run {pieces : List String} (log : Log)
    (h : ∀ before piece after outputs last, pieces = before ++ piece :: after →
      Branches run control ignoreErrors branch before log (.ok outputs) last →
      control.isCancelled last = false → ∃ finished, run (branch piece) last finished) :
    ∃ result last, Branches run control ignoreErrors branch pieces log result last := by
  induction pieces generalizing log with
  | nil => exact ⟨_, _, .nil log⟩
  | cons piece rest ih =>
    by_cases hc : control.isCancelled log = true
    · exact ⟨_, _, .cancelled hc⟩
    · replace hc := Bool.eq_false_iff.mpr hc
      obtain ⟨⟨failure | status, baked, next⟩, hrun⟩ := h [] piece rest [] log rfl (.nil log) hc
      · cases hi : ignoreErrors && failure.kind != .cancelled with
        | false => exact ⟨_, _, .failed hc hrun hi⟩
        | true =>
          obtain ⟨result, last, hrest⟩ := ih next
            fun before other after outputs last hpieces hbefore =>
              h (piece :: before) other after outputs last (by rw [hpieces]; rfl)
                (.skipped hc hrun hi hbefore)
          exact ⟨result, last, .skipped hc hrun hi hrest⟩
      · cases ho : Flow.branchOutput baked.dish with
        | error fault => exact ⟨_, _, .noText hc hrun ho⟩
        | ok output =>
          obtain ⟨result, last, hrest⟩ := ih next
            fun before other after outputs last hpieces hbefore =>
              h (piece :: before) other after (output :: outputs) last (by rw [hpieces]; rfl)
                (.text hc hrun ho hbefore)
          exact ⟨_, last, .text hc hrun ho hrest⟩

end Branches

/-! ## A run that halts -/

section Halting

variable {plan : Plan} {root stage : Stage} {n : Nat}

/-- Of the turns that suffice for a run, those left at a stage suffice from there, and each time that
jumps were forgotten took one. -/
private theorem Plan.Reaches.exists_fuel (h : plan.Reaches root stage n) {fuel : Nat}
    {finished : SectionEnd}
    (hroot : plan.runFrom fuel root.control root.startFrom root.state root.log = some finished) :
    ∃ left finished', left + n ≤ fuel ∧
      plan.runFrom left stage.control stage.startFrom stage.state stage.log = some finished' := by
  induction h with
  | start => exact ⟨fuel, finished, Nat.le_refl _, hroot⟩
  | @go stage n next log _ hmove ih =>
    obtain ⟨_, finished', hle, hrun⟩ := ih
    obtain ⟨left, rfl⟩ := Plan.exists_of_runFrom_eq_some hrun
    have hforgets := State.forgets_le stage.state next
    rw [Plan.runFrom_succ, show plan.move _ _ _ _ = _ from hmove] at hrun
    exact ⟨left, finished', by omega, hrun⟩
  | @join stage n step split log last outputs _ hmove hb ih =>
    obtain ⟨_, finished', hle, hrun⟩ := ih
    obtain ⟨left, rfl⟩ := Plan.exists_of_runFrom_eq_some hrun
    rw [Plan.runFrom_succ, show plan.move _ _ _ _ = _ from hmove] at hrun
    obtain ⟨⟨result, log'⟩, hbaked, hafter⟩ := Option.bind_eq_some_iff.mp hrun
    obtain ⟨rfl, rfl⟩ := hb.bakePieces_eq hbaked
    exact ⟨left, finished', by omega, hafter⟩
  | @branch stage n step split log last outputs before after piece _ hmove hpieces hb hc ih =>
    obtain ⟨_, finished', hle, hrun⟩ := ih
    obtain ⟨left, rfl⟩ := Plan.exists_of_runFrom_eq_some hrun
    rw [Plan.runFrom_succ, show plan.move _ _ _ _ = _ from hmove] at hrun
    obtain ⟨⟨result, log'⟩, hbaked, _⟩ := Option.bind_eq_some_iff.mp hrun
    rw [hpieces] at hbaked
    obtain ⟨finished', hbranch⟩ := hb.exists_run (by simp) (branches_iff.mpr hbaked)
      (fun hends hrun => Plan.Ends.unique hends ⟨left, hrun⟩) hc
    exact ⟨left, finished', by omega, hbranch⟩

/-- No stage of a run stands before its scope. -/
private theorem Plan.Reaches.scopeStart_le (h : plan.Reaches root stage n)
    (hr : plan.registry = .builtIn) (hroot : root.state.scopeStart ≤ root.state.progress) :
    stage.state.scopeStart ≤ stage.state.progress := by
  induction h with
  | start => exact hroot
  | go _ hmove ih =>
    obtain ⟨_, step, _, hmoved⟩ := moved_of_move_go hr hmove
    dsimp only
    cases hmoved with
    | onward hlt _ _ hstart _ => omega
    | fallsThrough _ _ hprogress _ hstart _ => omega
    | jumpsTo _ _ hlabel _ hprogress _ hstart _ =>
      have htarget := (findStep?_eq_some hlabel).1
      omega
  | @join stage _ _ split _ _ outputs _ hmove _ ih =>
    have hjoined := State.joined_progress (lt_of_move_fork hmove) plan.steps split outputs
    exact Nat.le_trans ih (Nat.le_of_lt hjoined.1)
  | branch => exact Nat.le_refl _

/-- How far a state is from its end at most: the length of its scope, how often jumps may still be
forgotten, how often jumps may still be taken until then, and the steps before it. -/
private def State.rank (bound n : Nat) (state : State) : Nat × Nat × Nat × Nat :=
  (state.scopeEnd - state.scopeStart, bound - n, twoTo 32 - 1 - state.jumpsTaken,
    state.scopeEnd - state.progress)

private abbrev RankLt : Nat × Nat × Nat × Nat → Nat × Nat × Nat × Nat → Prop :=
  Prod.Lex (· < ·) (Prod.Lex (· < ·) (Prod.Lex (· < ·) (· < ·)))

private theorem State.rank_lt {bound n m : Nat} {state next : State}
    (hstart : next.scopeStart = state.scopeStart) (hend : next.scopeEnd = state.scopeEnd)
    (h : bound - m < bound - n ∨ m = n ∧ (twoTo 32 - 1 - next.jumpsTaken <
        twoTo 32 - 1 - state.jumpsTaken ∨ next.jumpsTaken = state.jumpsTaken ∧
          state.scopeEnd - next.progress < state.scopeEnd - state.progress)) :
    RankLt (next.rank bound m) (state.rank bound n) := by
  unfold State.rank
  rw [hstart, hend]
  refine .right _ ?_
  rcases h with hlt | ⟨rfl, hlt | ⟨hjumps, hlt⟩⟩
  · exact .left _ _ hlt
  · exact .right _ (.left _ _ hlt)
  · rw [hjumps]
    exact .right _ (.right _ hlt)

private theorem State.Moved.rank_lt {bound n : Nat} {steps : List Step} {state next : State}
    {step : Step} (h : state.Moved steps step next) (hlt : state.progress < state.scopeEnd)
    (hbound : n + state.forgets next ≤ bound) :
    RankLt (next.rank bound (n + state.forgets next)) (state.rank bound n) := by
  refine State.rank_lt h.scope.1 h.scope.2 ?_
  by_cases hforgets : 0 < state.jumpsTaken ∧ next.jumpsTaken = 0
  · rw [State.forgets, if_pos hforgets] at hbound ⊢
    exact .inl (by omega)
  · rw [State.forgets, if_neg hforgets]
    refine .inr ⟨rfl, ?_⟩
    cases h with
    | onward hprogress _ hjumps => exact .inr ⟨hjumps, by omega⟩
    | fallsThrough _ _ hprogress hjumps => exact .inr ⟨by omega, by omega⟩
    | jumpsTo _ _ _ hmax _ hjumps => exact .inl (by omega)

private theorem State.joined_rank_lt {bound n : Nat} {state : State}
    (hlt : state.progress < state.scopeEnd) (steps : List Step) (split : Split)
    (outputs : List String) :
    RankLt ((state.joined steps split outputs).rank bound n) (state.rank bound n) := by
  have hjoined := State.joined_progress hlt steps split outputs
  exact State.rank_lt rfl rfl (.inr ⟨rfl, .inr ⟨rfl, by omega⟩⟩)

private theorem State.branchOn_rank_lt {bound n : Nat} {state : State}
    (hlt : state.progress < state.scopeEnd) (hstart : state.scopeStart ≤ state.progress)
    (steps : List Step) (piece : String) :
    RankLt (((state.branchOn steps piece).inPhase .running).rank bound 0) (state.rank bound n) := by
  refine .left _ _ ?_
  change (state.forkSection steps).2 - (state.progress + 1) < state.scopeEnd - state.scopeStart
  have hle := (State.forkSection_bounds hlt steps).2
  omega

/-- Where jumps are forgotten a bounded number of times, the run halts from every stage. -/
private theorem Plan.Reaches.halts (hr : plan.registry = .builtIn)
    (hroot : root.state.scopeStart ≤ root.state.progress) {bound : Nat}
    (hbound : ∀ stage n, plan.Reaches root stage n → n ≤ bound) {stage : Stage} {n : Nat}
    (h : plan.Reaches root stage n) : plan.Halts stage := by
  cases hmove : plan.moveAt stage with
  | stop finished => exact ⟨finished, .of_stop hmove⟩
  | go next log =>
    have hnext := h.go hmove
    have hle := hbound _ _ hnext
    obtain ⟨hlt, step, _, hmoved⟩ := moved_of_move_go hr hmove
    obtain ⟨finished, hends⟩ := Reaches.halts hr hroot hbound hnext
    exact ⟨finished, .of_go hmove hends⟩
  | fork step split log =>
    have hlt := lt_of_move_fork hmove
    have hscope := h.scopeStart_le hr hroot
    have hbranches : ∃ result last, plan.ForkEnds stage.control stage.state split log result last :=
      Branches.exists_of_run log fun before piece after outputs last hpieces hbefore hc =>
        have hbranch := h.branch hmove hpieces hbefore hc
        Reaches.halts hr hroot hbound hbranch
    obtain ⟨result, last, hb⟩ := hbranches
    cases result with
    | error fault => exact ⟨_, .of_forkFails hmove hb⟩
    | ok outputs =>
      have hjoined := h.join hmove hb
      obtain ⟨finished, hends⟩ := Reaches.halts hr hroot hbound hjoined
      exact ⟨finished, .of_forkJoins hmove hb hends⟩
termination_by stage.state.rank bound n
decreasing_by
  · exact hmoved.rank_lt hlt hle
  · exact State.branchOn_rank_lt hlt hscope _ _
  · exact State.joined_rank_lt hlt _ _ _

/-- A run halts if and only if there is a bound on how often it, or a branch in it, forgets jumps. -/
theorem Plan.halts_iff (hr : plan.registry = .builtIn)
    (hroot : root.state.scopeStart ≤ root.state.progress) :
    plan.Halts root ↔ ∃ bound, ∀ stage n, plan.Reaches root stage n → n ≤ bound := by
  constructor
  · rintro ⟨finished, fuel, hf⟩
    refine ⟨fuel, fun stage n h => ?_⟩
    obtain ⟨left, _, hle, _⟩ := h.exists_fuel hf
    omega
  · rintro ⟨bound, hbound⟩
    exact Plan.Reaches.halts hr hroot hbound .start

end Halting
end Kitchen
