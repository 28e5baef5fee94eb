import Kitchen.Proofs.Number.Exact
import Kitchen.Proofs.Recipe.Halting
import Kitchen.Proofs.Registers.Substitution
import Kitchen.Proofs.Run.Tour

/-!
# A loop with a bound

Steps with one jump, back to a label before it, past straight steps. A bake takes the jump as often as
its bound says: the count of jumps is compared with the bound each time that the cursor comes to the
jump, and is forgotten when it has reached the bound.
-/

namespace Kitchen

/-! ## The bound -/

/-- The bound that a whole number within 32 bits sets. -/
theorem Flow.maxJumpsAt_eq {args : List Argument} {i bound : Nat} {x : Binary64}
    (hx : numberAt? args i = some x) (hwhole : x.isWhole = true) (hvalue : x.truncate = bound)
    (hbound : bound < twoTo 32) : Flow.maxJumpsAt args i = bound := by
  rw [maxJumpsAt, hx]
  cases x with
  | nan => cases hwhole
  | infinite negative => cases hwhole
  | finite negative rank =>
    change (if negative then -(Binary64.floorMagnitude rank : Int) else
      Binary64.floorMagnitude rank) = bound at hvalue
    change (if negative then 0 else min (Binary64.floorMagnitude rank) (twoTo 32 - 1)) = bound
    cases negative with
    | true =>
      rw [if_pos rfl] at hvalue ⊢
      omega
    | false =>
      rw [if_neg Bool.false_ne_true] at hvalue ⊢
      omega

theorem Flow.jumpTo_eq {steps : List Step} {label : String} {state : State} {target : Nat}
    (h : state.findLabel? steps label = some target) (maxJumps : Nat) :
    Flow.jumpTo steps label maxJumps state =
      if state.jumpsTaken < maxJumps then
        { state with progress := target, jumpsTaken := state.jumpsTaken + 1 }
      else Flow.fallThrough state := by
  rw [Flow.jumpTo, h]

/-! ## Loops -/

/-- A jump back to a label is the only one in the steps. Before it stand straight steps, and its bound
is a whole number of 32 bits. -/
structure SingleLoop (steps : List Step) (jump : Step) (label : String) (target place bound : Nat) :
    Prop where
  jump_at : steps[place]? = some jump
  enabled : jump.disabled = false
  unconditional : jump.operation = Flow.jump.name
  args : ∃ x : Binary64, jump.args = [.text label, .number x] ∧ x.isWhole = true ∧ x.truncate = bound
  bound_lt : bound < twoTo 32
  /-- No placeholder stands in the name of the label. -/
  plain : ¬['$', 'R'] <:+: label.toList
  label_at : findStep? steps (·.isLabel label) 0 steps.length = some target
  back : target < place
  single : ∀ i step, steps[i]? = some step → step.isJump = true → i = place
  straight : ∀ i step, i < place → steps[i]? = some step → step.disabled = false →
    step.isStraight = true

namespace SingleLoop

variable {plan : Plan} {jump : Step} {label : String} {target place bound : Nat}

theorem place_lt (h : SingleLoop plan.steps jump label target place bound) :
    place < plan.steps.length :=
  (List.getElem?_eq_some_iff.mp h.jump_at).1

theorem loopsApart (h : SingleLoop plan.steps jump label target place bound) :
    LoopsApart plan.steps := by
  intro i j k label inner other hij hjk _ hinner hother hjump _
  cases hinnerJump : inner.isJump with
  | false => rfl
  | true =>
    have hj := h.single j inner hinner hinnerJump
    have hk := h.single k other hother hjump
    omega

/-- The jump is taken for as long as the count is below the bound, and then forgets the count. -/
theorem exists_move_jump (h : SingleLoop plan.steps jump label target place bound)
    (hr : plan.registry = .builtIn) {stage : Stage} {jumps : Nat}
    (hstands : plan.StandsAt stage place jumps) :
    ∃ next log, plan.moveAt stage = .go next log ∧
      plan.StandsAt { stage with state := next, log } (if jumps < bound then target + 1 else place + 1)
        (if jumps < bound then jumps + 1 else 0) ∧
      ∀ i, log.dispatches i = stage.log.dispatches i + if i = place then 1 else 0 := by
  obtain ⟨x, hargs, hwhole, hvalue⟩ := h.args
  have hmem : Flow.jump ∈ Flow.operations := by simp [Flow.operations]
  have hact : Flow.jump.flow = .act Flow.jumpAction := rfl
  have hlt : stage.state.progress < stage.state.scopeEnd := by
    rw [hstands.progress, hstands.scopeEnd]
    exact h.place_lt
  have hturn := Plan.turn_of_unhindered hstands.unhindered hlt
    (by rw [hstands.progress]; exact h.jump_at) stage.startFrom stage.log
  rw [h.enabled, if_neg Bool.false_ne_true] at hturn
  have hargsFor : stage.state.argsFor jump = [.text label, .number x] := by
    rw [State.argsFor, hargs]
    change [Argument.text (stage.state.registers.substitute label), Argument.number x] = _
    rw [Registers.substitute_eq_self _ h.plain]
  have hmax : Flow.maxJumpsAt [.text label, .number x] 1 = bound :=
    Flow.maxJumpsAt_eq rfl hwhole hvalue h.bound_lt
  have hlabel : (stage.state.inPhase .branching).findLabel? plan.steps label = some target := by
    change findStep? plan.steps (·.isLabel label) stage.state.scopeStart stage.state.scopeEnd = _
    rw [hstands.scopeStart, hstands.scopeEnd]
    exact h.label_at
  have hmove : plan.moveAt stage =
      .go ((Flow.jumpTo plan.steps label bound (stage.state.inPhase .branching)).inPhase
        .running).advance (plan.announced stage.control jump stage.state stage.log) := by
    rw [Plan.moveAt, Plan.move, hturn]
    dsimp only
    rw [Plan.dispatch_action _ _ _ hr hmem h.unconditional hact, hargsFor]
    dsimp only [Flow.jumpAction]
    rw [hmax]
    rfl
  have hcount : (stage.state.inPhase .branching).jumpsTaken = jumps := hstands.jumpsTaken
  rw [Flow.jumpTo_eq hlabel, hcount] at hmove
  refine ⟨_, _, hmove, hstands.of_go hr hmove ?_ ?_, fun i => ?_⟩
  · split
    · rfl
    · exact congrArg (· + 1) hstands.progress
  · split
    · rfl
    · rfl
  · rw [Log.dispatches_announced, hstands.progress]

/-- The steps of the loop and the jump are dispatched once from the label to the end of the jump. -/
private theorem exists_round (h : SingleLoop plan.steps jump label target place bound)
    (hr : plan.registry = .builtIn) {stage : Stage} {jumps : Nat}
    (hstands : plan.StandsAt stage (target + 1) jumps) (hunfailing : plan.Unfailing stage) :
    ∃ moves last, plan.Tours stage moves last ∧
      plan.StandsAt last (if jumps < bound then target + 1 else place + 1)
        (if jumps < bound then jumps + 1 else 0) ∧
      moves.count (place, target + 1) = (if jumps < bound then 1 else 0) ∧
      ∀ i, target < i → i ≤ place → plan.EnabledAt i →
        last.log.dispatches i = stage.log.dispatches i + 1 := by
  have hback := h.back
  obtain ⟨moves, last, htours, hlast, hbefore, hcount⟩ :=
    hstands.exists_walk hr hunfailing h.back (Nat.le_of_lt h.place_lt)
      fun i step _ hi hstep => h.straight i step hi hstep
  obtain ⟨next, log, hmove, hnext, hlog⟩ := h.exists_move_jump hr hlast
  refine ⟨_, _, htours.go hmove, hnext, ?_, fun i hi hi' henabled => ?_⟩
  · have hnone : moves.count (place, target + 1) = 0 :=
      List.count_eq_zero.mpr fun hmem => Nat.lt_irrefl place (hbefore _ hmem)
    have hprogress : next.progress = if jumps < bound then target + 1 else place + 1 := hnext.progress
    rw [List.count_cons, hnone, hlast.progress, hprogress]
    by_cases hleft : jumps < bound
    · simp [hleft]
    · simp [hleft]
      omega
  · rw [hlog i]
    rcases Nat.lt_or_eq_of_le hi' with hlt | rfl
    · rw [(hcount i).2 hi hlt henabled, if_neg (Nat.ne_of_lt hlt)]
    · rw [(hcount i).1 (.inr (Nat.le_refl i)), if_pos rfl]

/-- A run that stands behind the label leaves the loop, with no jumps counted. -/
theorem exists_leaving (h : SingleLoop plan.steps jump label target place bound)
    (hr : plan.registry = .builtIn) {stage : Stage} {jumps : Nat} (hjumps : jumps ≤ bound)
    (hstands : plan.StandsAt stage (target + 1) jumps) (hunfailing : plan.Unfailing stage) :
    ∃ moves last, plan.Tours stage moves last ∧ plan.StandsAt last (place + 1) 0 ∧
      moves.count (place, target + 1) = bound - jumps ∧
      ∀ i, target < i → i ≤ place → plan.EnabledAt i →
        last.log.dispatches i = stage.log.dispatches i + (bound - jumps + 1) := by
  -- By induction on the jumps that are left: a round takes one of them, and the last takes none.
  obtain ⟨left, hleft⟩ : ∃ left, bound - jumps = left := ⟨_, rfl⟩
  induction left generalizing stage jumps with
  | zero =>
    obtain ⟨moves, next, htours, hnext, htaken, hcount⟩ := h.exists_round hr hstands hunfailing
    have hlast : ¬jumps < bound := by omega
    rw [if_neg hlast, if_neg hlast] at hnext
    rw [if_neg hlast] at htaken
    rw [hleft]
    exact ⟨moves, next, htours, hnext, htaken, hcount⟩
  | succ left ih =>
    obtain ⟨moves, next, htours, hnext, htaken, hcount⟩ := h.exists_round hr hstands hunfailing
    have hmore : jumps < bound := by omega
    rw [if_pos hmore, if_pos hmore] at hnext
    rw [if_pos hmore] at htaken
    obtain ⟨further, last, hfurther, hlast, htimes, hdispatches⟩ :=
      ih hmore hnext (hunfailing.of_tours htours) (by omega)
    refine ⟨_, last, htours.trans hfurther, hlast, ?_, fun i hi hi' henabled => ?_⟩
    · rw [List.count_append, htimes, htaken]
      omega
    · rw [hdispatches i hi hi' henabled, hcount i hi hi' henabled]
      omega

/-! ### Behind the jump -/

private theorem isJump_of_lt (h : SingleLoop plan.steps jump label target place bound) {i : Nat}
    {step : Step} (hi : place < i) (hstep : plan.steps[i]? = some step) : step.isJump = false := by
  cases hjump : step.isJump with
  | false => rfl
  | true => exact absurd (h.single i step hstep hjump) (Nat.ne_of_gt hi)

private theorem moved_behind (h : SingleLoop plan.steps jump label target place bound)
    {state next : State} {step : Step} (hplace : place < state.progress)
    (hstep : plan.steps[state.progress]? = some step)
    (hmoved : state.Moved plan.steps step next) :
    state.progress < next.progress ∧ next.jumpsTaken = state.jumpsTaken := by
  have hjump := h.isJump_of_lt hplace hstep
  cases hmoved with
  | onward hprogress _ hjumps => exact ⟨hprogress, hjumps⟩
  | fallsThrough henabled hlabel => simp [Step.isJump, henabled, hlabel] at hjump
  | jumpsTo henabled hlabel => simp [Step.isJump, henabled, hlabel] at hjump

/-- A run behind the jump dispatches neither the jump nor a step before it, in no branch either. -/
private theorem dispatches_behind (h : SingleLoop plan.steps jump label target place bound)
    (hr : plan.registry = .builtIn) {control : Control} {startFrom : Nat} {state : State} {log : Log}
    {finished : SectionEnd} (hends : plan.Ends control startFrom state log finished)
    (hplace : place < state.progress) {i : Nat} (hi : i ≤ place) :
    finished.log.dispatches i = log.dispatches i := by
  have hmove (control : Control) (startFrom : Nat) {state : State} (log : Log)
      (hplace : place < state.progress) :
      (plan.move control startFrom state log).log.dispatches i = log.dispatches i := by
    rcases Plan.log_move_cases hr control startFrom state log with hsame | ⟨step, _, hquiet⟩
    · rw [hsame]
    · rw [hquiet.dispatches, Log.dispatches_announced, if_neg (by omega)]
      rfl
  induction hends using Plan.Ends.induct with
  | @stop control startFrom state log finished hstop =>
    have hlog := hmove control startFrom log hplace
    rwa [hstop] at hlog
  | @go control startFrom state log next log₁ finished hgo _ ih =>
    have hlog := hmove control startFrom log hplace
    obtain ⟨_, step, hstep, hmoved⟩ := Plan.moved_of_move_go hr hgo
    rw [hgo] at hlog
    exact (ih (Nat.lt_trans hplace (h.moved_behind hplace hstep hmoved).1)).trans hlog
  | @forkFails control startFrom state log step split log₁ fault log₂ hfork hbranches =>
    have hlog := hmove control startFrom log hplace
    rw [hfork] at hlog
    -- The scopes of the branches start behind the fork.
    refine hbranches.log_property (q := fun last => last.dispatches i = log.dispatches i) ?_ hlog
    exact fun _ _ _ ⟨_, ih⟩ hq => (ih (Nat.lt_succ_of_lt hplace)).trans hq
  | @forkJoins control startFrom state log step split log₁ outputs log₂ finished hfork hbranches _
      ih =>
    have hlog := hmove control startFrom log hplace
    rw [hfork] at hlog
    have hjoined := State.joined_progress (Plan.lt_of_move_fork hfork) plan.steps split outputs
    refine (ih (Nat.lt_trans hplace hjoined.1)).trans ?_
    refine hbranches.log_property (q := fun last => last.dispatches i = log.dispatches i) ?_ hlog
    exact fun _ _ _ ⟨_, ih⟩ hq => (ih (Nat.lt_succ_of_lt hplace)).trans hq

private theorem exists_tours_behind (h : SingleLoop plan.steps jump label target place bound)
    (hr : plan.registry = .builtIn) {root stage : Stage} {results : List Dish}
    (hpasses : plan.Passes root results stage) (hplace : place < root.state.progress) :
    ∃ moves, plan.Tours root moves stage ∧ place < stage.state.progress ∧
      stage.state.jumpsTaken = root.state.jumpsTaken ∧ ∀ move ∈ moves, place < move.1 := by
  have hgo {moves : List (Nat × Nat)} {stage : Stage} {next : State} {log : Log}
      (htours : plan.Tours root moves stage) (hbehind : place < stage.state.progress)
      (hjumps : stage.state.jumpsTaken = root.state.jumpsTaken)
      (hmoves : ∀ move ∈ moves, place < move.1) (hmove : plan.moveAt stage = .go next log) :
      ∃ moves, plan.Tours root moves { stage with state := next, log } ∧ place < next.progress ∧
        next.jumpsTaken = root.state.jumpsTaken ∧ ∀ move ∈ moves, place < move.1 := by
    obtain ⟨_, step, hstep, hmoved⟩ := Plan.moved_of_move_go hr hmove
    obtain ⟨hprogress, hcount⟩ := h.moved_behind hbehind hstep hmoved
    refine ⟨_, htours.go hmove, Nat.lt_trans hbehind hprogress, hcount.trans hjumps, ?_⟩
    exact List.forall_mem_cons.mpr ⟨hbehind, hmoves⟩
  induction hpasses with
  | start => exact ⟨[], .start, hplace, rfl, by simp⟩
  | skip _ hturn ih =>
    obtain ⟨moves, htours, hbehind, hjumps, hmoves⟩ := ih
    exact hgo htours hbehind hjumps hmoves (Plan.moveAt_of_skip hturn)
  | step _ _ hmove ih =>
    obtain ⟨moves, htours, hbehind, hjumps, hmoves⟩ := ih
    exact hgo htours hbehind hjumps hmoves hmove
  | @fork results stage step split log last outputs _ hmove hb ih =>
    obtain ⟨moves, htours, hbehind, hjumps, hmoves⟩ := ih
    have hjoined := State.joined_progress (Plan.lt_of_move_fork hmove) plan.steps split outputs
    refine ⟨_, htours.join hmove hb, Nat.lt_trans hbehind hjoined.1, hjumps, ?_⟩
    exact List.forall_mem_cons.mpr ⟨hbehind, hmoves⟩

/-- A run behind the jump that ends without a failure completes, with the jumps that it counted. -/
private theorem exists_finish (h : SingleLoop plan.steps jump label target place bound)
    (hr : plan.registry = .builtIn) {stage : Stage} {jumps : Nat}
    (hstands : plan.StandsAt stage (place + 1) jumps) (hunfailing : plan.Unfailing stage)
    {finished : SectionEnd} (hends : plan.EndsAt stage finished) :
    ∃ moves last, plan.Tours stage moves last ∧ plan.turnAt last = .finish ∧
      finished = ⟨.ok .completed, last.state, last.log⟩ ∧ last.state.jumpsTaken = jumps ∧
      moves.count (place, target + 1) = 0 ∧
      ∀ i, i ≤ place → last.log.dispatches i = stage.log.dispatches i := by
  have hplace : place < stage.state.progress := by
    rw [hstands.progress]
    exact Nat.lt_succ_self place
  obtain ⟨results, last, hpasses, hlast⟩ := hends.exists_last hr
  have hcompleted : finished.result = .ok .completed := by
    cases hresult : finished.result with
    | error failure => exact absurd (hlast.fails failure hresult) (hunfailing _ _ _ hpasses)
    | ok status =>
      cases status with
      | completed => rfl
      | paused i => exact absurd hresult (hends.ne_paused hr hstands.unhindered.honourBreakpoints i)
  have hfinish := hlast.completes hcompleted
  have hstop : plan.moveAt last = .stop ⟨.ok .completed, last.state, last.log⟩ := by
    rw [Plan.turnAt] at hfinish
    rw [Plan.moveAt, Plan.move, hfinish]
  obtain ⟨moves, htours, _, hjumps, hmoves⟩ := h.exists_tours_behind hr hpasses hplace
  have hfinished := (htours.endsAt_iff.mp hends).unique (.of_stop hstop)
  refine ⟨moves, last, htours, hfinish, hfinished, hjumps.trans hstands.jumpsTaken, ?_, fun i hi => ?_⟩
  · exact List.count_eq_zero.mpr fun hmem => Nat.lt_irrefl place (hmoves _ hmem)
  · have hlog := h.dispatches_behind hr hends hplace hi
    rwa [hfinished] at hlog

end SingleLoop

namespace Registry

/-- A bake of a recipe with one loop runs to its end. It takes the jump as often as the bound says and
dispatches the steps of the loop and the jump once more than that, and has no jump counted at its end. -/
theorem loop_runs_bound {recipe : Recipe} {plan : Plan} {jump : Step} {label : String}
    {target place bound : Nat} (hp : builtIn.prepare recipe = .ok plan)
    (hloop : SingleLoop plan.steps jump label target place bound) (input : Dish) {control : Control}
    (hcontrol : (plan.control control).Unhindered) (hstart : control.startFrom = 0)
    (hunfailing : plan.Unfailing (plan.firstStage input control)) :
    ∃ moves last, plan.Tours (plan.firstStage input control) moves last ∧
      plan.turnAt last = .finish ∧
      builtIn.Attempts recipe input control
        ⟨SectionEnd.toResult plan.options ⟨.ok .completed, last.state, last.log⟩, last.log, true⟩ ∧
      last.state.jumpsTaken = 0 ∧ moves.count (place, target + 1) = bound ∧
      last.log.dispatches place = bound + 1 ∧
      ∀ i step, target < i → i < place → plan.steps[i]? = some step → step.disabled = false →
        last.log.dispatches i = bound + 1 := by
  obtain ⟨_, hr, _, _⟩ := prepare_eq_ok hp
  have hback := hloop.back
  have hfirst : plan.StandsAt (plan.firstStage input control) 0 0 :=
    ⟨hcontrol, rfl, rfl, by
      change min control.startFrom plan.steps.length = 0
      rw [hstart, Nat.zero_min], rfl⟩
  -- The run ends: with one jump only, no jump stands in the loop of another.
  obtain ⟨finished, hends⟩ : plan.Halts (plan.firstStage input control) := by
    refine (Plan.halts_iff hr (Nat.zero_le _)).mpr ⟨plan.steps.length, fun stage n h => ?_⟩
    exact Nat.le_trans (h.le_jumpsBefore hr hloop.loopsApart)
      (Nat.le_trans List.countP_le_length (List.length_take_le' _ _))
  -- The run walks to the label, goes round the loop until the jump is passed, and walks on to the end.
  obtain ⟨before, entered, hbefore, hentered, hearly, hcount⟩ :=
    hfirst.exists_walk hr hunfailing (Nat.zero_le (target + 1))
      (Nat.le_of_lt (Nat.lt_of_le_of_lt hback hloop.place_lt))
      fun i step _ hi hstep => hloop.straight i step (by omega) hstep
  have hunfailing' := hunfailing.of_tours hbefore
  obtain ⟨around, left, haround, hleft, htaken, hrounds⟩ :=
    hloop.exists_leaving hr (Nat.zero_le bound) hentered hunfailing'
  obtain ⟨behind, last, hbehind, hfinish, rfl, hjumps, hnone, hkept⟩ :=
    hloop.exists_finish hr hleft (hunfailing'.of_tours haround)
      (haround.endsAt_iff.mp (hbefore.endsAt_iff.mp hends))
  have hdispatches (i : Nat) (hi : target < i) (hi' : i ≤ place) (henabled : plan.EnabledAt i) :
      last.log.dispatches i = bound + 1 := by
    rw [hkept i hi', hrounds i hi hi' henabled, (hcount i).1 (.inr hi)]
    exact Nat.zero_add _
  refine ⟨_, last, (hbefore.trans haround).trans hbehind, hfinish,
    (attempts_iff hp).mpr ⟨_, hends, rfl⟩, hjumps, ?_, ?_, ?_⟩
  · have hzero : before.count (place, target + 1) = 0 :=
      List.count_eq_zero.mpr fun hmem => absurd (hearly _ hmem) (by omega)
    rw [List.count_append, List.count_append, hnone, htaken, hzero, Nat.zero_add, Nat.add_zero,
      Nat.sub_zero]
  · exact hdispatches place hback (Nat.le_refl place) ⟨jump, hloop.jump_at, hloop.enabled⟩
  · exact fun i step hi hi' hstep henabled => hdispatches i hi (Nat.le_of_lt hi') ⟨step, hstep, henabled⟩

end Registry

/-! ## A remark in a loop -/

section Infallible

variable {plan : Plan} {root : Stage}

private theorem exists_dispatch_go (hr : plan.registry = .builtIn) {operation : Operation}
    (hmem : operation ∈ Flow.operations) (action : FlowAction) (hact : operation.flow = .act action)
    (hok : ∀ steps args state, ∃ next, action steps args state = .ok next) {step : Step}
    (hname : step.operation = operation.name) (control : Control) (state : State) (log : Log) :
    ∃ next last, plan.dispatch control step state log = .go next last := by
  obtain ⟨next, hnext⟩ := hok plan.steps (state.argsFor step) (state.inPhase .branching)
  rw [Plan.dispatch_action control state log hr hmem hname hact, hnext]
  exact ⟨_, _, rfl⟩

/-- Labels, remarks and jumps do not fail. -/
theorem Plan.unfailing_of_infallible (hr : plan.registry = .builtIn)
    (hc : root.control.Uncancelled)
    (hsteps : ∀ step ∈ plan.steps,
      step.operation ∈ [Flow.label.name, Flow.comment.name, Flow.jump.name]) :
    plan.Unfailing root := by
  intro results stage failure hpasses hfails
  have hstage : stage.control.isCancelled stage.log = false := by
    rw [hpasses.control_eq]
    exact hc.isCancelled stage.log
  have hdispatch {step : Step} (hmem : step ∈ plan.steps) :
      ∃ next last, plan.dispatch stage.control step stage.state stage.log = .go next last := by
    have hname := hsteps step hmem
    simp only [List.mem_cons, List.not_mem_nil, or_false] at hname
    rcases hname with hname | hname | hname
    · exact exists_dispatch_go hr (by simp [Flow.operations]) _ rfl
        (fun _ _ state => ⟨state, rfl⟩) hname _ _ _
    · exact exists_dispatch_go hr (by simp [Flow.operations]) _ rfl
        (fun _ _ state => ⟨state, rfl⟩) hname _ _ _
    · exact exists_dispatch_go hr (by simp [Flow.operations]) Flow.jumpAction rfl
        (fun _ _ _ => ⟨_, rfl⟩) hname _ _ _
  have hmoves : (∃ status left log, plan.moveAt stage = .stop ⟨.ok status, left, log⟩) ∨
      ∃ next log, plan.moveAt stage = .go next log := by
    rw [Plan.moveAt, Plan.move]
    cases hturn : stage.state.turn plan.steps stage.control stage.startFrom stage.log with
    | finish => exact .inl ⟨_, _, _, rfl⟩
    | cancel step =>
      have hcancelled := State.isCancelled_of_turn_cancel hturn
      rw [hstage] at hcancelled
      cases hcancelled
    | skip => exact .inr ⟨_, _, rfl⟩
    | pause => exact .inl ⟨_, _, _, rfl⟩
    | dispatch step => exact .inr (hdispatch (List.mem_of_getElem? (State.of_turn_dispatch hturn).2.1))
  cases hfails with
  | step hmove => rcases hmoves with ⟨_, _, _, h⟩ | ⟨_, _, h⟩ <;> cases hmove.symm.trans h
  | fork hmove => rcases hmoves with ⟨_, _, _, h⟩ | ⟨_, _, h⟩ <;> cases hmove.symm.trans h

end Infallible

/-- A remark that a jump repeats twice. -/
def Recipe.repeatedRemark : Recipe :=
  ⟨1, [⟨"Label", [.text "a"], false, false⟩, ⟨"Comment", [], false, false⟩,
    ⟨"Jump", [.text "a", .number (.ofNat 2)], false, false⟩], .default⟩

def Plan.repeatedRemark : Plan :=
  ⟨.builtIn, [⟨0, "Label", [.text "a"], false, false⟩, ⟨1, "Comment", [.text ""], false, false⟩,
    ⟨2, "Jump", [.text "a", .number (.ofNat 2)], false, false⟩], .default⟩

theorem Registry.loop_runs_bound_repeatedRemark :
    builtIn.prepare .repeatedRemark = .ok Plan.repeatedRemark ∧
      SingleLoop Plan.repeatedRemark.steps
        ⟨2, "Jump", [.text "a", .number (.ofNat 2)], false, false⟩ "a" 0 2 2 ∧
      (Plan.repeatedRemark.control (.straight false)).Unhindered ∧
      (Control.straight false).startFrom = 0 ∧
      Plan.repeatedRemark.Unfailing (Plan.repeatedRemark.firstStage (.string "x") (.straight false)) ∧
      ∃ moves last, Plan.repeatedRemark.Tours
          (Plan.repeatedRemark.firstStage (.string "x") (.straight false)) moves last ∧
        Plan.repeatedRemark.turnAt last = .finish ∧
        builtIn.Attempts .repeatedRemark (.string "x") (.straight false)
          ⟨SectionEnd.toResult .default ⟨.ok .completed, last.state, last.log⟩, last.log, true⟩ ∧
        last.state.jumpsTaken = 0 ∧ moves.count (2, 1) = 2 ∧ last.log.dispatches 2 = 3 ∧
        ∀ i step, 0 < i → i < 2 → Plan.repeatedRemark.steps[i]? = some step →
          step.disabled = false → last.log.dispatches i = 3 := by
  have hp : builtIn.prepare .repeatedRemark = .ok Plan.repeatedRemark := rfl
  have hloop : SingleLoop Plan.repeatedRemark.steps
      ⟨2, "Jump", [.text "a", .number (.ofNat 2)], false, false⟩ "a" 0 2 2 := {
    jump_at := rfl
    enabled := rfl
    unconditional := rfl
    args := ⟨.ofNat 2, rfl, Binary64.isWhole_and_truncate_ofNat (by decide)⟩
    bound_lt := by decide
    plain := by decide
    label_at := by decide
    back := by decide
    single := by
      intro i step hstep hjump
      match i, hstep with
      | 0, rfl => exact absurd hjump (by decide)
      | 1, rfl => exact absurd hjump (by decide)
      | 2, _ => rfl
    straight := by
      intro i step hi hstep _
      match i, hstep with
      | 0, rfl => rfl
      | 1, rfl => rfl }
  have hcontrol : (Plan.repeatedRemark.control (.straight false)).Unhindered :=
    Control.unhindered_straight false
  have hunfailing : Plan.repeatedRemark.Unfailing
      (Plan.repeatedRemark.firstStage (.string "x") (.straight false)) :=
    Plan.unfailing_of_infallible rfl rfl (by decide)
  exact ⟨hp, hloop, hcontrol, rfl, hunfailing,
    loop_runs_bound hp hloop (.string "x") hcontrol rfl hunfailing⟩

end Kitchen
