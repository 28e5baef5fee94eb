import Kitchen.Operation.BuiltIn
import Kitchen.Proofs.Recipe.IdleSteps
import Kitchen.Proofs.Run.Result

/-!
# The section of a fork

A fork runs the steps behind it, up to the next merge, on every piece of its dish. What a piece comes
to is what these steps come to as a recipe of their own, started on the piece with the registers of
the fork.
-/

namespace Kitchen

/-- The recipe made of a range of the steps. -/
def Recipe.slice (recipe : Recipe) (first stop : Nat) : Recipe :=
  { recipe with steps := (recipe.steps.drop first).take (stop - first) }

namespace Plan

/-- The state in which a plan starts alone on a piece of text with some registers. -/
def onPiece (plan : Plan) (registers : Registers) (piece : String) : State :=
  { State.start plan.steps.length (.string piece) with registers }

/-- Alone on a piece, the plan completes with a text. -/
def GivesText (plan : Plan) (registers : Registers) (piece output : String) : Prop :=
  ∃ baked log, plan.SectionEnds (.straight false) (plan.onPiece registers piece) []
      ⟨.ok .completed, baked, log⟩ ∧
    Flow.branchOutput baked.dish = .ok output

/-- Alone on a piece, the plan completes with a dish that has no text. -/
def GivesNoText (plan : Plan) (registers : Registers) (piece : String) (fault : Fault) : Prop :=
  ∃ baked log, plan.SectionEnds (.straight false) (plan.onPiece registers piece) []
      ⟨.ok .completed, baked, log⟩ ∧
    Flow.branchOutput baked.dish = .error fault

/-- Alone on a piece, the plan fails. -/
def Fails (plan : Plan) (registers : Registers) (piece : String) (failure : Failure) : Prop :=
  ∃ left log, plan.SectionEnds (.straight false) (plan.onPiece registers piece) []
    ⟨.error failure, left, log⟩

end Plan

/-! ## Branches that give texts -/

section Branches

variable {run : State → Log → SectionEnd → Prop} {control : Control} {branch : String → State}

/-- The branch on a piece completes with a text. -/
private def BranchGives (run : State → Log → SectionEnd → Prop) (branch : String → State)
    (piece output : String) : Prop :=
  ∀ log, ∃ status baked next, run (branch piece) log ⟨.ok status, baked, next⟩ ∧
    Flow.branchOutput baked.dish = .ok output

/-- Behind pieces that give texts a fork goes on with the others. -/
private theorem Branches.after_texts (hc : control.Uncancelled) (output : String → String)
    (before after : List String) (h : ∀ piece ∈ before, BranchGives run branch piece (output piece))
    (log : Log) :
    ∃ log', ∀ result last, Branches run control false branch after log' result last →
      Branches run control false branch (before ++ after) log
        (result.map (before.map output ++ ·)) last := by
  induction before generalizing log with
  | nil =>
    refine ⟨log, fun result last hb => ?_⟩
    have hmap : result.map (([] : List String) ++ ·) = result := by cases result <;> rfl
    rw [List.map_nil, hmap]
    exact hb
  | cons piece rest ih =>
    obtain ⟨status, baked, next, hrun, houtput⟩ := h piece List.mem_cons_self log
    obtain ⟨log', hrest⟩ := ih (fun other ho => h other (List.mem_cons_of_mem _ ho)) next
    refine ⟨log', fun result last hb => ?_⟩
    have htext := Branches.text (hc.isCancelled log) hrun houtput (hrest result last hb)
    have hmap : (result.map (rest.map output ++ ·)).map (output piece :: ·) =
        result.map ((piece :: rest).map output ++ ·) := by cases result <;> rfl
    rwa [hmap] at htext

end Branches

/-! ## The section alone -/

section Section

variable {recipe : Recipe} {plan alone : Plan} {first stop : Nat}

private theorem getElem?_slice {i : Nat} (hi : first ≤ i) (hi' : i < stop) :
    (recipe.slice first stop).steps[i - first]? = recipe.steps[i]? := by
  have hadd : first + (i - first) = i := by omega
  rw [Recipe.slice, List.getElem?_take_of_lt (by omega), List.getElem?_drop, hadd]

private theorem thinning_slice (hp : Registry.builtIn.prepare recipe = .ok plan)
    (ha : Registry.builtIn.prepare (recipe.slice first stop) = .ok alone)
    (hstop : stop ≤ plan.steps.length) :
    Thinning plan.steps alone.steps first stop (· - first) := by
  obtain ⟨_, _, _, hsteps⟩ := Registry.prepare_eq_ok hp
  refine Registry.thinning_of_selection hp ha fun i hi hi' => ?_
  rw [Registry.length_prepareSteps hsteps] at hstop
  have hget : recipe.steps[i]? = some recipe.steps[i] := List.getElem?_eq_getElem (by omega)
  exact ⟨_, hget, .inl ⟨by omega, (getElem?_slice hi hi').trans hget⟩⟩

private theorem length_slice (hp : Registry.builtIn.prepare recipe = .ok plan)
    (ha : Registry.builtIn.prepare (recipe.slice first stop) = .ok alone)
    (hstop : stop ≤ plan.steps.length) : alone.steps.length = stop - first := by
  obtain ⟨_, _, _, hsteps⟩ := Registry.prepare_eq_ok hp
  obtain ⟨_, _, _, hsteps'⟩ := Registry.prepare_eq_ok ha
  rw [Registry.length_prepareSteps hsteps] at hstop
  rw [Registry.length_prepareSteps hsteps', Recipe.slice, List.length_take, List.length_drop]
  omega

/-- A branch on the section of a plan ends as the section ends alone, in its places. -/
private theorem exists_sectionEnds (hp : Registry.builtIn.prepare recipe = .ok plan)
    (ha : Registry.builtIn.prepare (recipe.slice first stop) = .ok alone)
    (hfirst : first ≤ stop) (hstop : stop ≤ plan.steps.length) {control : Control}
    (hc : control.Unhindered) (state : State) {piece : String} {finished' : SectionEnd}
    (h : alone.SectionEnds (.straight false) (alone.onPiece state.registers piece) [] finished')
    (log : Log) :
    ∃ finished, plan.SectionEnds control (state.branch (.string piece) first stop) log finished ∧
      finished.Aligned first stop (· - first) finished' := by
  obtain ⟨_, hr, _, _⟩ := Registry.prepare_eq_ok hp
  obtain ⟨_, hr', _, _⟩ := Registry.prepare_eq_ok ha
  have T := thinning_slice hp ha hstop
  have hc' := Control.unhindered_straight false
  have hstart : alone.onPiece state.registers piece =
      state.branch (.string piece) (first - first) (stop - first) := by
    rw [Plan.onPiece, length_slice hp ha hstop, Nat.sub_self]
    rfl
  have haligned : Aligned first stop (· - first) (state.branch (.string piece) first stop)
      (alone.onPiece state.registers piece) := by
    rw [hstart]
    exact aligned_branch (Nat.le_refl _) hfirst (Nat.le_refl _) state _
  have hrunning := haligned.inPhase .running .running
  obtain ⟨finished, hends⟩ := h.led T hr hr' hc' control _ hc.uncancelled hrunning
    ((state.branch (.string piece) first stop).startFrom control) log
  obtain ⟨_, hends', hfinished⟩ := (hends.followed T hr hr' hc.uncancelled _ _ hc' hrunning _
    []).exists_aligned hc
  obtain rfl := h.unique hends'
  exact ⟨finished, hends, hfinished⟩

end Section

/-! ## Forks -/

/-- The step behind the section of a fork at the cursor: behind the next merge, or at the end of the
scope. -/
def State.behindFork (state : State) (steps : List Step) : Nat :=
  ((state.findMerge? steps state.progress).map (· + 1)).getD state.scopeEnd

section Forks

variable {plan : Plan} {control : Control} {startFrom : Nat} {state : State} {log : Log}
  {step : Step} {split join text : String}

/-- Behind a fork only the dish and the cursor have changed. -/
theorem joined_eq {steps : List Step} (hlt : state.progress < state.scopeEnd)
    (split : Split) (outputs : List String) :
    state.joined steps split outputs =
      { state with
        dish := .string (split.join.intercalate outputs)
        progress := state.behindFork steps
        phase := .running } := by
  have hbehind : state.afterFork steps + 1 = state.behindFork steps := by
    unfold State.afterFork State.behindFork
    cases state.findMerge? steps state.progress with
    | none =>
      rw [Option.getD_none, Option.map_none, Option.getD_none]
      omega
    | some merge => rfl
  rw [State.joined, hbehind]

/-- A delimiter that names no register is decoded as it is written. -/
theorem delimiterOf_substitute {registers : Registers} {text delimiter : String}
    (hsame : registers.substitute text = text) (hdelimiter : delimiterOf text = .ok delimiter) :
    delimiterOf (registers.substitute text) = .ok delimiter := by
  rw [hsame, hdelimiter]

/-- A fork with decodable delimiters on a dish with a text comes to its branches. -/
theorem move_fork {ignoreErrors : Bool} (hr : plan.registry = .builtIn)
    (hturn : state.turn plan.steps control startFrom log = .dispatch step)
    (hfork : step.operation = Flow.fork.name)
    (hsplit : delimiterOf (textAt (state.argsFor step) 0) = .ok split)
    (hjoin : delimiterOf (textAt (state.argsFor step) 1) = .ok join)
    (hignore : boolAt (state.argsFor step) 2 = ignoreErrors) (htext : state.text = .ok text) :
    plan.move control startFrom state log =
      .fork step ⟨Flow.pieces text split, join, ignoreErrors⟩
        (plan.announced control step state log) := by
  have hop : plan.registry.operation step.operation = Flow.fork :=
    Plan.operation_eq hr (by simp [builtInOperations, Flow.operations]) hfork
  have hparts : state.forkParts (state.argsFor step) = .ok (split, join, text) := by
    rw [State.forkParts, hsplit, hjoin, htext]
    rfl
  rw [Plan.move, hturn]
  dsimp only
  rw [Plan.dispatch_fork control state log (by rw [hop]; rfl) (by rw [hop]; rfl), hparts, hignore]

end Forks

/-- A fork that does not ignore errors runs its section alone on every piece. If all pieces give
texts, the run goes on behind the section with the joined texts as its dish and is otherwise as it
was. Otherwise the first piece that gives none ends the run: with the failure of that piece at its
place in the whole recipe, or with the fault of a dish without text in the fork. -/
theorem fork_runs_section {recipe : Recipe} {plan : Plan}
    (hp : Registry.builtIn.prepare recipe = .ok plan) {control : Control} {startFrom : Nat}
    {state : State} {log : Log} {step : Step} (hc : control.Uncancelled)
    (hscope : state.scopeEnd ≤ plan.steps.length)
    (hturn : state.turn plan.steps control startFrom log = .dispatch step)
    (hfork : step.operation = Flow.fork.name) {split join text : String}
    (hsplit : delimiterOf (textAt (state.argsFor step) 0) = .ok split)
    (hjoin : delimiterOf (textAt (state.argsFor step) 1) = .ok join)
    (hignore : boolAt (state.argsFor step) 2 = false) (htext : state.text = .ok text) :
    ∃ alone,
      Registry.builtIn.prepare (recipe.slice (state.progress + 1)
        ((state.findMerge? plan.steps state.progress).getD state.scopeEnd)) = .ok alone ∧
      ∀ output : String → String,
        ((∀ piece ∈ Flow.pieces text split,
            alone.GivesText state.registers piece (output piece)) →
          ∃ bound log', ∀ fuel, bound ≤ fuel →
            plan.runFrom (fuel + 1) control startFrom state log =
              plan.runFrom fuel control startFrom
                { state with
                  dish := .string (join.intercalate ((Flow.pieces text split).map output))
                  progress := state.behindFork plan.steps
                  phase := .running }
                log') ∧
        ∀ before piece after, Flow.pieces text split = before ++ piece :: after →
          (∀ earlier ∈ before, alone.GivesText state.registers earlier (output earlier)) →
          (∀ failure, alone.Fails state.registers piece failure →
            ∃ bound log', ∀ fuel, bound ≤ fuel →
              plan.runFrom (fuel + 1) control startFrom state log =
                some ⟨.error { failure with step := failure.step + (state.progress + 1) },
                  state.inPhase .branching, log'⟩) ∧
          (∀ fault, alone.GivesNoText state.registers piece fault →
            ∃ bound log', ∀ fuel, bound ≤ fuel →
              plan.runFrom (fuel + 1) control startFrom state log =
                some ⟨.error (.ofFault state.progress step.operation fault),
                  state.inPhase .branching, log'⟩) := by
  obtain ⟨_, hr, _, _⟩ := Registry.prepare_eq_ok hp
  have hmove := move_fork hr hturn hfork hsplit hjoin hignore htext
  have hlt := Plan.lt_of_move_fork hmove
  obtain ⟨hfirst, hle⟩ := State.forkSection_bounds hlt plan.steps
  have hstop := Nat.le_trans hle hscope
  have hsub : ∀ recipeStep ∈ (recipe.slice (state.forkSection plan.steps).1
      (state.forkSection plan.steps).2).steps, recipeStep ∈ recipe.steps :=
    fun _ hmem => List.mem_of_mem_drop (List.mem_of_mem_take hmem)
  obtain ⟨alone, ha⟩ : ∃ alone, Registry.builtIn.prepare (recipe.slice
      (state.forkSection plan.steps).1 (state.forkSection plan.steps).2) = .ok alone :=
    Registry.exists_prepare_of_subset hp rfl hsub
  -- On every piece the branch of the fork ends as the section alone does.
  have hends {piece : String} {finished' : SectionEnd}
      (h : alone.SectionEnds (.straight false) (alone.onPiece state.registers piece) [] finished')
      (log : Log) := exists_sectionEnds hp ha hfirst hstop hc.unhindered_forBranch state h log
  have hgives {piece output : String} (h : alone.GivesText state.registers piece output) :
      BranchGives (plan.SectionEnds control.forBranch) (state.branchOn plan.steps) piece output := by
    obtain ⟨baked', _, hends', houtput⟩ := h
    intro log
    obtain ⟨_, hbranch, haligned⟩ := hends hends' log
    cases haligned with
    | completed ha _ => exact ⟨_, _, _, hbranch, ha.dish ▸ houtput⟩
  refine ⟨alone, ha, fun output => ⟨fun htexts => ?_, fun before piece after hpieces hbefore => ?_⟩⟩
  · obtain ⟨log', hrest⟩ := Branches.after_texts hc output (Flow.pieces text split) []
      (fun piece hmem => hgives (htexts piece hmem)) (plan.announced control step state log)
    have hb := hrest _ _ (.nil log')
    simp only [Except.map, List.append_nil] at hb
    obtain ⟨bound, hbound⟩ := Plan.ForkEnds.exists_runFrom hb hmove
    refine ⟨bound, log', fun fuel hfuel => (hbound fuel hfuel).trans ?_⟩
    rw [Plan.afterBranches, joined_eq hlt]
  · obtain ⟨log', hrest⟩ := Branches.after_texts hc output before (piece :: after)
      (fun earlier hmem => hgives (hbefore earlier hmem)) (plan.announced control step state log)
    rw [← hpieces] at hrest
    refine ⟨fun failure' hfails => ?_, fun fault hnoText => ?_⟩
    · obtain ⟨left, _, hends'⟩ := hfails
      obtain ⟨_, hbranch, haligned⟩ := hends hends' log'
      cases haligned with
      | @failed failure _ _ _ next _ _ hf =>
        have hb := hrest _ _ (.failed (hc.isCancelled log') hbranch rfl)
        obtain ⟨bound, hbound⟩ := Plan.ForkEnds.exists_runFrom hb hmove
        refine ⟨bound, next, fun fuel hfuel => ?_⟩
        have hstep : failure.step - (state.progress + 1) + (state.progress + 1) = failure.step :=
          Nat.sub_add_cancel hf.first_le
        -- Alone, the section begins at its own first step; in the recipe it begins behind the fork.
        have hfailure : { failure' with step := failure'.step + (state.progress + 1) } = failure := by
          rw [hf.eq]
          change { failure with
            step := failure.step - (state.progress + 1) + (state.progress + 1) } = failure
          rw [hstep]
        rw [hfailure]
        exact hbound fuel hfuel
    · obtain ⟨baked', _, hends', houtput⟩ := hnoText
      obtain ⟨_, hbranch, haligned⟩ := hends hends' log'
      cases haligned with
      | completed ha _ =>
        have hb := hrest _ _ (.noText (hc.isCancelled log') hbranch (ha.dish ▸ houtput))
        obtain ⟨bound, hbound⟩ := Plan.ForkEnds.exists_runFrom hb hmove
        exact ⟨bound, _, fun fuel hfuel => hbound fuel hfuel⟩

/-- A fork at commas whose section ends at once. -/
def Recipe.commas : Recipe :=
  ⟨1, [⟨"Fork", [.text ",", .text "-"], false, false⟩, ⟨"Return", [], false, false⟩,
    ⟨"Merge", [], false, false⟩], .default⟩

/-- The plan of the fork at commas. -/
def Plan.commas : Plan :=
  ⟨.builtIn, [⟨0, "Fork", [.text ",", .text "-", .bool false], false, false⟩,
    ⟨1, "Return", [], false, false⟩, ⟨2, "Merge", [], false, false⟩], .default⟩

theorem fork_runs_section_commas :
    ∃ bound log', ∀ fuel, bound ≤ fuel →
      Plan.commas.runFrom (fuel + 1) .default 0 (.start 3 (.string "a,b")) [] =
        Plan.commas.runFrom fuel .default 0 ⟨3, .string "a-b", 0, .empty, 0, 3, .running⟩ log' := by
  have hp : Registry.builtIn.prepare .commas = .ok Plan.commas := rfl
  have hturn : State.turn (.start 3 (.string "a,b")) Plan.commas.steps .default 0 [] =
      .dispatch ⟨0, "Fork", [.text ",", .text "-", .bool false], false, false⟩ := rfl
  have hcomma : Registers.empty.substitute "," = "," := by decide +kernel
  have hdash : Registers.empty.substitute "-" = "-" := by decide +kernel
  have hsplit : delimiterOf (Registers.empty.substitute ",") = .ok "," := by
    rw [hcomma]
    rfl
  have hjoin : delimiterOf (Registers.empty.substitute "-") = .ok "-" := by
    rw [hdash]
    rfl
  have hpieces : Flow.pieces "a,b" "," = ["a", "b"] := by decide +kernel
  obtain ⟨alone, ha, h⟩ := fork_runs_section hp Control.uncancelled_default (Nat.le_refl 3) hturn
    rfl hsplit hjoin rfl rfl
  have halone : Registry.builtIn.prepare (Recipe.commas.slice 1 2) =
      .ok ⟨.builtIn, [⟨0, "Return", [], false, false⟩], .default⟩ := rfl
  obtain rfl := Except.ok.inj (halone.symm.trans ha)
  rw [hpieces] at h
  refine (h id).1 fun piece _ => ?_
  exact ⟨⟨1, .string piece, 0, .empty, 0, 1, .running⟩, [.dispatched 0 "Return"], ⟨2, rfl⟩, rfl⟩

end Kitchen
