import Kitchen.Operation.BuiltIn
import Kitchen.Proofs.Recipe.Preparation
import Kitchen.Proofs.Run.Stage

/-!
# Halting

The bound of a jump does not make every bake halt, since one count serves all jumps and a jump that
is not taken forgets it. A bake halts if and only if it forgets jumps a bounded number of times; so it
does where no jump stands in the loop of another.
-/

namespace Kitchen

/-! ## Loops -/

/-- The step is an enabled jump. -/
def Step.isJump (step : Step) : Bool :=
  !step.disabled && (Flow.labelPosition? step.operation).isSome

/-- With some texts in the registers, the step jumps to the label. -/
def Step.MayJumpTo (step label : Step) : Prop :=
  ∃ i registers, Flow.labelPosition? step.operation = some i ∧
    label.isLabel (textAt (Registers.substituteArguments registers step.args) i) = true

/-- No jump stands between a label and a later jump back to it. -/
def LoopsApart (steps : List Step) : Prop :=
  ∀ (i j k : Nat) (label inner jump : Step), i < j → j < k → steps[i]? = some label →
    steps[j]? = some inner → steps[k]? = some jump → jump.isJump = true → jump.MayJumpTo label →
    inner.isJump = false

/-- The number of jumps before a place. -/
def jumpsBefore (steps : List Step) (i : Nat) : Nat := (steps.take i).countP Step.isJump

section Loops

variable {steps : List Step}

private theorem jumpsBefore_mono {i j : Nat} (h : i ≤ j) :
    jumpsBefore steps i ≤ jumpsBefore steps j :=
  (List.take_prefix_take_left h).sublist.countP_le

private theorem jumpsBefore_succ {i : Nat} {step : Step} (h : steps[i]? = some step) :
    jumpsBefore steps (i + 1) = jumpsBefore steps i + if step.isJump then 1 else 0 :=
  countP_take_add_one h Step.isJump

private theorem jumpsBefore_eq {i j : Nat} (hij : i ≤ j) (hj : j ≤ steps.length)
    (h : ∀ k step, i ≤ k → k < j → steps[k]? = some step → step.isJump = false) :
    jumpsBefore steps j = jumpsBefore steps i := by
  induction hij with
  | refl => rfl
  | @step j hij ih =>
    have hget : steps[j]? = some steps[j] := List.getElem?_eq_getElem hj
    have hjump := h j _ hij (Nat.lt_succ_self j) hget
    have hih := ih (by omega) fun k step hk hk' => h k step hk (by omega)
    rw [jumpsBefore_succ hget, hjump, hih]
    rfl

end Loops

namespace Plan

/-- Where loops are apart, each time that jumps are forgotten is due to another jump. -/
theorem Reaches.le_jumpsBefore {plan : Plan} {root stage : Stage} {n : Nat}
    (h : plan.Reaches root stage n) (hr : plan.registry = .builtIn)
    (hapart : LoopsApart plan.steps) : n ≤ jumpsBefore plan.steps stage.state.progress := by
  induction h with
  | start => exact Nat.zero_le _
  | @go stage n next log _ hmove ih =>
    obtain ⟨hlt, step, hstep, hmoved⟩ := moved_of_move_go hr hmove
    cases hmoved with
    | onward hprogress _ hjumps =>
      rw [State.forgets_eq_zero (Nat.le_of_eq hjumps.symm)]
      exact Nat.le_trans ih (jumpsBefore_mono (Nat.le_of_lt hprogress))
    | fallsThrough henabled hposition hprogress =>
      have hjump : step.isJump = true := by simp [Step.isJump, henabled, hposition]
      have hcount := jumpsBefore_succ hstep
      have hforgets := State.forgets_le stage.state next
      rw [hjump, if_pos rfl] at hcount
      dsimp only
      rw [hprogress]
      omega
    | @jumpsTo i target henabled hposition htarget _ hprogress hjumps =>
      have hjump : step.isJump = true := by simp [Step.isJump, henabled, hposition]
      obtain ⟨_, _, label, hlabel, hname⟩ := findStep?_eq_some htarget
      rw [State.forgets_eq_zero (by omega)]
      dsimp only
      rw [hprogress]
      -- Back over a loop there are as many jumps before the label as before the jump: none stands between.
      refine Nat.le_trans ih ?_
      by_cases hback : target < stage.state.progress
      · have hbound : stage.state.progress ≤ plan.steps.length :=
          Nat.le_of_lt (List.getElem?_eq_some_iff.mp hstep).1
        exact Nat.le_of_eq (jumpsBefore_eq hback hbound fun k inner hk hk' hinner =>
          hapart target k stage.state.progress label inner step hk hk' hlabel hinner hstep hjump
            ⟨i, stage.state.registers, hposition, hname⟩)
      · exact jumpsBefore_mono (by omega)
  | @join stage n _ split _ _ outputs _ hmove _ ih =>
    have hjoined := State.joined_progress (lt_of_move_fork hmove) plan.steps split outputs
    exact Nat.le_trans ih (jumpsBefore_mono (Nat.le_of_lt hjoined.1))
  | branch => exact Nat.zero_le _

end Plan

/-! ## Bakes -/

namespace Registry

private theorem bake_iff_halts {recipe : Recipe} {plan : Plan} {input : Dish} {control : Control}
    (hp : builtIn.prepare recipe = .ok plan) :
    (∃ fuel attempt, builtIn.bake fuel recipe input control = some attempt) ↔
      plan.Halts (plan.firstStage input control) := by
  constructor
  · rintro ⟨fuel, attempt, hbake⟩
    obtain ⟨finished, hends, _⟩ := (attempts_iff hp).mp ⟨fuel, hbake⟩
    exact ⟨finished, hends⟩
  · rintro ⟨finished, hends⟩
    obtain ⟨fuel, hbake⟩ := (attempts_iff hp).mpr ⟨finished, hends, rfl⟩
    exact ⟨fuel, _, hbake⟩

/-- A bake halts if and only if there is a bound on how often it forgets jumps, in the run of the
recipe and in each branch. There is one where no jump stands in the loop of another. -/
theorem bake_halts_iff (recipe : Recipe) (input : Dish) (control : Control) :
    ((∃ fuel attempt, builtIn.bake fuel recipe input control = some attempt) ↔
      ∀ plan, builtIn.prepare recipe = .ok plan →
        ∃ bound, ∀ stage n, plan.Reaches (plan.firstStage input control) stage n → n ≤ bound) ∧
    ((∀ plan, builtIn.prepare recipe = .ok plan → LoopsApart plan.steps) →
      ∃ fuel attempt, builtIn.bake fuel recipe input control = some attempt) := by
  cases hp : builtIn.prepare recipe with
  | error failure =>
    have hbake : ∃ fuel attempt, builtIn.bake fuel recipe input control = some attempt :=
      ⟨0, ⟨.error failure, [], true⟩, by rw [bake, hp]⟩
    exact ⟨⟨fun _ _ h => absurd h (by simp), fun _ => hbake⟩, fun _ => hbake⟩
  | ok plan =>
    obtain ⟨_, hr, _, _⟩ := prepare_eq_ok hp
    have hroot : (plan.firstStage input control).state.scopeStart ≤
        (plan.firstStage input control).state.progress := Nat.zero_le _
    rw [bake_iff_halts hp, Plan.halts_iff hr hroot]
    refine ⟨⟨fun h other hother => ?_, fun h => h plan rfl⟩, fun hapart => ?_⟩
    · obtain rfl := Except.ok.inj hother
      exact h
    · refine ⟨plan.steps.length, fun stage n h => ?_⟩
      have hle := h.le_jumpsBefore hr (hapart plan rfl)
      exact Nat.le_trans hle (Nat.le_trans List.countP_le_length (List.length_take_le' _ _))

end Registry

/-! ## A bake without end -/

/-- A loop around a jump to a label that is not there. -/
def Recipe.endless : Recipe :=
  ⟨1, [⟨"Label", [.text "a"], false, false⟩, ⟨"Jump", [.text "b"], false, false⟩,
    ⟨"Jump", [.text "a", .number (.ofNat 1)], false, false⟩], .default⟩

/-- The plan of the loop. -/
def Plan.endless : Plan :=
  ⟨.builtIn, [⟨0, "Label", [.text "a"], false, false⟩,
    ⟨1, "Jump", [.text "b", .number (.ofNat 10)], false, false⟩,
    ⟨2, "Jump", [.text "a", .number (.ofNat 1)], false, false⟩], .default⟩

private theorem endless_move (state : State) (step : Step) {args : List Argument} (log : Log)
    (hturn : state.turn Plan.endless.steps .default 0 log = .dispatch step)
    (hname : step.operation = Flow.jump.name) (hargs : state.argsFor step = args) :
    Plan.endless.move .default 0 state log =
      .go ((Flow.jumpTo Plan.endless.steps (textAt args 0) (Flow.maxJumpsAt args 1)
        (state.inPhase .branching)).inPhase .running).advance
        (Plan.endless.announced .default step state log) := by
  have hmem : Flow.jump ∈ Flow.operations := by simp [Flow.operations]
  have hact : Flow.jump.flow = .act Flow.jumpAction := rfl
  rw [Plan.move, hturn]
  dsimp only
  rw [Plan.dispatch_action _ _ log rfl hmem hname hact, hargs]
  rfl

/-- The jump that is not taken forgets the jumps that were. -/
private theorem endless_forgets (n : Nat) (log : Log) :
    Plan.endless.move .default 0 ⟨1, .string "x", n, .empty, 0, 3, .running⟩ log =
      .go ⟨2, .string "x", 0, .empty, 0, 3, .running⟩ (.dispatched 1 "Jump" :: log) := by
  have hname : Registers.empty.substitute "b" = "b" := by decide +kernel
  have hargs : Registers.empty.substituteArguments [.text "b", .number (.ofNat 10)] =
      [.text "b", .number (.ofNat 10)] := by
    change [Argument.text (Registers.empty.substitute "b"), Argument.number (.ofNat 10)] = _
    rw [hname]
  exact (endless_move ⟨1, .string "x", n, .empty, 0, 3, .running⟩
    ⟨1, "Jump", [.text "b", .number (.ofNat 10)], false, false⟩ log rfl rfl hargs).trans rfl

/-- The jump back may be taken as if for the first time. -/
private theorem endless_jumps (log : Log) :
    Plan.endless.move .default 0 ⟨2, .string "x", 0, .empty, 0, 3, .running⟩ log =
      .go ⟨1, .string "x", 1, .empty, 0, 3, .running⟩ (.dispatched 2 "Jump" :: log) := by
  have hname : Registers.empty.substitute "a" = "a" := by decide +kernel
  have hargs : Registers.empty.substituteArguments [.text "a", .number (.ofNat 1)] =
      [.text "a", .number (.ofNat 1)] := by
    change [Argument.text (Registers.empty.substitute "a"), Argument.number (.ofNat 1)] = _
    rw [hname]
  exact (endless_move ⟨2, .string "x", 0, .empty, 0, 3, .running⟩
    ⟨2, "Jump", [.text "a", .number (.ofNat 1)], false, false⟩ log rfl rfl hargs).trans rfl

private theorem runFrom_endless (fuel : Nat) (log : Log) :
    Plan.endless.runFrom fuel .default 0 ⟨1, .string "x", 1, .empty, 0, 3, .running⟩ log = none ∧
      Plan.endless.runFrom fuel .default 0 ⟨2, .string "x", 0, .empty, 0, 3, .running⟩ log =
        none := by
  induction fuel generalizing log with
  | zero => exact ⟨rfl, rfl⟩
  | succ fuel ih =>
    rw [Plan.runFrom_succ, Plan.runFrom_succ, endless_forgets, endless_jumps]
    exact ⟨(ih _).2, (ih _).1⟩

/-- The loop is left after no number of turns, though its jump back may be taken once only. -/
theorem Registry.not_bake_endless :
    ¬ ∃ fuel attempt, builtIn.bake fuel .endless (.string "x") .default = some attempt := by
  intro hbake
  have hp : builtIn.prepare .endless = .ok Plan.endless := rfl
  obtain ⟨finished, hends⟩ := (bake_iff_halts hp).mp hbake
  change Plan.endless.Ends .default 0 ⟨0, .string "x", 0, .empty, 0, 3, .running⟩ [] finished at hends
  have hlabel : Plan.endless.move .default 0 ⟨0, .string "x", 0, .empty, 0, 3, .running⟩ [] =
      .go ⟨1, .string "x", 0, .empty, 0, 3, .running⟩ [.dispatched 0 "Label"] := rfl
  rw [Plan.ends_iff_of_go hlabel, Plan.ends_iff_of_go (endless_forgets 0 _)] at hends
  obtain ⟨fuel, hf⟩ := hends
  rw [(runFrom_endless fuel _).2] at hf
  exact absurd hf (by simp)

end Kitchen
