import Kitchen.Proofs.Recipe.ForkSection
import Kitchen.Proofs.Recipe.Preparation
import Kitchen.Proofs.Run.Failing
import Kitchen.Proofs.Run.Result

/-!
# Cancelled bakes

Once its host cancels it, a bake ends: it dispatches no further step, it does not pause, and a
cancellation inside a fork ends it whatever the fork ignores. It ends as if nobody had cancelled if
nothing was left to be dispatched. Not every failure that it has then is that of a step: the dish
may also fail to give the kind that is asked for.
-/

namespace Kitchen

/-! ## The moment of cancellation -/

theorem Control.isCancelled_congr {control control' : Control}
    (h : control.cancelAt = control'.cancelAt) (log : Log) :
    control.isCancelled log = control'.isCancelled log := by
  rw [isCancelled, isCancelled, h]

namespace Plan

@[simp] theorem cancelAt_control (plan : Plan) (control : Control) :
    (plan.control control).cancelAt = control.cancelAt := by
  unfold Plan.control
  split <;> rfl

theorem firstStage_cancelledAt (plan : Plan) (input : Dish) (control : Control)
    (moment : Option Moment) :
    plan.firstStage input (control.cancelledAt moment) =
      (plan.firstStage input control).cancelledAt moment := by
  have hcontrol : plan.control (control.cancelledAt moment) =
      (plan.control control).cancelledAt moment := by
    unfold Plan.control
    split <;> rfl
  simp only [firstStage, Stage.cancelledAt, hcontrol]
  rfl

/-- The host of a stage cancels when the host of the bake does. -/
theorem Reaches.isCancelled_eq {plan : Plan} {input : Dish} {control : Control} {stage : Stage}
    {n : Nat} (h : plan.Reaches (plan.firstStage input control) stage n) (log : Log) :
    stage.control.isCancelled log = control.isCancelled log :=
  Control.isCancelled_congr (h.cancelAt_eq.trans (plan.cancelAt_control control)) log

end Plan

/-! ## Failures after the moment of cancellation -/

/-- Where a failure stands that is no cancellation, though the bake has been cancelled by then: the
recipe does not fit, the step that was dispatched last fails, a fork can make no text of a branch, or
the dish fails to give the kind that is asked for. -/
inductive Failure.InFlight (failure : Failure) (log : Log) : Prop where
  | unfit : failure.kind = .configuration → log = [] → InFlight failure log
  | step : log.lastDispatched? = some (failure.step, failure.operation) → InFlight failure log
  | branch : failure.operation = Flow.fork.name → failure.kind = .dishConversion →
      .dispatched failure.step failure.operation ∈ log → InFlight failure log
  | output : failure.operation = "output" → failure.kind = .dishConversion → InFlight failure log

theorem Failure.Raised.inFlight {failure : Failure} {log : Log} (h : failure.Raised log)
    (hkind : failure.kind ≠ .cancelled) (dish : Dish) : (failure.ofBake dish).InFlight log := by
  rw [ofBake, if_neg hkind]
  rcases h.origin with hcancelled | hstep | ⟨hfork, hconversion, hmem⟩
  · exact absurd hcancelled hkind
  · exact .step hstep
  · exact .branch hfork hconversion hmem

namespace Registry

variable {recipe : Recipe} {input : Dish} {control : Control} {plan : Plan}

private theorem prompt_attempt {attempt : Attempt}
    (h : builtIn.Attempts recipe input control attempt) : attempt.log.Prompt control := by
  cases hp : builtIn.prepare recipe with
  | error failure =>
    obtain rfl := (attempts_iff_of_error hp).mp h
    exact Log.prompt_nil control
  | ok plan =>
    obtain ⟨_, hr, _, _⟩ := prepare_eq_ok hp
    obtain ⟨finished, hends, rfl⟩ := (attempts_iff hp).mp h
    refine hends.log_property ?_ (Log.prompt_nil control)
    rw [show (plan.firstStage input control).control.cancelAt = control.cancelAt from
      plan.cancelAt_control control]
    exact plan.keptByMoves_prompt hr control

/-- A bake that did not end by a cancellation ends the same where nobody cancels. -/
private theorem attempts_uncancelled (hp : builtIn.prepare recipe = .ok plan)
    {finished : SectionEnd} (hends : plan.EndsAt (plan.firstStage input control) finished)
    (hc : ¬ finished.IsCancelled) :
    builtIn.Attempts recipe input (control.cancelledAt none)
      ⟨finished.toResult plan.options, finished.log, true⟩ := by
  obtain ⟨_, hr, _, _⟩ := prepare_eq_ok hp
  refine (attempts_iff hp).mpr ⟨finished, ?_, rfl⟩
  rw [plan.firstStage_cancelledAt]
  exact hends.uncancelled hr hc

private theorem outcome_of_isCancelled {attempt : Attempt} {outcome : Outcome}
    (h : builtIn.Attempts recipe input control attempt)
    (hc : control.isCancelled attempt.log = true) (ho : attempt.result = .ok outcome) :
    outcome.status = .completed ∧
      builtIn.Attempts recipe input (control.cancelledAt none) attempt := by
  cases hp : builtIn.prepare recipe with
  | error failure =>
    obtain rfl := (attempts_iff_of_error hp).mp h
    simp at ho
  | ok plan =>
    obtain ⟨_, hr, _, _⟩ := prepare_eq_ok hp
    obtain ⟨finished, hends, rfl⟩ := (attempts_iff hp).mp h
    have hresult := SectionEnd.toResult_eq_ok ho
    refine ⟨?_, attempts_uncancelled hp hends ?_⟩
    · cases hstatus : outcome.status with
      | completed => rfl
      | paused i =>
        rw [hstatus] at hresult
        have hpaused := hends.isCancelled_of_paused hr hresult
        rw [Plan.Reaches.isCancelled_eq .start] at hpaused
        exact absurd (hpaused.symm.trans hc) (by simp)
    · rintro ⟨failure, hfailure, _⟩
      simp [hresult] at hfailure

private theorem failure_of_isCancelled {attempt : Attempt} {failure : Failure}
    (h : builtIn.Attempts recipe input control attempt) (hf : attempt.result = .error failure) :
    failure.kind = .cancelled ∧ failure.dish = none ∨
      builtIn.Attempts recipe input (control.cancelledAt none) attempt ∧
        failure.InFlight attempt.log := by
  cases hp : builtIn.prepare recipe with
  | error unfit =>
    obtain ⟨_, _, _, rfl⟩ := prepare_eq_error hp
    obtain rfl := (attempts_iff_of_error hp).mp h
    obtain rfl := Except.error.inj hf
    exact .inr ⟨(attempts_iff_of_error hp).mpr rfl, .unfit rfl rfl⟩
  | ok plan =>
    obtain ⟨_, hr, _, _⟩ := prepare_eq_ok hp
    obtain ⟨finished, hends, rfl⟩ := (attempts_iff hp).mp h
    obtain ⟨raised, rfl, hresult | ⟨hcompleted, hserve⟩⟩ := SectionEnd.toResult_eq_error hf
    · have hraised := hends.raised hr hresult
      by_cases hkind : raised.kind = .cancelled
      · rw [Failure.ofBake, if_pos hkind]
        exact .inl ⟨hkind, hraised.dish⟩
      · refine .inr ⟨attempts_uncancelled hp hends ?_, hraised.inFlight hkind _⟩
        rintro ⟨other, hother, hcancelled⟩
        obtain rfl := Except.error.inj (hresult.symm.trans hother)
        exact hkind hcancelled
    · obtain ⟨_, message, rfl⟩ := Options.serve_eq_error hserve
      refine .inr ⟨attempts_uncancelled hp hends ?_, .output rfl rfl⟩
      rintro ⟨other, hother, _⟩
      simp [hcompleted] at hother

/-- Once its host has cancelled it, a bake ends. A cancellation at any stage of it, in the branches
of forks too, is its end. Then no step has been dispatched behind the moment of cancellation but the
one that was being announced, the bake has not paused, and it has failed by the cancellation, without
a dish, or ended just as where nobody cancels. -/
theorem cancellation_prompt (recipe : Recipe) (input : Dish) (control : Control) :
    (∀ plan stage n, builtIn.prepare recipe = .ok plan →
      plan.Reaches (plan.firstStage input control) stage n →
      control.isCancelled (plan.moveAt stage).log = true →
      ∃ attempt, builtIn.Attempts recipe input control attempt ∧
        control.isCancelled attempt.log = true) ∧
    (∀ plan stage n failure left last, builtIn.prepare recipe = .ok plan →
      plan.Reaches (plan.firstStage input control) stage n →
      plan.EndsAt stage ⟨.error failure, left, last⟩ → failure.kind = .cancelled →
      builtIn.Attempts recipe input control ⟨.error failure, last, true⟩ ∧ failure.dish = none) ∧
    ∀ attempt, builtIn.Attempts recipe input control attempt →
      control.isCancelled attempt.log = true →
      attempt.log.Prompt control ∧
      (∀ outcome, attempt.result = .ok outcome → outcome.status = .completed ∧
        builtIn.Attempts recipe input (control.cancelledAt none) attempt) ∧
      ∀ failure, attempt.result = .error failure →
        failure.kind = .cancelled ∧ failure.dish = none ∨
        builtIn.Attempts recipe input (control.cancelledAt none) attempt ∧
          failure.InFlight attempt.log := by
  refine ⟨?_, ?_, fun attempt h hc => ⟨prompt_attempt h, ?_, ?_⟩⟩
  · intro plan stage n hp hreach hc
    rw [← hreach.isCancelled_eq] at hc
    obtain ⟨finished, hends, hcancelled⟩ := hreach.exists_endsAt_of_isCancelled hc
    rw [Plan.Reaches.isCancelled_eq .start] at hcancelled
    exact ⟨_, (attempts_iff hp).mpr ⟨finished, hends, rfl⟩, hcancelled⟩
  · intro plan stage n failure left last hp hreach hends hkind
    obtain ⟨left', hroot⟩ := hreach.endsAt_of_isCancelled hends hkind
    have hresult : SectionEnd.toResult plan.options ⟨.error failure, left', last⟩ =
        .error failure := by
      simp only [SectionEnd.toResult, Failure.ofBake, if_pos hkind]
    obtain ⟨_, hr, _, _⟩ := prepare_eq_ok hp
    exact ⟨(attempts_iff hp).mpr ⟨_, hroot, by rw [hresult]⟩, (hroot.raised hr rfl).dish⟩
  · exact fun outcome => outcome_of_isCancelled h hc
  · exact fun failure => failure_of_isCancelled h

end Registry

/-! ## A bake that is cancelled in a fork -/

/-- Two remarks on every piece between commas, in a fork that ignores errors. -/
def Recipe.pieceRemarks : Recipe :=
  ⟨1, [⟨"Fork", [.text ",", .text "-", .bool true], false, false⟩,
    ⟨"Comment", [], false, false⟩, ⟨"Comment", [], false, false⟩], .default⟩

/-- The steps of the remarks on the pieces. -/
def Plan.pieceRemarks : Plan :=
  ⟨.builtIn, [⟨0, "Fork", [.text ",", .text "-", .bool true], false, false⟩,
    ⟨1, "Comment", [.text ""], false, false⟩, ⟨2, "Comment", [.text ""], false, false⟩], .default⟩

/-- The control of a host that cancels when the second update is delivered. -/
def Control.atSecondUpdate : Control :=
  { Control.default with cancelAt := some (.update 2), listening := true }

/-- The stage at which the branch on the first of two pieces starts. -/
def Stage.pieceRemarks : Stage :=
  Plan.pieceRemarks.branchStage (Plan.pieceRemarks.firstStage (.string "a,b") .atSecondUpdate) "a"
    [.dispatched 0 "Fork", .reported ⟨0, "Fork", "Baking... Fork (1/3)", none⟩]

private theorem moveAt_pieceRemarks :
    Plan.pieceRemarks.moveAt (Plan.pieceRemarks.firstStage (.string "a,b") .atSecondUpdate) =
      .fork ⟨0, "Fork", [.text ",", .text "-", .bool true], false, false⟩ ⟨["a", "b"], "-", true⟩
        Stage.pieceRemarks.log := by
  have hsplit : delimiterOf (Registers.empty.substitute ",") = .ok "," :=
    delimiterOf_substitute (by decide +kernel) rfl
  have hjoin : delimiterOf (Registers.empty.substitute "-") = .ok "-" :=
    delimiterOf_substitute (by decide +kernel) rfl
  have hpieces : Flow.pieces "a,b" "," = ["a", "b"] := by decide +kernel
  rw [← hpieces]
  exact move_fork rfl rfl rfl hsplit hjoin rfl rfl

/-- The update that announces the first remark cancels the bake: the branch on the first piece is
cancelled at the second remark, and the fork does not leave it out. -/
theorem Registry.cancellation_prompt_pieceRemarks :
    Plan.pieceRemarks.Reaches
        (Plan.pieceRemarks.firstStage (.string "a,b") .atSecondUpdate) .pieceRemarks 0 ∧
      ∃ failure left last, Plan.pieceRemarks.EndsAt .pieceRemarks ⟨.error failure, left, last⟩ ∧
        failure.kind = .cancelled ∧ failure.dish = none ∧
        builtIn.Attempts .pieceRemarks (.string "a,b") .atSecondUpdate
          ⟨.error failure, last, true⟩ ∧
        Log.Prompt .atSecondUpdate last := by
  have hp : builtIn.prepare .pieceRemarks = .ok Plan.pieceRemarks := rfl
  have hpieces : (["a", "b"] : List String) = [] ++ "a" :: ["b"] := rfl
  have hreach : Plan.pieceRemarks.Reaches
      (Plan.pieceRemarks.firstStage (.string "a,b") .atSecondUpdate) .pieceRemarks 0 :=
    .branch .start moveAt_pieceRemarks hpieces (.nil _) rfl
  have hends : Plan.pieceRemarks.EndsAt .pieceRemarks ⟨.error _, _, _⟩ := ⟨2, rfl⟩
  have hprompt := cancellation_prompt .pieceRemarks (.string "a,b") .atSecondUpdate
  obtain ⟨hbake, hdish⟩ := hprompt.2.1 _ _ 0 _ _ _ hp hreach hends rfl
  exact ⟨hreach, _, _, _, hends, rfl, hdish, hbake, (hprompt.2.2 _ hbake rfl).1⟩

/-! ## A cancelled bake that fails at its output -/

/-- A remark, after which text is asked for. -/
def Recipe.textRemark : Recipe :=
  ⟨1, [⟨"Comment", [], false, false⟩], { Options.default with outputKind := some .string }⟩

/-- The control of a host that cancels when the first update is delivered. -/
def Control.atFirstUpdate : Control :=
  { Control.default with cancelAt := some (.update 1), listening := true }

/-- The first update cancels the bake, but markup gives no text. -/
theorem Registry.not_cancelled_textRemark :
    ¬ ∀ recipe input control attempt failure, builtIn.Attempts recipe input control attempt →
      control.isCancelled attempt.log = true → attempt.result = .error failure →
      attempt.log.lastDispatched? = some (failure.step, failure.operation) ∨
        failure.kind = .cancelled ∧ failure.dish = none := by
  intro h
  have hbake := h .textRemark (.html "x") .atFirstUpdate _ _ ⟨2, rfl⟩ rfl rfl
  rcases hbake with hstep | ⟨hkind, _⟩
  · exact absurd hstep (by decide)
  · exact absurd hkind (by decide)

end Kitchen
