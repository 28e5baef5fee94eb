import Kitchen.Operation.BuiltIn
import Kitchen.Proofs.Recipe.Preparation
import Kitchen.Proofs.Run.Failing
import Kitchen.Proofs.Run.Passage
import Kitchen.Proofs.Run.Result

/-!
# The dish of a failed bake

A bake that fails gives back the dish as it stood before the failing step of the recipe: neither the
step nor the branches that a fork has run by then leave a trace in it. A bake that was cancelled or
whose recipe does not fit gives none.
-/

namespace Kitchen
namespace Registry

/-- A bake that fails in a step gives the dish as it was when the step was dispatched: the newest
result of a step, or the input. If the dish does not give the kind that is asked for, it is the dish
that the last step has left. -/
theorem failed_dish {recipe : Recipe} {input : Dish} {control : Control} {attempt : Attempt}
    {failure : Failure} (h : builtIn.Attempts recipe input control attempt)
    (hf : attempt.result = .error failure) :
    (failure.kind = .configuration ∨ failure.kind = .cancelled → failure.dish = none) ∧
    (failure.kind = .operation ∨ failure.kind = .dishConversion ∨ failure.kind = .defect →
      ∃ plan results stage, builtIn.prepare recipe = .ok plan ∧
        plan.Passes (plan.firstStage input control) results stage ∧
        stage.state.dish = results.headD input ∧ failure.dish = some (results.headD input) ∧
        ((∃ step, plan.turnAt stage = .dispatch step) ∧
            plan.FailsAt stage { failure with dish := none } ∨
          plan.turnAt stage = .finish ∧
            plan.options.serve .completed stage.state = .error { failure with dish := none })) := by
  cases hp : builtIn.prepare recipe with
  | error unfit =>
    obtain ⟨_, _, _, rfl⟩ := prepare_eq_error hp
    obtain rfl := (attempts_iff_of_error hp).mp h
    obtain rfl := Except.error.inj hf
    exact ⟨fun _ => rfl, fun hkind => by simp [Failure.configuration, Failure.plain] at hkind⟩
  | ok plan =>
    obtain ⟨_, hr, _, _⟩ := prepare_eq_ok hp
    obtain ⟨finished, hends, rfl⟩ := (attempts_iff hp).mp h
    obtain ⟨results, stage, hpasses, hlast⟩ := hends.exists_last hr
    obtain ⟨phase, hstate⟩ := hlast.state
    have hdish : finished.state.dish = results.headD input := by
      rw [hstate]
      exact hpasses.dish
    obtain ⟨raised, rfl, hcases⟩ := SectionEnd.toResult_eq_error hf
    -- No failure carries a dish before the bake gives it one.
    have hraised : raised.dish = none ∧ raised.kind ≠ .configuration := by
      rcases hcases with hresult | ⟨_, hserve⟩
      · have hraised := hends.raised hr hresult
        exact ⟨hraised.dish, hraised.kind⟩
      · obtain ⟨_, message, rfl⟩ := Options.serve_eq_error hserve
        exact ⟨rfl, by simp [Failure.plain]⟩
    by_cases hkind : raised.kind = .cancelled
    · rw [Failure.ofBake, if_pos hkind]
      exact ⟨fun _ => hraised.1, fun hother => by simp [hkind] at hother⟩
    · rw [Failure.ofBake, if_neg hkind]
      have hbare : { raised.withDish finished.state.dish with dish := none } = raised := by
        rw [Failure.withDish, ← hraised.1]
      refine ⟨fun hother => absurd hother (not_or.mpr ⟨hraised.2, hkind⟩), fun _ => ?_⟩
      refine ⟨plan, results, stage, rfl, hpasses, hpasses.dish, ?_, ?_⟩
      · rw [Failure.withDish, hraised.1, hdish]
        rfl
      · rw [hbare]
        rcases hcases with hresult | ⟨hcompleted, hserve⟩
        · have hfails := hlast.fails raised hresult
          exact .inl ⟨hfails.exists_dispatch hkind, hfails⟩
        · rw [hstate] at hserve
          exact .inr ⟨hlast.completes hcompleted, hserve⟩

end Registry

/-- A remark, and a step that wants bytes. -/
def Recipe.remarkedHex : Recipe :=
  ⟨1, [⟨"Comment", [], false, false⟩, ⟨"To Hex", [], false, false⟩], .default⟩

/-- Markup gives no bytes, and it is given back behind the remark. -/
theorem Registry.failed_dish_remarkedHex :
    ∃ attempt failure, builtIn.Attempts .remarkedHex (.html "x") .default attempt ∧
      attempt.result = .error failure ∧ failure.kind = .dishConversion ∧
      ∃ plan results stage, builtIn.prepare .remarkedHex = .ok plan ∧
        plan.Passes (plan.firstStage (.html "x") .default) results stage ∧
        stage.state.dish = results.headD (.html "x") ∧
        failure.dish = some (results.headD (.html "x")) := by
  have h : builtIn.Attempts .remarkedHex (.html "x") .default _ := ⟨3, rfl⟩
  obtain ⟨plan, results, stage, hp, hpasses, hstage, hdish, _⟩ :=
    (failed_dish h rfl).2 (.inr (.inl rfl))
  exact ⟨_, _, h, rfl, rfl, plan, results, stage, hp, hpasses, hstage, hdish⟩

end Kitchen
