import Kitchen.Proofs.Recipe.Cancellation

/-!
# Bakes at a wait

A bake that waits gives its host a turn, and the host may cancel it there. Cancelled at a wait, a
bake takes no further wait and ends by the cancellation, whatever it would have come to otherwise.
-/

namespace Kitchen

/-- The result of a bake that was cancelled: a failure without a dish. -/
def Result.IsCancelled (result : Result) : Prop :=
  ∃ failure, result = .error failure ∧ failure.kind = .cancelled ∧ failure.dish = none

@[simp] theorem Control.cancelledAt_cancelledAt (control : Control)
    (moment moment' : Option Moment) :
    (control.cancelledAt moment).cancelledAt moment' = control.cancelledAt moment' := rfl

namespace Registry

variable {recipe : Recipe} {input : Dish} {control : Control} {attempt : Attempt}

/-- The bake takes its wait of a number, counted from one. -/
def ComesToWait (registry : Registry) (recipe : Recipe) (input : Dish) (control : Control)
    (wait : Nat) : Prop :=
  ∃ plan stage n, registry.prepare recipe = .ok plan ∧
    plan.Reaches (plan.firstStage input control) stage n ∧
    stage.log.waits < wait ∧ wait ≤ (plan.moveAt stage).log.waits

variable {wait : Nat}

/-- A bake that is cancelled at a wait of its takes no further one. -/
theorem not_comesToWait_of_cancelled (hpos : 0 < wait) :
    ¬ builtIn.ComesToWait recipe input (control.cancelledAt (some (.wait wait))) (wait + 1) := by
  rintro ⟨plan, stage, n, hp, hreach, _, hwait⟩
  obtain ⟨_, hr, _, _⟩ := prepare_eq_ok hp
  have hmoment : (plan.firstStage input
      (control.cancelledAt (some (.wait wait)))).control.cancelAt = some (.wait wait) :=
    plan.cancelAt_control _
  have hkept := plan.keptByMoves_waits hr hpos
  have hstage : stage.log.waits ≤ wait :=
    hreach.log_property (hmoment ▸ hkept) (Nat.zero_le wait)
  have hmove : (plan.moveAt stage).log.waits ≤ wait :=
    hkept stage.control stage.startFrom stage.state stage.log (hreach.cancelAt_eq.trans hmoment)
      hstage
  omega

/-- A bake that is cancelled where it stands at a wait ends there. -/
private theorem endsCancelled_of_comesToWait
    (h : builtIn.ComesToWait recipe input (control.cancelledAt none) wait) :
    ∃ plan, builtIn.prepare recipe = .ok plan ∧
      plan.EndsCancelled (plan.firstStage input (control.cancelledAt (some (.wait wait)))) := by
  obtain ⟨plan, stage, n, hp, hreach, hlt, hwait⟩ := h
  refine ⟨plan, hp, ?_⟩
  obtain ⟨_, hr, _, _⟩ := prepare_eq_ok hp
  have huncancelled : stage.control.cancelAt = none :=
    hreach.cancelAt_eq.trans (plan.cancelAt_control _)
  have hgoes : ¬ (plan.moveAt stage).IsCancelled := by
    rintro ⟨finished, hstop, hc⟩
    have hlog := Plan.isCancelled_of_move_stop hr hstop hc
    simp [Control.isCancelled, huncancelled] at hlog
  rw [← Control.cancelledAt_cancelledAt control none, plan.firstStage_cancelledAt]
  rcases hreach.cancelledAt hr (some (.wait wait)) with hcancelled | hreach'
  · exact hcancelled
  · rcases Plan.moveAt_cancelledAt hr (some (.wait wait)) rfl hgoes with hcancelled | hmove
    · exact hreach'.endsCancelled hcancelled
    · have hmoment : (stage.cancelledAt (some (.wait wait))).control.cancelAt = some (.wait wait) :=
        rfl
      rcases Plan.waits_move hr hmoment stage.startFrom stage.state hlt with
        ⟨finished, hstop, hc⟩ | hless
      · exact hreach'.endsCancelled ⟨finished, .of_stop hstop, hc⟩
      · change (plan.moveAt (stage.cancelledAt (some (.wait wait)))).log.waits < wait at hless
        rw [hmove] at hless
        omega

/-- A bake that is cancelled where it stands at a wait ends by the cancellation, with no wait
more. -/
theorem exists_attempts_of_comesToWait (hpos : 0 < wait)
    (h : builtIn.ComesToWait recipe input (control.cancelledAt none) wait) :
    ∃ attempt, builtIn.Attempts recipe input (control.cancelledAt (some (.wait wait))) attempt ∧
      attempt.result.IsCancelled ∧ attempt.log.waits = wait := by
  obtain ⟨plan, hp, ⟨⟨result, left, last⟩, hends, failure, rfl, hkind⟩⟩ :=
    endsCancelled_of_comesToWait h
  obtain ⟨_, hr, _, _⟩ := prepare_eq_ok hp
  have hmoment : (plan.firstStage input
      (control.cancelledAt (some (.wait wait)))).control.cancelAt = some (.wait wait) :=
    plan.cancelAt_control _
  have hreached := hends.isCancelled_log hr (SectionEnd.isCancelled_error.mpr hkind)
  rw [Control.isCancelled_wait hmoment] at hreached
  have hle : Log.waits last ≤ wait :=
    hends.log_property (hmoment ▸ plan.keptByMoves_waits hr hpos) (Nat.zero_le wait)
  refine ⟨_, (attempts_iff hp).mpr ⟨_, hends, rfl⟩, ⟨failure, ?_, hkind, ?_⟩, ?_⟩
  · simp only [SectionEnd.toResult, Failure.ofBake, if_pos hkind]
  · exact (hends.raised hr rfl).dish
  · exact Nat.le_antisymm hle hreached.2

end Registry
end Kitchen
