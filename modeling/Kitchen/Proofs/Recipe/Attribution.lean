import Kitchen.CommandLine.Report
import Kitchen.Proofs.Recipe.Waiting
import Kitchen.Proofs.Run.HiddenCause
import Kitchen.Proofs.Run.Origin

/-!
# Attribution of failures

The failure of a bake is charged to the step that raised it, at its place in the whole recipe, however
many forks stand around it. Of a defect it tells the name of the operation and nothing of the cause, so
a host cannot tell apart two bakes whose operations break for different reasons.
-/

namespace Kitchen

/-- The dish of a completed run does not convert to the kind that is asked for. -/
def Plan.FailsToServe (plan : Plan) (root : Stage) (failure : Failure) : Prop :=
  ∃ finished raised, plan.EndsAt root finished ∧ finished.result = .ok .completed ∧
    plan.options.serve .completed finished.state = .error raised ∧
    failure = raised.ofBake finished.state.dish

/-- A step that the run comes to, in its own scope or in that of a branch, has raised the failure by a
fault of its own. The failure has the index of this step, which is enabled in the recipe, and the name
of its operation. -/
def Plan.ChargesStep (plan : Plan) (recipe : Recipe) (root : Stage) (failure : Failure) : Prop :=
  ∃ stage n step fault dish written, plan.Reaches root stage n ∧ plan.RaisesAt stage step fault ∧
    fault.IsOwn ∧ failure = (Failure.ofFault stage.state.progress step.operation fault).withDish dish ∧
    failure.step = stage.state.progress ∧ recipe.steps[failure.step]? = some written ∧
    written.disabled = false ∧ written.operation = failure.operation

/-- A host is shown the same of both failures. -/
structure Failure.LooksLike (failure failure' : Failure) : Prop where
  step : failure'.step = failure.step
  operation : failure'.operation = failure.operation
  kind : failure'.kind = failure.kind
  message : failure'.message = failure.message
  dish : failure'.dish = failure.dish
  display : failure'.display = failure.display
  toJson : failure'.toJson = failure.toJson

theorem Failure.looksLike_of_shown {failure failure' : Failure}
    (h : failure.shown = failure'.shown) : failure.LooksLike failure' := by
  obtain ⟨step, operation, kind, message, dish, source⟩ := failure
  obtain ⟨step', operation', kind', message', dish', source'⟩ := failure'
  obtain ⟨rfl, rfl, rfl, rfl, rfl, _⟩ := Failure.mk.inj h
  exact ⟨rfl, rfl, rfl, rfl, rfl, rfl, rfl⟩

namespace Registry

variable {registry : Registry} {recipe : Recipe} {plan : Plan} {input : Dish} {control : Control}
  {attempt : Attempt} {failure : Failure}

/-- What raised the failure of a run is a step of the recipe. -/
private theorem chargesStep_of_originates (hp : registry.prepare recipe = .ok plan) {root : Stage}
    (h : plan.Originates root failure) (dish : Dish) :
    plan.ChargesStep recipe root (failure.withDish dish) := by
  obtain ⟨stage, n, step, fault, hreaches, hraises, hown, rfl⟩ := h
  obtain ⟨_, hstep, henabled⟩ := State.of_turn_dispatch hraises.turnAt_eq
  obtain ⟨hplace, hname, _⟩ := Failure.ofFault_of_isOwn hown stage.state.progress step.operation
  obtain ⟨written, hwritten, hdisabled, hoperation⟩ := exists_written hp hstep
  exact ⟨stage, n, step, fault, dish, written, hreaches, hraises, hown, rfl, hplace,
    (congrArg (recipe.steps[·]?) hplace).trans hwritten, hdisabled.trans henabled,
    hoperation.trans hname.symm⟩

/-- A failure of a defect has the general message. -/
private theorem message_of_defect {root : Stage} (h : plan.ChargesStep recipe root failure)
    (hkind : failure.kind = .defect) :
    failure.message = s!"Unexpected error in operation '{failure.operation}'" := by
  obtain ⟨stage, n, step, fault, dish, written, _, _, hown, rfl, _⟩ := h
  cases fault with
  | invalid message => cases hkind
  | dish error => cases hkind
  | cancelled => cases hkind
  | branch failure => exact absurd rfl (hown failure)
  | defect cause => rfl

/-- A bake that fails by no cancellation and not for want of preparation fails in the conversion of its
result, or in a step that is charged with the failure. A defect shows the general message. A bake whose
operations differ in hidden causes only fails in the same way before the same events, and a host is
shown the same. -/
theorem failure_attributed (hr : registry.Accountable)
    (h : registry.Attempts recipe input control attempt) (hfailure : attempt.result = .error failure)
    (hkind : failure.kind = .operation ∨ failure.kind = .dishConversion ∨ failure.kind = .defect) :
    (∃ plan, registry.prepare recipe = .ok plan ∧
      (plan.FailsToServe (plan.firstStage input control) failure ∨
        plan.ChargesStep recipe (plan.firstStage input control) failure)) ∧
    (failure.kind = .defect →
      failure.message = s!"Unexpected error in operation '{failure.operation}'") ∧
    ∀ registry', registry.Alike registry' → ∃ failure', failure.LooksLike failure' ∧
      ∀ attempt', registry'.Attempts recipe input control attempt' ↔
        attempt' = ⟨.error failure', attempt.log, attempt.counted⟩ := by
  -- A failure that is raised without cancellation goes back to the step that raised it.
  have hcharged : ∃ plan, registry.prepare recipe = .ok plan ∧
      (plan.FailsToServe (plan.firstStage input control) failure ∨
        plan.ChargesStep recipe (plan.firstStage input control) failure) := by
    cases hp : registry.prepare recipe with
    | error unfit =>
      obtain rfl := (attempts_iff_of_error hp).mp h
      obtain rfl := Except.error.inj hfailure
      obtain ⟨step, operation, message, rfl⟩ := prepare_eq_error hp
      simp [Failure.configuration, Failure.plain] at hkind
    | ok plan =>
      refine ⟨plan, rfl, ?_⟩
      obtain ⟨finished, hends, rfl⟩ := (attempts_iff hp).mp h
      obtain ⟨raised, rfl, hraised | ⟨hcompleted, hserve⟩⟩ := SectionEnd.toResult_eq_error hfailure
      · right
        have hne : raised.kind ≠ .cancelled := by
          rintro hcancelled
          simp [Failure.ofBake, hcancelled] at hkind
        rw [Failure.ofBake, if_neg hne]
        exact chargesStep_of_originates hp
          (hends.originates ((prepare_eq_ok hp).2.1.symm ▸ hr) hraised hne) _
      · exact .inl ⟨finished, raised, hends, hcompleted, hserve, rfl⟩
  refine ⟨hcharged, ?_, ?_⟩
  · intro hdefect
    obtain ⟨plan, _, ⟨finished, raised, _, _, hserve, rfl⟩ | hcharges⟩ := hcharged
    · obtain ⟨_, message, rfl⟩ := Options.serve_eq_error hserve
      cases hdefect
    · exact message_of_defect hcharges hdefect
  · intro registry' halike
    obtain ⟨attempt', hattempt', hsame, hlog, hcounted⟩ := halike.exists_attempts h
    obtain ⟨result', log', counted'⟩ := attempt'
    obtain rfl : log' = attempt.log := hlog
    obtain rfl : counted' = attempt.counted := hcounted
    rw [hfailure] at hsame
    rcases hsame.cases with ⟨_, hok, _⟩ | ⟨_, failure', herror, rfl, hshown⟩
    · cases hok
    · obtain rfl := Except.error.inj herror
      refine ⟨failure', Failure.looksLike_of_shown hshown, fun other => ⟨fun hother => ?_, ?_⟩⟩
      · exact hother.unique hattempt'
      · rintro rfl
        exact hattempt'

end Registry

/-! ## An operation that breaks in a branch -/

/-- The built-in operations with one that gives no dish. -/
def Registry.withFailing (name : String) (halt : Halt) : Registry :=
  builtIn.registerAll [Specimen.failing name halt]

theorem Registry.accountable_withFailing (name : String) {halt : Halt}
    (h : ∀ fault, halt = .fault fault → fault.IsOwn) : (withFailing name halt).Accountable := by
  refine accountable_builtIn.registerAll fun operation hmem => ?_
  obtain rfl := List.mem_singleton.mp hmem
  exact Operation.accountable_failing name h

/-- Operations that give no dish differ in hidden causes only if their halts do. -/
theorem Registry.alike_withFailing (name : String) {halt halt' : Halt}
    (h : halt.contained.shown = halt'.contained.shown) :
    (withFailing name halt).Alike (withFailing name halt') := by
  refine (Alike.refl builtIn).registerAll (.cons ⟨rfl, fun _ _ _ log => ⟨?_, rfl⟩, ?_⟩ .nil)
  · exact congrArg Except.error h
  · exact .act fun _ _ _ => rfl

/-- A step in a fork that crashes. -/
def Recipe.crashInBranch : Recipe :=
  ⟨1, [⟨"Fork", [.text ",", .text "-"], false, false⟩, ⟨"Explode", [], false, false⟩,
    ⟨"Merge", [], false, false⟩], .default⟩

/-- The crash in the branch is charged to its step, and shows the same as a breakdown by a fault. -/
theorem Registry.failure_attributed_crashInBranch :
    ∃ attempt failure failure', (withFailing "Explode" (.crash (some "index 9"))).Accountable ∧
      (withFailing "Explode" (.crash (some "index 9"))).Attempts .crashInBranch (.string "a,b")
        .default attempt ∧
      attempt.result = .error failure ∧ failure.kind = .defect ∧ failure.step = 1 ∧
      failure.message = "Unexpected error in operation 'Explode'" ∧ failure.LooksLike failure' ∧
      (withFailing "Explode" (.fault (.broken "disk"))).Attempts .crashInBranch (.string "a,b")
        .default ⟨.error failure', attempt.log, attempt.counted⟩ := by
  have hr : (withFailing "Explode" (.crash (some "index 9"))).Accountable :=
    accountable_withFailing "Explode" (by simp)
  have halike : (withFailing "Explode" (.crash (some "index 9"))).Alike
      (withFailing "Explode" (.fault (.broken "disk"))) := alike_withFailing "Explode" rfl
  have hbake : ((withFailing "Explode" (.crash (some "index 9"))).bake 4 .crashInBranch
      (.string "a,b") .default).any (fun attempt =>
        match attempt.result with
        | .error failure => decide (failure.kind = .defect ∧ failure.step = 1 ∧
            failure.operation = "Explode")
        | .ok _ => false) = true := by decide +kernel
  cases hattempt : (withFailing "Explode" (.crash (some "index 9"))).bake 4 .crashInBranch
      (.string "a,b") .default with
  | none => simp [hattempt] at hbake
  | some attempt =>
    rw [hattempt, Option.any_some] at hbake
    cases hresult : attempt.result with
    | ok outcome => simp [hresult] at hbake
    | error failure =>
      rw [hresult] at hbake
      obtain ⟨hkind, hstep, hname⟩ := of_decide_eq_true hbake
      obtain ⟨_, hmessage, hother⟩ := failure_attributed hr ⟨4, hattempt⟩ hresult (.inr (.inr hkind))
      obtain ⟨failure', hlooks, hattempts⟩ := hother _ halike
      have hgeneral := hmessage hkind
      rw [hname] at hgeneral
      exact ⟨attempt, failure, failure', hr, ⟨4, hattempt⟩, hresult, hkind, hstep, hgeneral, hlooks,
        (hattempts _).mpr rfl⟩

end Kitchen
