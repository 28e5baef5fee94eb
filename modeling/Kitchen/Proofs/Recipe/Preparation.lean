import Kitchen.Bake.Plan

/-!
# Preparation step by step

A recipe is ready if each of its steps is, and a step is made ready in the same way at every place.
So a selection of the steps of a recipe that fits the registry fits it too.
-/

namespace Kitchen
namespace Registry

variable {registry : Registry}

theorem operation_of_resolve {name : String} {operation : Operation}
    (h : registry.resolve name = .ok operation) : registry.operation name = operation := by
  rw [resolve] at h
  rw [Registry.operation]
  cases hget : registry.get? name with
  | none =>
    rw [hget] at h
    cases h
  | some found =>
    rw [hget] at h
    exact Except.ok.inj h

/-- A prepared step is what the recipe says about it, with bound arguments. -/
theorem prepareStep_eq_ok {i : Nat} {recipeStep : RecipeStep} {step : Step} :
    registry.prepareStep i recipeStep = .ok step ↔
      ∃ operation args, registry.resolve recipeStep.operation = .ok operation ∧
        operation.descriptor.bind recipeStep.args = .ok args ∧
        step = ⟨i, recipeStep.operation, args, recipeStep.disabled, recipeStep.breakpoint⟩ := by
  unfold prepareStep
  constructor
  · intro h
    cases hop : registry.resolve recipeStep.operation with
    | error message => simp [hop] at h
    | ok operation =>
      cases hargs : operation.descriptor.bind recipeStep.args with
      | error error => simp [hop, hargs] at h
      | ok args =>
        simp only [hop, hargs, Except.ok.injEq] at h
        exact ⟨operation, args, rfl, hargs, h.symm⟩
  · rintro ⟨operation, args, hop, hargs, rfl⟩
    simp only [hop, hargs]

/-- The place of a step is only written down. -/
theorem prepareStep_index {i : Nat} {recipeStep : RecipeStep} {step : Step}
    (h : registry.prepareStep i recipeStep = .ok step) (j : Nat) :
    registry.prepareStep j recipeStep = .ok { step with index := j } := by
  obtain ⟨operation, args, hop, hargs, rfl⟩ := prepareStep_eq_ok.mp h
  exact prepareStep_eq_ok.mpr ⟨operation, args, hop, hargs, rfl⟩

private theorem prepareSteps_cons_eq_ok {i : Nat} {recipeStep : RecipeStep}
    {recipeSteps : List RecipeStep} {steps : List Step}
    (h : registry.prepareSteps i (recipeStep :: recipeSteps) = .ok steps) :
    ∃ first rest, registry.prepareStep i recipeStep = .ok first ∧
      registry.prepareSteps (i + 1) recipeSteps = .ok rest ∧ steps = first :: rest := by
  rw [prepareSteps] at h
  cases hfirst : registry.prepareStep i recipeStep with
  | error failure => simp [hfirst, Bind.bind, Except.bind] at h
  | ok first =>
    cases hrest : registry.prepareSteps (i + 1) recipeSteps with
    | error failure => simp [hfirst, hrest, Bind.bind, Except.bind] at h
    | ok rest =>
      refine ⟨first, rest, rfl, rfl, ?_⟩
      simpa [hfirst, hrest, Bind.bind, Except.bind, Pure.pure, Except.pure] using h.symm

theorem length_prepareSteps {i : Nat} {recipeSteps : List RecipeStep} {steps : List Step}
    (h : registry.prepareSteps i recipeSteps = .ok steps) : steps.length = recipeSteps.length := by
  induction recipeSteps generalizing i steps with
  | nil =>
    obtain rfl := Except.ok.inj h
    rfl
  | cons recipeStep recipeSteps ih =>
    obtain ⟨first, rest, _, hrest, rfl⟩ := prepareSteps_cons_eq_ok h
    rw [List.length_cons, List.length_cons, ih hrest]

/-- Where the steps of a recipe are made ready, each of them is. -/
theorem getElem?_prepareSteps {i : Nat} {recipeSteps : List RecipeStep} {steps : List Step}
    (h : registry.prepareSteps i recipeSteps = .ok steps) {n : Nat} {recipeStep : RecipeStep}
    (hn : recipeSteps[n]? = some recipeStep) :
    ∃ step, steps[n]? = some step ∧ registry.prepareStep (i + n) recipeStep = .ok step := by
  induction recipeSteps generalizing i steps n with
  | nil => simp at hn
  | cons first' recipeSteps ih =>
    obtain ⟨first, rest, hfirst, hrest, rfl⟩ := prepareSteps_cons_eq_ok h
    cases n with
    | zero =>
      obtain rfl : first' = recipeStep := by simpa using hn
      exact ⟨first, rfl, hfirst⟩
    | succ n =>
      obtain ⟨step, hstep, hprepare⟩ := ih hrest hn
      refine ⟨step, hstep, ?_⟩
      rwa [Nat.add_right_comm, Nat.add_assoc] at hprepare

/-- Steps that fit one by one make a recipe that fits. -/
theorem exists_prepareSteps {recipeSteps : List RecipeStep}
    (h : ∀ recipeStep ∈ recipeSteps, ∃ i step, registry.prepareStep i recipeStep = .ok step)
    (i : Nat) : ∃ steps, registry.prepareSteps i recipeSteps = .ok steps := by
  induction recipeSteps generalizing i with
  | nil => exact ⟨[], rfl⟩
  | cons recipeStep recipeSteps ih =>
    obtain ⟨j, first, hfirst⟩ := h recipeStep List.mem_cons_self
    obtain ⟨rest, hrest⟩ := ih (fun other ho => h other (List.mem_cons_of_mem _ ho)) (i + 1)
    refine ⟨{ first with index := i } :: rest, ?_⟩
    rw [prepareSteps, prepareStep_index hfirst i, hrest]
    rfl

/-- A recipe that fits has the supported version and steps that fit. -/
theorem prepare_eq_ok {recipe : Recipe} {plan : Plan} (h : registry.prepare recipe = .ok plan) :
    recipe.version = Recipe.currentVersion ∧ plan.registry = registry ∧
      plan.options = recipe.options ∧ registry.prepareSteps 0 recipe.steps = .ok plan.steps := by
  unfold prepare at h
  by_cases hv : recipe.version = Recipe.currentVersion
  · rw [if_neg (not_not_intro hv)] at h
    cases hs : registry.prepareSteps 0 recipe.steps with
    | error failure => simp [hs, Except.map] at h
    | ok steps =>
      rw [hs] at h
      obtain rfl := Except.ok.inj h
      exact ⟨hv, rfl, rfl, rfl⟩
  · simp [hv] at h

theorem exists_prepareStep {recipe : Recipe} {plan : Plan} (hp : registry.prepare recipe = .ok plan)
    {i : Nat} {step : Step} (hstep : plan.steps[i]? = some step) :
    ∃ written, recipe.steps[i]? = some written ∧ registry.prepareStep i written = .ok step := by
  obtain ⟨_, _, _, hsteps⟩ := prepare_eq_ok hp
  have hi : i < recipe.steps.length :=
    length_prepareSteps hsteps ▸ (List.getElem?_eq_some_iff.mp hstep).1
  obtain ⟨found, hfound, hprepare⟩ :=
    getElem?_prepareSteps hsteps (List.getElem?_eq_getElem hi)
  obtain rfl := Option.some.inj (hstep.symm.trans hfound)
  rw [Nat.zero_add] at hprepare
  exact ⟨_, List.getElem?_eq_getElem hi, hprepare⟩

/-- A step of a plan is what the recipe says at its place. -/
theorem exists_written {recipe : Recipe} {plan : Plan} (hp : registry.prepare recipe = .ok plan)
    {i : Nat} {step : Step} (hstep : plan.steps[i]? = some step) :
    ∃ written, recipe.steps[i]? = some written ∧ written.disabled = step.disabled ∧
      written.operation = step.operation := by
  obtain ⟨written, hwritten, hprepare⟩ := exists_prepareStep hp hstep
  obtain ⟨_, _, _, _, rfl⟩ := prepareStep_eq_ok.mp hprepare
  exact ⟨written, hwritten, rfl, rfl⟩

/-- The arguments of a step of a plan have been bound by its operation. -/
theorem exists_bind {recipe : Recipe} {plan : Plan} (hp : registry.prepare recipe = .ok plan)
    {i : Nat} {step : Step} (hstep : plan.steps[i]? = some step) :
    ∃ values, (registry.operation step.operation).descriptor.bind values = .ok step.args := by
  obtain ⟨written, -, hprepare⟩ := exists_prepareStep hp hstep
  obtain ⟨operation, args, hresolve, hbind, rfl⟩ := prepareStep_eq_ok.mp hprepare
  refine ⟨written.args, ?_⟩
  rw [operation_of_resolve hresolve]
  exact hbind

theorem prepareStep_eq_error {i : Nat} {recipeStep : RecipeStep} {failure : Failure}
    (h : registry.prepareStep i recipeStep = .error failure) :
    ∃ message, failure = .configuration i recipeStep.operation message := by
  unfold prepareStep at h
  split at h
  · exact ⟨_, (Except.error.inj h).symm⟩
  · split at h
    · exact ⟨_, (Except.error.inj h).symm⟩
    · simp at h

private theorem prepareSteps_eq_error {i : Nat} {recipeSteps : List RecipeStep} {failure : Failure}
    (h : registry.prepareSteps i recipeSteps = .error failure) :
    ∃ step operation message, failure = .configuration step operation message := by
  induction recipeSteps generalizing i with
  | nil => simp [prepareSteps] at h
  | cons recipeStep recipeSteps ih =>
    rw [prepareSteps] at h
    cases hfirst : registry.prepareStep i recipeStep with
    | error other =>
      obtain ⟨message, rfl⟩ := prepareStep_eq_error hfirst
      rw [hfirst] at h
      exact ⟨_, _, _, (Except.error.inj h).symm⟩
    | ok first =>
      cases hrest : registry.prepareSteps (i + 1) recipeSteps with
      | error other =>
        obtain rfl : other = failure := by
          simpa [hfirst, hrest, Bind.bind, Except.bind] using h
        exact ih hrest
      | ok rest => simp [hfirst, hrest, Bind.bind, Except.bind, Pure.pure, Except.pure] at h

/-- A recipe that does not fit fails by its configuration. -/
theorem prepare_eq_error {recipe : Recipe} {failure : Failure}
    (h : registry.prepare recipe = .error failure) :
    ∃ step operation message, failure = .configuration step operation message := by
  unfold prepare at h
  by_cases hv : recipe.version = Recipe.currentVersion
  · rw [if_neg (not_not_intro hv)] at h
    cases hs : registry.prepareSteps 0 recipe.steps with
    | error other =>
      obtain rfl : other = failure := by simpa [hs, Except.map] using h
      exact prepareSteps_eq_error hs
    | ok steps => simp [hs, Except.map] at h
  · rw [if_pos hv] at h
    exact ⟨_, _, _, (Except.error.inj h).symm⟩

/-- A selection of the steps of a recipe that fits is a recipe that fits. -/
theorem exists_prepare_of_subset {recipe selection : Recipe} {plan : Plan}
    (h : registry.prepare recipe = .ok plan) (hv : selection.version = recipe.version)
    (hs : ∀ recipeStep ∈ selection.steps, recipeStep ∈ recipe.steps) :
    ∃ plan', registry.prepare selection = .ok plan' := by
  obtain ⟨hversion, _, _, hsteps⟩ := prepare_eq_ok h
  have hfit : ∀ recipeStep ∈ selection.steps, ∃ i step,
      registry.prepareStep i recipeStep = .ok step := by
    intro recipeStep hmem
    obtain ⟨n, hn⟩ := List.mem_iff_getElem?.mp (hs recipeStep hmem)
    obtain ⟨step, _, hstep⟩ := getElem?_prepareSteps hsteps hn
    exact ⟨_, step, hstep⟩
  obtain ⟨steps, hprepared⟩ := exists_prepareSteps hfit 0
  refine ⟨⟨registry, steps, selection.options⟩, ?_⟩
  rw [prepare, if_neg (not_not_intro (hv.trans hversion)), hprepared]
  rfl

end Registry
end Kitchen
