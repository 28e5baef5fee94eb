import Kitchen.Operation.BuiltIn
import Kitchen.Proofs.Recipe.Preparation
import Kitchen.Proofs.Validation.Report
import Mathlib.Data.List.Forall2

/-!
# Fitness

Validation finds an error exactly where preparation cannot go on: at the version, or at a step whose
operation is unknown or whose arguments do not bind, be it disabled or not. Preparation ends at the
first of the errors and says the same of it.
-/

namespace Kitchen
namespace Registry

variable {registry : Registry}

/-- The operation of the step is known, and its arguments bind. -/
def fits (registry : Registry) (step : RecipeStep) : Bool :=
  match registry.resolve step.operation with
  | .ok operation => (operation.descriptor.bind step.args).toBool
  | .error _ => false

/-- An error tells why the step at an index does not fit. -/
inductive Reports (registry : Registry) (index : Nat) (step : RecipeStep) : String → Prop where
  | unresolved {message : String} : registry.resolve step.operation = .error message →
      Reports registry index step (stepTitle index step.operation ++ ": " ++ message)
  | unbound {operation : Operation} {error : BindError} :
      registry.resolve step.operation = .ok operation →
      operation.descriptor.bind step.args = .error error →
      Reports registry index step
        (stepTitle index step.operation ++ ": Invalid arguments: " ++ error.message)

/-! ## Steps -/

theorem fits_iff {step : RecipeStep} (i : Nat) :
    registry.fits step = true ↔ ∃ prepared, registry.prepareStep i step = .ok prepared := by
  unfold fits prepareStep
  cases registry.resolve step.operation with
  | error message => simp
  | ok operation =>
    dsimp only
    cases operation.descriptor.bind step.args <;> simp [Except.toBool]

/-- Preparation fails at the step of the error, with the message of the error. -/
theorem Reports.of_prepareStep {i : Nat} {step : RecipeStep} {report : String} {failure : Failure}
    (h : registry.Reports i step report) (hf : registry.prepareStep i step = .error failure) :
    failure.step = i ∧ failure.operation = step.operation ∧
      ∃ lead ∈ [": ", ": Invalid arguments: "],
        report = stepTitle i step.operation ++ lead ++ failure.message := by
  unfold prepareStep at hf
  cases h with
  | unresolved hop =>
    rw [hop] at hf
    obtain rfl := Except.error.inj hf
    exact ⟨rfl, rfl, _, by simp, rfl⟩
  | unbound hop hargs =>
    simp only [hop, hargs] at hf
    obtain rfl := Except.error.inj hf
    exact ⟨rfl, rfl, _, by simp, rfl⟩

theorem errors_validateStep (i : Nat) (step : RecipeStep) :
    registry.fits step = true ∧ (registry.validateStep i step).errors = [] ∨
      registry.fits step = false ∧
        ∃ report, registry.Reports i step report ∧
          (registry.validateStep i step).errors = [report] := by
  unfold validateStep stepError? fits
  cases hop : registry.resolve step.operation with
  | error message => exact .inr ⟨rfl, _, .unresolved hop, rfl⟩
  | ok operation =>
    dsimp only
    cases hargs : operation.descriptor.bind step.args with
    | error error =>
      have hlead : ": Invalid arguments: " = ": " ++ "Invalid arguments: " := rfl
      refine .inr ⟨rfl, _, .unbound hop hargs, ?_⟩
      simp only [ValidationReport.error, hlead, String.append_assoc]
    | ok args =>
      refine .inl ⟨rfl, ?_⟩
      dsimp only
      split <;> rfl

/-! ## Lists of steps -/

/-- The steps that do not fit, with their places from an index on. -/
def unfit (registry : Registry) (i : Nat) (steps : List RecipeStep) : List (RecipeStep × Nat) :=
  (steps.zipIdx i).filter fun s => !registry.fits s.1

theorem unfit_cons (i : Nat) (step : RecipeStep) (steps : List RecipeStep) :
    registry.unfit i (step :: steps) =
      if registry.fits step then registry.unfit (i + 1) steps
      else (step, i) :: registry.unfit (i + 1) steps := by
  rw [unfit, List.zipIdx_cons, List.filter_cons]
  cases registry.fits step <;> rfl

theorem getElem?_of_mem_unfit {steps : List RecipeStep} {step : RecipeStep} {i : Nat}
    (h : (step, i) ∈ registry.unfit 0 steps) : steps[i]? = some step :=
  List.mem_zipIdx_iff_getElem?.mp (List.mem_of_mem_filter h)

/-- Validation gives one error for each step that does not fit, in order. -/
theorem reports_validateStep (i : Nat) (steps : List RecipeStep) :
    List.Forall₂ (fun s report => registry.Reports s.2 s.1 report) (registry.unfit i steps)
      ((steps.zipIdx i).flatMap fun s => (registry.validateStep s.2 s.1).errors) := by
  induction steps generalizing i with
  | nil => exact .nil
  | cons step steps ih =>
    have hrest := ih (i + 1)
    rw [unfit_cons, List.zipIdx_cons, List.flatMap_cons]
    rcases registry.errors_validateStep i step with ⟨hfits, hnone⟩ | ⟨hfits, report, hreport, hone⟩
    · rw [if_pos hfits, hnone]
      exact hrest
    · rw [hfits, hone]
      exact .cons hreport hrest

/-- Preparation ends at the first step that does not fit, if there is one. -/
theorem prepareSteps_cases (i : Nat) (steps : List RecipeStep) :
    (∃ prepared, registry.prepareSteps i steps = .ok prepared ∧ registry.unfit i steps = []) ∨
      ∃ failure step rest, registry.prepareSteps i steps = .error failure ∧
        registry.unfit i steps = (step, failure.step) :: rest ∧
        registry.prepareStep failure.step step = .error failure := by
  induction steps generalizing i with
  | nil => exact .inl ⟨[], rfl, rfl⟩
  | cons step steps ih =>
    rw [prepareSteps, unfit_cons]
    cases hstep : registry.prepareStep i step with
    | error failure =>
      have hunfit : ¬ registry.fits step = true := by
        rw [fits_iff i, hstep]
        simp
      obtain ⟨message, rfl⟩ := prepareStep_eq_error hstep
      exact .inr ⟨_, step, _, rfl, if_neg hunfit, hstep⟩
    | ok first =>
      have hfits : registry.fits step = true := (fits_iff i).mpr ⟨first, hstep⟩
      rw [if_pos hfits]
      rcases ih (i + 1) with ⟨prepared, hrest, hnone⟩ | ⟨failure, other, rest, hrest, hfirst, hfails⟩
      · exact .inl ⟨first :: prepared, by rw [hrest]; rfl, hnone⟩
      · exact .inr ⟨failure, other, rest, by rw [hrest]; rfl, hfirst, hfails⟩

/-! ## Recipes -/

variable {recipe : Recipe}

theorem errors_eq (registry : Registry) (recipe : Recipe) :
    ∃ reports, (registry.validate recipe).errors =
        (if recipe.version = Recipe.currentVersion then []
          else [Recipe.versionMessage recipe.version]) ++ reports ∧
      List.Forall₂ (fun s report => registry.Reports s.2 s.1 report)
        (registry.unfit 0 recipe.steps) reports := by
  have hversion : (validateVersion recipe.version).errors =
      if recipe.version = Recipe.currentVersion then []
      else [Recipe.versionMessage recipe.version] := by
    unfold validateVersion
    by_cases hv : recipe.version = Recipe.currentVersion
    · rw [if_neg (not_not_intro hv), if_pos hv]
      rfl
    · rw [if_pos hv, if_neg hv]
      rfl
  rw [← hversion]
  exact ⟨_, registry.errors_validate recipe, registry.reports_validateStep 0 recipe.steps⟩

/-- Of a supported version a recipe fits if all of its steps do, and otherwise fails at the first one
that does not. -/
theorem prepare_cases (hv : recipe.version = Recipe.currentVersion) :
    (∃ plan, registry.prepare recipe = .ok plan ∧ registry.unfit 0 recipe.steps = []) ∨
      ∃ failure step rest, registry.prepare recipe = .error failure ∧
        registry.unfit 0 recipe.steps = (step, failure.step) :: rest ∧
        registry.prepareStep failure.step step = .error failure := by
  rw [prepare, if_neg (not_not_intro hv)]
  rcases registry.prepareSteps_cases 0 recipe.steps with ⟨prepared, hprepared, hnone⟩ |
    ⟨failure, step, rest, hprepared, hfirst, hfails⟩
  · exact .inl ⟨_, by rw [hprepared]; rfl, hnone⟩
  · exact .inr ⟨failure, step, rest, by rw [hprepared]; rfl, hfirst, hfails⟩

theorem isOk_validate_iff :
    (registry.validate recipe).isOk = true ↔ ∃ plan, registry.prepare recipe = .ok plan := by
  obtain ⟨reports, herrors, hreports⟩ := registry.errors_eq recipe
  rw [ValidationReport.isOk, List.isEmpty_iff, herrors]
  by_cases hv : recipe.version = Recipe.currentVersion
  · rw [if_pos hv, List.nil_append]
    rcases registry.prepare_cases hv with ⟨plan, hplan, hnone⟩ |
      ⟨failure, step, rest, hfailure, hfirst, _⟩
    · rw [hnone] at hreports
      rw [List.forall₂_nil_left_iff.mp hreports, hplan]
      simp
    · rw [hfirst] at hreports
      obtain ⟨report, others, _, _, hcons⟩ := List.forall₂_cons_left_iff.mp hreports
      rw [hcons, hfailure]
      simp
  · simp [hv, prepare]

theorem first_error_of_prepare (hv : recipe.version = Recipe.currentVersion) {failure : Failure}
    (hf : registry.prepare recipe = .error failure) :
    ∃ step first rest, recipe.steps[failure.step]? = some step ∧
      failure.operation = step.operation ∧ (registry.validate recipe).errors = first :: rest ∧
      ∃ lead ∈ [": ", ": Invalid arguments: "],
        first = stepTitle failure.step failure.operation ++ lead ++ failure.message := by
  obtain ⟨reports, herrors, hreports⟩ := registry.errors_eq recipe
  rcases registry.prepare_cases hv with ⟨plan, hplan, _⟩ | ⟨other, step, rest, hother, hfirst, hfails⟩
  · simp [hf] at hplan
  · obtain rfl := Except.error.inj (hother.symm.trans hf)
    have hstep := getElem?_of_mem_unfit (hfirst ▸ List.mem_cons_self)
    rw [hfirst] at hreports
    obtain ⟨report, others, hreport, _, rfl⟩ := List.forall₂_cons_left_iff.mp hreports
    obtain ⟨_, hoperation, hlead⟩ := hreport.of_prepareStep hfails
    rw [if_pos hv, List.nil_append] at herrors
    exact ⟨step, report, others, hstep, hoperation, herrors, hoperation ▸ hlead⟩

/-- Validation and preparation accept the same recipes. The errors are that of the version, if it is
not supported, and one for each step that does not fit. Of a supported version the first error tells
where preparation ends, and why. -/
theorem validate_prepare (registry : Registry) (recipe : Recipe) :
    ((registry.validate recipe).isOk = true ↔ ∃ plan, registry.prepare recipe = .ok plan) ∧
    (∃ reports, (registry.validate recipe).errors =
        (if recipe.version = Recipe.currentVersion then []
          else [Recipe.versionMessage recipe.version]) ++ reports ∧
      List.Forall₂ (fun s report => registry.Reports s.2 s.1 report)
        (registry.unfit 0 recipe.steps) reports) ∧
    (recipe.version = Recipe.currentVersion → ∀ failure, registry.prepare recipe = .error failure →
      ∃ step first rest, recipe.steps[failure.step]? = some step ∧
        failure.operation = step.operation ∧
        (registry.validate recipe).errors = first :: rest ∧
        ∃ lead ∈ [": ", ": Invalid arguments: "],
          first = stepTitle failure.step failure.operation ++ lead ++ failure.message) := by
  refine ⟨isOk_validate_iff, registry.errors_eq recipe, ?_⟩
  intro hv failure hf
  exact first_error_of_prepare hv hf

end Registry

/-- A remark, an unknown operation that is disabled, and a choice that there is not. -/
def Recipe.misfits : Recipe :=
  ⟨1, [⟨"Comment", [], false, false⟩, ⟨"Frobnicate", [], true, false⟩,
    ⟨"To Upper case", [.text "Loudly"], false, false⟩], .default⟩

/-- Two steps do not fit, and preparation ends at the disabled one. -/
theorem Registry.validate_prepare_misfits :
    (builtIn.validate .misfits).isOk = false ∧ ∃ failure first second,
      builtIn.prepare .misfits = .error failure ∧ failure.step = 1 ∧
      failure.operation = "Frobnicate" ∧ (builtIn.validate .misfits).errors = [first, second] ∧
      ∃ lead ∈ [": ", ": Invalid arguments: "],
        first = stepTitle 1 "Frobnicate" ++ lead ++ failure.message := by
  obtain ⟨_, ⟨reports, herrors, hreports⟩, hfirst⟩ := validate_prepare builtIn .misfits
  have hf : builtIn.prepare .misfits = .error _ := rfl
  have hunfit : (builtIn.unfit 0 Recipe.misfits.steps).length = 2 := by decide +kernel
  have hlength : reports.length = 2 := hreports.length_eq.symm.trans hunfit
  obtain ⟨step, first, rest, _, _, hcons, hlead⟩ := hfirst rfl _ hf
  have hrest : rest.length = 1 := by
    have hsame : first :: rest = reports := hcons.symm.trans herrors
    rw [← hsame, List.length_cons] at hlength
    omega
  obtain ⟨second, rfl⟩ := List.length_eq_one_iff.mp hrest
  refine ⟨?_, _, first, second, hf, rfl, rfl, hcons, hlead⟩
  rw [ValidationReport.isOk, hcons]
  rfl

end Kitchen
