import Kitchen.Validation

/-!
# Reports

Where the errors and the warnings of a validated recipe come from. Errors are about the version and
about single steps; all that is said about labels, targets and forks are warnings.
-/

namespace Kitchen
namespace ValidationReport

@[simp] theorem errors_append (a b : ValidationReport) : (a ++ b).errors = a.errors ++ b.errors := rfl

@[simp] theorem warnings_append (a b : ValidationReport) :
    (a ++ b).warnings = a.warnings ++ b.warnings := rfl

@[simp] theorem errors_empty : empty.errors = [] := rfl

@[simp] theorem warnings_empty : empty.warnings = [] := rfl

@[simp] theorem errors_warning (message : String) : (warning message).errors = [] := rfl

@[simp] theorem warnings_warning (message : String) : (warning message).warnings = [message] := rfl

@[simp] theorem warnings_error (message : String) : (error message).warnings = [] := rfl

end ValidationReport

open ValidationReport

@[simp] theorem errors_validateLength (steps : List RecipeStep) :
    (validateLength steps).errors = [] := by
  unfold validateLength
  split <;> rfl

@[simp] theorem errors_validateLabels (index : Nat) (known : List (String × Nat))
    (steps : List RecipeStep) : (validateLabels index known steps).errors = [] := by
  fun_induction validateLabels index known steps with
  | case1 => rfl
  | case2 index known step rest hnone ih => exact ih
  | case3 index known step rest name hname hnew ih => exact ih
  | case4 index known step rest name hname first hknown repeats ih =>
    rw [errors_append, errors_warning, ih, List.append_nil]

@[simp] theorem errors_validateTarget (labels : List String) (index : Nat) (step : RecipeStep) :
    (validateTarget labels index step).errors = [] := by
  unfold validateTarget
  split
  · rfl
  · split <;> rfl

@[simp] theorem errors_validateForks (index : Nat) (opened : Option Nat)
    (steps : List RecipeStep) : (validateForks index opened steps).errors = [] := by
  fun_induction validateForks index opened steps <;> simp [*]

/-- Errors are about the version and about steps by themselves. -/
theorem Registry.errors_validate (registry : Registry) (recipe : Recipe) :
    (registry.validate recipe).errors =
      (validateVersion recipe.version).errors ++
        recipe.steps.zipIdx.flatMap fun s => (registry.validateStep s.2 s.1).errors := by
  have htargets : (ValidationReport.join (recipe.steps.mapIdx
      (validateTarget (recipe.steps.filterMap RecipeStep.label?)))).errors = [] := by
    simp [ValidationReport.join, List.mapIdx_eq_zipIdx_map, List.flatMap_map]
  simp only [validate, errors_append, errors_validateLength, errors_validateLabels,
    errors_validateForks, htargets, List.append_nil]
  simp [ValidationReport.join, List.mapIdx_eq_zipIdx_map, List.flatMap_map]

/-- Warnings are about the length of the recipe, about steps by themselves, about labels, targets and
forks. -/
theorem Registry.mem_warnings_validate {registry : Registry} {recipe : Recipe} {text : String} :
    text ∈ (registry.validate recipe).warnings ↔
      text ∈ (validateLength recipe.steps).warnings ∨
      (∃ i step, recipe.steps[i]? = some step ∧ text ∈ (registry.validateStep i step).warnings) ∨
      text ∈ (validateLabels 0 [] recipe.steps).warnings ∨
      (∃ i step, recipe.steps[i]? = some step ∧
        text ∈ (validateTarget (recipe.steps.filterMap RecipeStep.label?) i step).warnings) ∨
      text ∈ (validateForks 0 none recipe.steps).warnings := by
  have hversion : (validateVersion recipe.version).warnings = [] := by
    unfold validateVersion
    split <;> rfl
  have hjoin (f : Nat → RecipeStep → ValidationReport) :
      text ∈ (ValidationReport.join (recipe.steps.mapIdx f)).warnings ↔
        ∃ i step, recipe.steps[i]? = some step ∧ text ∈ (f i step).warnings := by
    simp only [ValidationReport.join, List.mapIdx_eq_zipIdx_map, List.flatMap_map, List.mem_flatMap]
    constructor
    · rintro ⟨⟨step, i⟩, hmem, htext⟩
      exact ⟨i, step, List.mem_zipIdx_iff_getElem?.mp hmem, htext⟩
    · rintro ⟨i, step, hstep, htext⟩
      exact ⟨(step, i), List.mem_zipIdx_iff_getElem?.mpr hstep, htext⟩
  simp only [validate, warnings_append, List.mem_append, hversion, hjoin, List.not_mem_nil,
    false_or, or_assoc]

end Kitchen
