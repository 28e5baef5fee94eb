import Kitchen.Proofs.Validation.Labels

/-!
# Forks and merges

What validation says about forks and merges, told from a step on at which no fork is open. A step
that neither forks nor merges says nothing, a merge is warned about there, and a fork passes over all
steps up to its merge in silence. If it has none, it is the last that is warned about.
-/

namespace Kitchen

/-! ## Wording -/

/-- The warning about a merge at which no fork is open. -/
def unopenedMerge (index : Nat) : String := s!"Merge at step {index + 1} has no open Fork"

/-- The warning about a fork behind which no merge stands. -/
def unmergedFork (first : Nat) : String :=
  s!"Fork at step {first + 1} has no Merge; it runs to the end of the recipe"

theorem initial?_unopenedMerge (index : Nat) : initial? (unopenedMerge index) = some 'M' :=
  initial?_append (initial?_append rfl _) _

theorem initial?_unmergedFork (first : Nat) : initial? (unmergedFork first) = some 'F' :=
  initial?_append (initial?_append rfl _) _

theorem unopenedMerge_ne_unmergedFork (index first : Nat) :
    unopenedMerge index ≠ unmergedFork first := by
  intro h
  have hinitial := initial?_unopenedMerge index
  rw [h, initial?_unmergedFork] at hinitial
  simp at hinitial

/-- A number between words is read back. -/
private theorem numbered_inj {word rest : String} {i j : Nat}
    (h : word ++ toString (i + 1) ++ rest = word ++ toString (j + 1) ++ rest) : i = j := by
  have hlists := congrArg String.toList h
  simp only [String.toList_append, toList_natToString] at hlists
  have hdigits := List.append_cancel_left (List.append_cancel_right hlists)
  exact Nat.succ.inj (toDigits_injective hdigits)

theorem unopenedMerge_inj {i j : Nat} (h : unopenedMerge i = unopenedMerge j) : i = j :=
  numbered_inj h

theorem unmergedFork_inj {i j : Nat} (h : unmergedFork i = unmergedFork j) : i = j :=
  numbered_inj h

/-! ## From step to step -/

/-- The step is an enabled merge. -/
def RecipeStep.isMerge (step : RecipeStep) : Bool := !step.disabled && step.operation == mergeName

/-- What is said about forks and merges from a step on, if no fork is open there. -/
def forksFrom (steps : List RecipeStep) (i : Nat) : List String :=
  (validateForks i none (steps.drop i)).warnings

/-- Only what is said about forks and merges begins as these warnings do. -/
theorem mem_warnings_iff_forksFrom {registry : Registry} {recipe : Recipe} {text : String}
    (h : initial? text = some 'M' ∨ initial? text = some 'F') :
    text ∈ (registry.validate recipe).warnings ↔
      text ∈ forksFrom recipe.steps 0 := by
  constructor
  · intro hmem
    rcases Registry.mem_warnings_validate.mp hmem with hmem | ⟨_, _, _, hmem⟩ | hmem |
      ⟨_, _, _, hmem⟩ | hmem
    · simp [initial?_validateLength hmem] at h
    · simp [initial?_validateStep hmem] at h
    · obtain ⟨_, _, _, _, _, _, _, _, rfl⟩ := mem_validateLabels_nil.mp hmem
      simp [initial?_repeatedLabel] at h
    · obtain ⟨_, _, _, _, rfl⟩ := mem_validateTarget.mp hmem
      simp [initial?_missingLabel] at h
    · exact hmem
  · exact fun hmem => Registry.mem_warnings_validate.mpr (.inr (.inr (.inr (.inr hmem))))

section Steps

variable {steps : List RecipeStep} {step : RecipeStep} {i : Nat}

private theorem drop_eq_cons (h : steps[i]? = some step) :
    steps.drop i = step :: steps.drop (i + 1) := by
  obtain ⟨hlt, rfl⟩ := List.getElem?_eq_some_iff.mp h
  exact List.drop_eq_getElem_cons hlt

theorem forksFrom_of_length_le (h : steps.length ≤ i) : forksFrom steps i = [] := by
  rw [forksFrom, List.drop_eq_nil_of_le h]
  rfl

theorem forksFrom_of_disabled (hstep : steps[i]? = some step) (h : step.disabled = true) :
    forksFrom steps i = forksFrom steps (i + 1) := by
  rw [forksFrom, drop_eq_cons hstep, validateForks, if_pos h]
  rfl

theorem forksFrom_of_other (hstep : steps[i]? = some step) (hfork : step.operation ≠ Flow.fork.name)
    (hmerge : step.operation ≠ mergeName) : forksFrom steps i = forksFrom steps (i + 1) := by
  rw [forksFrom, drop_eq_cons hstep, validateForks, if_neg hfork, if_neg hmerge, ite_self]
  rfl

theorem forksFrom_of_merge (hstep : steps[i]? = some step) (henabled : step.disabled = false)
    (hmerge : step.operation = mergeName) :
    forksFrom steps i = unopenedMerge i :: forksFrom steps (i + 1) := by
  have hfork : step.operation ≠ Flow.fork.name := by
    rw [hmerge]
    decide
  rw [forksFrom, drop_eq_cons hstep, validateForks, henabled, if_neg Bool.false_ne_true,
    if_neg hfork, if_pos hmerge]
  rfl

/-- While a fork is open, nothing is said before a merge. -/
private theorem validateForks_opened {first stop : Nat} (hle : i ≤ stop)
    (hstop : stop ≤ steps.length)
    (h : ∀ n step, i ≤ n → n < stop → steps[n]? = some step → step.isMerge = false) :
    validateForks i (some first) (steps.drop i) =
      validateForks stop (some first) (steps.drop stop) := by
  induction hle with
  | refl => rfl
  | @step stop hle ih =>
    have hle : i ≤ stop := hle
    obtain ⟨step, hstep⟩ : ∃ step, steps[stop]? = some step :=
      ⟨_, List.getElem?_eq_getElem hstop⟩
    have hmerge := h stop step hle (Nat.lt_succ_self stop) hstep
    rw [ih (Nat.le_of_succ_le hstop) fun n step hn hlt => h n step hn (Nat.lt_succ_of_lt hlt),
      drop_eq_cons hstep, validateForks]
    cases hd : step.disabled with
    | true => rfl
    | false =>
      have hname : step.operation ≠ mergeName := by
        simpa [RecipeStep.isMerge, hd] using hmerge
      rw [if_neg Bool.false_ne_true, if_neg hname]
      split <;> rfl

private theorem forksFrom_of_fork (hstep : steps[i]? = some step) (henabled : step.disabled = false)
    (hfork : step.operation = Flow.fork.name) :
    forksFrom steps i = (validateForks (i + 1) (some i) (steps.drop (i + 1))).warnings := by
  rw [forksFrom, drop_eq_cons hstep, validateForks, henabled, if_neg Bool.false_ne_true,
    if_pos hfork]
  rfl

/-- A fork and its merge are passed over in silence, with all that stands between them. -/
theorem forksFrom_of_merged {stop : Nat} {merge : RecipeStep} (hstep : steps[i]? = some step)
    (henabled : step.disabled = false) (hfork : step.operation = Flow.fork.name) (hlt : i < stop)
    (hmerge : steps[stop]? = some merge) (hmerges : merge.isMerge = true)
    (h : ∀ n step, i < n → n < stop → steps[n]? = some step → step.isMerge = false) :
    forksFrom steps i = forksFrom steps (stop + 1) := by
  have hmarks : merge.disabled = false ∧ merge.operation = mergeName := by
    simpa [RecipeStep.isMerge] using hmerges
  have hname : merge.operation ≠ Flow.fork.name := by
    rw [hmarks.2]
    decide
  have hstop : stop ≤ steps.length := Nat.le_of_lt (List.getElem?_eq_some_iff.mp hmerge).1
  rw [forksFrom_of_fork hstep henabled hfork, validateForks_opened hlt hstop h,
    drop_eq_cons hmerge, validateForks, hmarks.1, if_neg Bool.false_ne_true, if_neg hname,
    if_pos hmarks.2]
  rfl

/-- A fork without a merge is the last that is warned about. -/
theorem forksFrom_of_unmerged (hstep : steps[i]? = some step) (henabled : step.disabled = false)
    (hfork : step.operation = Flow.fork.name)
    (h : ∀ n step, i < n → steps[n]? = some step → step.isMerge = false) :
    forksFrom steps i = [unmergedFork i] := by
  have hlt : i + 1 ≤ steps.length := (List.getElem?_eq_some_iff.mp hstep).1
  rw [forksFrom_of_fork hstep henabled hfork,
    validateForks_opened hlt (Nat.le_refl _) fun n step hn _ => h n step hn, List.drop_length]
  rfl

end Steps
end Kitchen
