import Kitchen.Operation.BuiltIn
import Kitchen.Proofs.Recipe.Preparation
import Kitchen.Proofs.Run.Result
import Kitchen.Proofs.Run.Thinning

/-!
# Leaving out idle steps

Where two recipes fit and the second lists steps of the first in their order and leaves out idle ones, the
plan of the second is a thinning of the plan of the first. So disabled steps and remarks may be taken out of
a recipe, whatever they are and wherever they stand: the bake comes to the same result, with the steps at
their new places.
-/

namespace Kitchen

/-! ## Selections -/

/-- The step does nothing in any bake: it is disabled or a remark. -/
def RecipeStep.isIdle (recipeStep : RecipeStep) : Bool :=
  recipeStep.disabled || recipeStep.operation == Flow.comment.name

namespace Registry

variable {registry : Registry} {recipe selection : Recipe} {plan plan' : Plan}

private theorem isIdle_prepareStep {i : Nat} {recipeStep : RecipeStep} {step : Step}
    (h : registry.prepareStep i recipeStep = .ok step) : step.isIdle = recipeStep.isIdle := by
  obtain ⟨_, _, _, _, rfl⟩ := prepareStep_eq_ok.mp h
  rfl

/-- A selection that leaves out idle steps of a range is planned as a thinning. -/
theorem thinning_of_selection (h : registry.prepare recipe = .ok plan)
    (h' : registry.prepare selection = .ok plan') {first stop : Nat} {place : Nat → Nat}
    (hs : ∀ i, first ≤ i → i < stop → ∃ recipeStep, recipe.steps[i]? = some recipeStep ∧
      ((place (i + 1) = place i + 1 ∧ selection.steps[place i]? = some recipeStep) ∨
        (place (i + 1) = place i ∧ recipeStep.isIdle = true))) :
    Thinning plan.steps plan'.steps first stop place where
  kept_or_idle i hfirst hstop := by
    obtain ⟨_, _, _, hsteps⟩ := prepare_eq_ok h
    obtain ⟨_, _, _, hsteps'⟩ := prepare_eq_ok h'
    obtain ⟨recipeStep, hi, hcases⟩ := hs i hfirst hstop
    obtain ⟨step, hstep, hprepared⟩ := getElem?_prepareSteps hsteps hi
    refine ⟨step, hstep, ?_⟩
    rcases hcases with ⟨hplace, hi'⟩ | ⟨hplace, hidle⟩
    · obtain ⟨step', hstep', hprepared'⟩ := getElem?_prepareSteps hsteps' hi'
      have hsame := (prepareStep_index hprepared (0 + place i)).symm.trans hprepared'
      obtain rfl := Except.ok.inj hsame
      exact .inl ⟨hplace, _, _, hstep'⟩
    · exact .inr ⟨hplace, (isIdle_prepareStep hprepared).trans hidle⟩

end Registry

/-! ## All idle steps -/

namespace Recipe

/-- The recipe without its idle steps. -/
def withoutIdle (recipe : Recipe) : Recipe :=
  { recipe with steps := recipe.steps.filter (!·.isIdle) }

/-- The place of a step among the steps that are not idle: how many of them stand before it. -/
def placeWithoutIdle (recipe : Recipe) (i : Nat) : Nat :=
  (recipe.steps.take i).countP (!·.isIdle)

end Recipe

private theorem getElem?_filter_countP {α : Type} {p : α → Bool} {l : List α} {i : Nat} {a : α}
    (h : l[i]? = some a) (hp : p a = true) : (l.filter p)[(l.take i).countP p]? = some a := by
  obtain ⟨hi, rfl⟩ := List.getElem?_eq_some_iff.mp h
  have hsplit : l.filter p = (l.take i).filter p ++ l[i] :: (l.drop (i + 1)).filter p := by
    conv => lhs; rw [← List.take_append_drop i l]
    rw [List.filter_append, List.drop_eq_getElem_cons hi, List.filter_cons_of_pos hp]
  rw [hsplit, List.countP_eq_length_filter, List.getElem?_append_right (Nat.le_refl _),
    Nat.sub_self]
  rfl

section Bakes

variable {recipe : Recipe} {plan plan' : Plan}

private theorem thinning_withoutIdle (h : Registry.builtIn.prepare recipe = .ok plan)
    (h' : Registry.builtIn.prepare recipe.withoutIdle = .ok plan') :
    Thinning plan.steps plan'.steps 0 plan.steps.length recipe.placeWithoutIdle := by
  obtain ⟨_, _, _, hsteps⟩ := Registry.prepare_eq_ok h
  refine Registry.thinning_of_selection h h' fun i _ hi => ?_
  rw [Registry.length_prepareSteps hsteps] at hi
  have hget : recipe.steps[i]? = some recipe.steps[i] := List.getElem?_eq_getElem hi
  refine ⟨_, hget, ?_⟩
  have hplace := countP_take_add_one hget (!·.isIdle)
  change recipe.placeWithoutIdle (i + 1) = recipe.placeWithoutIdle i + _ at hplace
  cases hidle : recipe.steps[i].isIdle with
  | true => exact .inr ⟨by simpa [hidle] using hplace, rfl⟩
  | false =>
    exact .inl ⟨by simpa [hidle] using hplace, getElem?_filter_countP hget (by simp [hidle])⟩

private theorem placeWithoutIdle_length :
    recipe.withoutIdle.steps.length = recipe.placeWithoutIdle recipe.steps.length := by
  rw [Recipe.withoutIdle, Recipe.placeWithoutIdle, List.take_length, List.countP_eq_length_filter]

/-- A recipe and the recipe without its idle steps bake to the same results, but for the places of
steps. A bake that completes has passed all steps, and one that fails does so in a step that has been
kept, or behind the last one. -/
theorem Registry.bakes_withoutIdle_iff (h : builtIn.prepare recipe = .ok plan) (input : Dish)
    (listening : Bool) :
    (∀ result, builtIn.Bakes recipe input (.straight listening) result →
      result.Kept recipe.placeWithoutIdle recipe.steps.length) ∧
    ∀ result', builtIn.Bakes recipe.withoutIdle input (.straight listening) result' ↔
      ∃ result, builtIn.Bakes recipe input (.straight listening) result ∧
        result' = result.moved recipe.placeWithoutIdle := by
  have hsub : ∀ recipeStep ∈ recipe.withoutIdle.steps, recipeStep ∈ recipe.steps :=
    fun _ hmem => (List.mem_filter.mp hmem).1
  obtain ⟨plan', h'⟩ : ∃ plan', builtIn.prepare recipe.withoutIdle = .ok plan' :=
    exists_prepare_of_subset h rfl hsub
  obtain ⟨_, hr, ho, hsteps⟩ := prepare_eq_ok h
  obtain ⟨_, hr', ho', hsteps'⟩ := prepare_eq_ok h'
  have hlength := length_prepareSteps hsteps
  have hcontrol (plan : Plan) : (plan.control (.straight listening)).Unhindered := by
    unfold Plan.control
    split <;> exact ⟨rfl, rfl⟩
  have hstart : recipe.placeWithoutIdle 0 = 0 := rfl
  have hstop : plan'.steps.length = recipe.placeWithoutIdle plan.steps.length := by
    rw [hlength, length_prepareSteps hsteps', placeWithoutIdle_length]
  have ha : Aligned 0 plan.steps.length recipe.placeWithoutIdle
      (plan.initial input (.straight listening)) (plan'.initial input (.straight listening)) := by
    refine ⟨Nat.le_refl _, Nat.zero_le _, Nat.min_le_right _ _, Nat.le_refl _, ?_, rfl, hstop, rfl,
      rfl, rfl⟩
    change min 0 _ = recipe.placeWithoutIdle (min 0 _)
    rw [Nat.zero_min, Nat.zero_min, hstart]
  have T := thinning_withoutIdle h h'
  have hrunning := ha.inPhase .running .running
  refine ⟨fun result hbakes => ?_, fun result' => ?_⟩
  · have hresults := (bakes_iff h).mp hbakes
    rw [← hlength]
    exact hresults.kept T hr hr' (hcontrol plan) hrunning rfl
  · rw [bakes_iff h']
    simp only [bakes_iff h]
    exact Plan.yields_iff_of_aligned T hr hr' (ho'.trans ho.symm) (hcontrol plan) (hcontrol plan')
      hrunning _ _ [] []

end Bakes

/-- A label, a remark and a disabled jump back to the label. -/
def Recipe.remarked : Recipe :=
  ⟨1, [⟨"Label", [.text "a"], false, false⟩, ⟨"Comment", [.text "again?"], false, false⟩,
    ⟨"Jump", [.text "a"], true, false⟩], .default⟩

theorem Registry.bakes_withoutIdle_remarked :
    builtIn.Bakes Recipe.remarked (.string "ab") (.straight false)
        (.ok ⟨.string "ab", .completed, 3, .empty, 0⟩) ∧
      Result.Kept Recipe.remarked.placeWithoutIdle 3 (.ok ⟨.string "ab", .completed, 3, .empty, 0⟩) ∧
      builtIn.Bakes Recipe.remarked.withoutIdle (.string "ab") (.straight false)
        (.ok ⟨.string "ab", .completed, 1, .empty, 0⟩) := by
  have hbakes : builtIn.Bakes Recipe.remarked (.string "ab") (.straight false)
      (.ok ⟨.string "ab", .completed, 3, .empty, 0⟩) := ⟨4, _, rfl, rfl⟩
  obtain ⟨plan, hp⟩ : ∃ plan, builtIn.prepare .remarked = .ok plan := ⟨_, rfl⟩
  obtain ⟨hkept, hiff⟩ := bakes_withoutIdle_iff hp (.string "ab") false
  exact ⟨hbakes, hkept _ hbakes, (hiff _).mpr ⟨_, hbakes, rfl⟩⟩

end Kitchen
