import Kitchen.Proofs.Argument.Binding
import Kitchen.Proofs.Recipe.Preparation
import Kitchen.Proofs.Registry.Lookup
import Kitchen.Proofs.Run.Thinning
import Kitchen.Proofs.Validation.Wording

/-!
# Labels

The warnings about labels tell what a bake finds: a jump is said to miss its label if the search for
the bound name finds none, and a label is said to repeat the step that the search finds instead of
it. Validation reads the arguments as they are written, though, and a bake as they are bound: names
that are written as numbers or truth values are read differently.
-/

namespace Kitchen

/-! ## Labels as they are written -/

theorem mem_validateTarget {labels : List String} {index : Nat} {step : RecipeStep}
    {text : String} :
    text ∈ (validateTarget labels index step).warnings ↔
      ∃ name, step.target? = some name ∧ contains name "$R" = false ∧ name ∉ labels ∧
        text = missingLabel index step.operation name := by
  unfold validateTarget
  cases step.target? with
  | none => simp
  | some name =>
    dsimp only
    split
    · rename_i hquiet
      simp only [ValidationReport.warnings_empty, List.not_mem_nil, Option.some.injEq, false_iff]
      rintro ⟨_, rfl, hregister, hmissing, _⟩
      simp [hregister, hmissing] at hquiet
    · rename_i hloud
      simp only [Bool.or_eq_true, List.contains_iff_mem, not_or, Bool.not_eq_true] at hloud
      simp only [ValidationReport.warnings_warning, List.mem_singleton, Option.some.injEq]
      constructor
      · rintro rfl
        exact ⟨name, rfl, hloud.1, hloud.2, rfl⟩
      · rintro ⟨_, rfl, _, _, rfl⟩
        rfl

/-- The first step that marks a label of the name. -/
def firstLabel? (steps : List RecipeStep) (name : String) : Option Nat :=
  steps.findIdx? (·.label? == some name)

theorem firstLabel?_append (before after : List RecipeStep) (name : String) :
    firstLabel? (before ++ after) name =
      (firstLabel? before name).or ((firstLabel? after name).map (· + before.length)) :=
  List.findIdx?_append

theorem firstLabel?_concat (before : List RecipeStep) (step : RecipeStep) (name : String) :
    firstLabel? (before ++ [step]) name =
      (firstLabel? before name).or (if step.label? = some name then some before.length else none) := by
  rw [firstLabel?_append]
  by_cases hname : step.label? = some name <;> simp [firstLabel?, List.findIdx?_cons, hname]

theorem firstLabel?_eq_none {steps : List RecipeStep} {name : String} :
    firstLabel? steps name = none ↔ name ∉ steps.filterMap RecipeStep.label? := by
  simp [firstLabel?, List.findIdx?_eq_none_iff]

theorem lt_length_of_firstLabel? {steps : List RecipeStep} {name : String} {first : Nat}
    (h : firstLabel? steps name = some first) : first < steps.length := by
  obtain ⟨hlt, _⟩ := List.findIdx?_eq_some_iff_getElem.mp h
  exact hlt

/-- The step at an index marks a label that an earlier step has marked first. -/
def RepeatsLabel (steps : List RecipeStep) (i : Nat) (text : String) : Prop :=
  ∃ step name first, steps[i]? = some step ∧ step.label? = some name ∧
    firstLabel? steps name = some first ∧ first < i ∧ text = repeatedLabel name i first

/-- Whether a step repeats a label is decided by the steps before it. -/
theorem repeatsLabel_length {before rest : List RecipeStep} {step : RecipeStep} {text : String} :
    RepeatsLabel (before ++ step :: rest) before.length text ↔
      ∃ name first, step.label? = some name ∧ firstLabel? before name = some first ∧
        text = repeatedLabel name before.length first := by
  have hget : (before ++ step :: rest)[before.length]? = some step := by simp
  constructor
  · rintro ⟨step', name, first, hstep, hname, hfirst, hlt, htext⟩
    obtain rfl := Option.some.inj (hget.symm.trans hstep)
    refine ⟨name, first, hname, ?_, htext⟩
    rw [firstLabel?_append] at hfirst
    cases hbefore : firstLabel? before name with
    | some found => rwa [hbefore, Option.some_or] at hfirst
    | none =>
      rw [hbefore, Option.none_or, Option.map_eq_some_iff] at hfirst
      obtain ⟨found, _, rfl⟩ := hfirst
      omega
  · rintro ⟨name, first, hname, hfirst, htext⟩
    refine ⟨step, name, first, hget, hname, ?_, lt_length_of_firstLabel? hfirst, htext⟩
    rw [firstLabel?_append, hfirst, Option.some_or]

private theorem exists_le_iff {p : Nat → Prop} (n : Nat) :
    (∃ i, n ≤ i ∧ p i) ↔ p n ∨ ∃ i, n + 1 ≤ i ∧ p i := by
  constructor
  · rintro ⟨i, hi, hp⟩
    rcases Nat.eq_or_lt_of_le hi with rfl | hlt
    · exact .inl hp
    · exact .inr ⟨i, hlt, hp⟩
  · rintro (hp | ⟨i, hi, hp⟩)
    · exact ⟨n, Nat.le_refl n, hp⟩
    · exact ⟨i, Nat.le_of_succ_le hi, hp⟩

/-- Behind some steps, whose labels are known with the first place of each, the labels are found
that repeat an earlier one. -/
theorem mem_validateLabels {before rest : List RecipeStep} {known : List (String × Nat)}
    (hknown : ∀ name, known.lookup name = firstLabel? before name) {text : String} :
    text ∈ (validateLabels before.length known rest).warnings ↔
      ∃ i, before.length ≤ i ∧ RepeatsLabel (before ++ rest) i text := by
  induction rest generalizing before known with
  | nil =>
    simp only [validateLabels, ValidationReport.warnings_empty, List.not_mem_nil, false_iff]
    rintro ⟨i, hi, step, _, _, hstep, _⟩
    simp [List.getElem?_eq_none hi] at hstep
  | cons step rest ih =>
    -- Behind the step its own label is known, too, unless it repeats one.
    have hrest (known' : List (String × Nat))
        (hknown' : ∀ name, known'.lookup name = (known.lookup name).or
          (if step.label? = some name then some before.length else none)) :
        text ∈ (validateLabels (before.length + 1) known' rest).warnings ↔
          ∃ i, before.length + 1 ≤ i ∧ RepeatsLabel (before ++ step :: rest) i text := by
      have hlength : (before ++ [step]).length = before.length + 1 := by simp
      have happend : before ++ [step] ++ rest = before ++ step :: rest := by simp
      rw [← hlength, ← happend]
      refine ih fun name => ?_
      rw [hknown', hknown, firstLabel?_concat]
    rw [exists_le_iff, repeatsLabel_length, validateLabels]
    cases hname : step.label? with
    | none =>
      rw [← hrest known fun name => by simp [hname]]
      simp
    | some name =>
      dsimp only
      cases hfirst : known.lookup name with
      | none =>
        have hnew : firstLabel? before name = none := (hknown name).symm.trans hfirst
        rw [← hrest ((name, before.length) :: known) fun other => ?_]
        · simp [hnew]
        · by_cases hother : other = name
          · subst hother
            simp [hfirst, hname]
          · have hbeq : (other == name) = false := beq_eq_false_iff_ne.mpr hother
            simp [List.lookup_cons, hname, hbeq, Ne.symm hother]
      | some first =>
        have hold : firstLabel? before name = some first := (hknown name).symm.trans hfirst
        rw [← hrest known fun other => ?_]
        · simp [hold, repeatedLabel]
        · by_cases hother : other = name
          · subst hother
            simp [hfirst]
          · simp [hname, Ne.symm hother]

theorem mem_validateLabels_nil {steps : List RecipeStep} {text : String} :
    text ∈ (validateLabels 0 [] steps).warnings ↔ ∃ i, RepeatsLabel steps i text := by
  have h := @mem_validateLabels [] steps [] (fun _ => rfl) text
  simpa using h

/-- A warning is about a label that is repeated, about one that is missing, or about no label. -/
theorem mem_warnings_cases {registry : Registry} {recipe : Recipe} {text : String}
    (h : text ∈ (registry.validate recipe).warnings) :
    (∃ i, RepeatsLabel recipe.steps i text) ∨
      (∃ i step name, recipe.steps[i]? = some step ∧ step.target? = some name ∧
        contains name "$R" = false ∧ firstLabel? recipe.steps name = none ∧
        text = missingLabel i step.operation name) ∨
      initial? text ≠ some 'L' ∧ initial? text ≠ some 'S' := by
  rcases Registry.mem_warnings_validate.mp h with h | ⟨_, _, _, h⟩ | h | ⟨i, step, hi, h⟩ | h
  · exact .inr (.inr (by simp [initial?_validateLength h]))
  · exact .inr (.inr (by simp [initial?_validateStep h]))
  · exact .inl (mem_validateLabels_nil.mp h)
  · obtain ⟨name, htarget, hregister, hmissing, htext⟩ := mem_validateTarget.mp h
    have hnone := firstLabel?_eq_none.mpr hmissing
    exact .inr (.inl ⟨i, step, name, hi, htarget, hregister, hnone, htext⟩)
  · rcases initial?_validateForks h with hfork | hmerge
    · exact .inr (.inr (by simp [hfork]))
    · exact .inr (.inr (by simp [hmerge]))

/-- A step is said to miss a label exactly where it names one that no step marks. -/
theorem missingLabel_mem {registry : Registry} {recipe : Recipe} {i : Nat} {step : RecipeStep}
    (hi : recipe.steps[i]? = some step) (name : String) :
    missingLabel i step.operation name ∈ (registry.validate recipe).warnings ↔
      step.target? = some name ∧ contains name "$R" = false ∧
        firstLabel? recipe.steps name = none := by
  have hinitial := initial?_missingLabel i step.operation name
  constructor
  · intro h
    rcases mem_warnings_cases h with ⟨_, _, _, _, _, _, _, _, htext⟩ |
      ⟨j, other, target, hj, htarget, hregister, hmissing, htext⟩ | ⟨_, hother⟩
    · simp [htext, initial?_repeatedLabel] at hinitial
    · obtain ⟨rfl, hname⟩ := missingLabel_inj htext
      obtain rfl := Option.some.inj (hi.symm.trans hj)
      obtain rfl := hname rfl
      exact ⟨htarget, hregister, hmissing⟩
    · exact absurd hinitial hother
  · rintro ⟨htarget, hregister, hmissing⟩
    refine Registry.mem_warnings_validate.mpr (.inr (.inr (.inr (.inl ⟨i, step, hi, ?_⟩))))
    exact mem_validateTarget.mpr ⟨name, htarget, hregister, firstLabel?_eq_none.mp hmissing, rfl⟩

/-- A label is said to repeat a step exactly where that step is the first to mark it. -/
theorem repeatedLabel_mem {registry : Registry} {recipe : Recipe} {i : Nat} {step : RecipeStep}
    (hi : recipe.steps[i]? = some step) (name : String) (first : Nat) :
    repeatedLabel name i first ∈ (registry.validate recipe).warnings ↔
      step.label? = some name ∧ firstLabel? recipe.steps name = some first ∧ first < i := by
  have hinitial := initial?_repeatedLabel name i first
  constructor
  · intro h
    rcases mem_warnings_cases h with ⟨j, other, label, found, hj, hlabel, hfound, hlt, htext⟩ |
      ⟨_, _, _, _, _, _, _, htext⟩ | ⟨hother, _⟩
    · obtain ⟨rfl, rfl, rfl⟩ := repeatedLabel_inj htext
      obtain rfl := Option.some.inj (hi.symm.trans hj)
      exact ⟨hlabel, hfound, hlt⟩
    · simp [htext, initial?_missingLabel] at hinitial
    · exact absurd hinitial hother
  · rintro ⟨hlabel, hfirst, hlt⟩
    refine Registry.mem_warnings_validate.mpr (.inr (.inr (.inl ?_)))
    exact mem_validateLabels_nil.mpr ⟨i, step, name, first, hi, hlabel, hfirst, hlt, rfl⟩

/-! ## Labels as they are bound -/

/-- Where a step names the label that it marks or jumps to. -/
def namePosition? (operation : String) : Option Nat :=
  if operation = labelName then some 0 else Flow.labelPosition? operation

theorem namePosition?_of_labelPosition? {operation : String} {position : Nat}
    (h : Flow.labelPosition? operation = some position) :
    namePosition? operation = some position := by
  have hne : operation ≠ labelName := by
    rintro rfl
    have hnone : Flow.labelPosition? labelName = none := by decide
    simp [hnone] at h
  rw [namePosition?, if_neg hne, h]

/-- The target of an enabled jump is the name at its place. -/
theorem RecipeStep.target?_of_enabled {step : RecipeStep} (h : step.disabled = false) :
    step.target? = (Flow.labelPosition? step.operation).map (textAt step.args) := by
  unfold target? Flow.labelPosition?
  rw [h, if_neg Bool.false_ne_true]
  split
  · rfl
  · split <;> rfl

/-- What stands at the position, if anything, is written as text. -/
def RecipeStep.writesText (step : RecipeStep) (position : Nat) : Bool :=
  (step.args[position]?).all (·.asText?.isSome)

/-- A name that is written as text, or left out, is bound as it is read. -/
private theorem bind_string {title : String} {value : Option Argument} {arg : Argument}
    (hw : value.all (·.asText?.isSome) = true)
    (h : (Parameter.string title "").bind value = .ok arg) :
    arg = .text ((value.bind Argument.asText?).getD "") := by
  cases value with
  | none => exact (Except.ok.inj h).symm
  | some written =>
    obtain rfl := Except.ok.inj h
    cases written with
    | text s => rfl
    | toggle s option => rfl
    | bool b => simp [Argument.asText?] at hw
    | number x => simp [Argument.asText?] at hw

namespace Registry

/-- Where a built-in step names a label, it takes a text that is empty by default. -/
theorem parameter_of_namePosition? {name : String} {position : Nat}
    (h : namePosition? name = some position) {operation : Operation}
    (hop : builtIn.resolve name = .ok operation) :
    ∃ title, operation.descriptor.parameters[position]? = some (.string title "") := by
  have hfound : builtIn.operation name = operation := by
    unfold resolve at hop
    unfold Registry.operation
    cases hget : builtIn.get? name with
    | none => simp [hget] at hop
    | some found =>
      rw [hget] at hop
      exact Except.ok.inj hop
  have hknown (known : Operation) (hmem : known ∈ builtInOperations) (hname : name = known.name) :
      operation = known := by
    rw [← hfound, hname, operation_builtIn_name hmem]
  unfold namePosition? Flow.labelPosition? at h
  split at h
  · rename_i hlabel
    obtain rfl := Option.some.inj h
    obtain rfl := hknown Flow.label (by simp [builtInOperations, Flow.operations]) hlabel
    exact ⟨_, rfl⟩
  · split at h
    · rename_i hjump
      obtain rfl := Option.some.inj h
      obtain rfl := hknown Flow.jump (by simp [builtInOperations, Flow.operations]) hjump
      exact ⟨_, rfl⟩
    · split at h
      · rename_i hjump
        obtain rfl := Option.some.inj h
        obtain rfl := hknown Flow.conditionalJump (by simp [builtInOperations, Flow.operations]) hjump
        exact ⟨_, rfl⟩
      · simp at h

/-- The bound name of a label is the written one. -/
theorem bound_name {i position : Nat} {recipeStep : RecipeStep} {step : Step}
    (h : builtIn.prepareStep i recipeStep = .ok step)
    (hposition : namePosition? recipeStep.operation = some position)
    (hw : recipeStep.writesText position = true) :
    step.args[position]? = some (.text (textAt recipeStep.args position)) := by
  obtain ⟨operation, args, hop, hargs, rfl⟩ := prepareStep_eq_ok.mp h
  obtain ⟨title, hparameter⟩ := parameter_of_namePosition? hposition hop
  obtain ⟨-, hbound⟩ := Descriptor.bind_eq_ok_iff.mp hargs
  obtain ⟨arg, harg, hbind⟩ := Parameter.getElem?_bindAll hbound hparameter
  rw [harg, bind_string hw hbind]
  rfl

theorem textAt_bound {i position : Nat} {recipeStep : RecipeStep} {step : Step}
    (h : builtIn.prepareStep i recipeStep = .ok step)
    (hposition : namePosition? recipeStep.operation = some position)
    (hw : recipeStep.writesText position = true) :
    textAt step.args position = textAt recipeStep.args position := by
  have hbound := bound_name h hposition hw
  rw [textAt, hbound]
  rfl

/-- A step is the label of a name if it is written as one. -/
theorem isLabel_eq {i : Nat} {recipeStep : RecipeStep} {step : Step}
    (h : builtIn.prepareStep i recipeStep = .ok step)
    (hw : recipeStep.label?.isSome = true → recipeStep.writesText 0 = true) (name : String) :
    step.isLabel name = (recipeStep.label? == some name) := by
  have hstep : step.disabled = recipeStep.disabled ∧ step.operation = recipeStep.operation := by
    obtain ⟨_, _, _, _, rfl⟩ := prepareStep_eq_ok.mp h
    exact ⟨rfl, rfl⟩
  unfold Step.isLabel
  rw [hstep.1, hstep.2]
  cases hmarks : !recipeStep.disabled && recipeStep.operation == labelName with
  | false => simp [RecipeStep.label?, hmarks]
  | true =>
    have hlabel : recipeStep.label? = some (textAt recipeStep.args 0) := by
      simp [RecipeStep.label?, hmarks]
    have hname : recipeStep.operation = labelName := by simp at hmarks; exact hmarks.2
    have hbound := bound_name h (by rw [namePosition?, if_pos hname]) (hw (by simp [hlabel]))
    rw [List.head?_eq_getElem?, hbound, hlabel]
    rfl

end Registry

/-- A search through all steps. -/
theorem findStep?_eq_findIdx? (steps : List Step) (test : Step → Bool) :
    findStep? steps test 0 steps.length = steps.findIdx? test := by
  cases hfind : findStep? steps test 0 steps.length with
  | none =>
    refine (List.findIdx?_eq_none_iff.mpr fun step hmem => ?_).symm
    obtain ⟨i, hi⟩ := List.mem_iff_getElem?.mp hmem
    obtain ⟨hlt, _⟩ := List.getElem?_eq_some_iff.mp hi
    exact findStep?_eq_none.mp hfind i step (Nat.zero_le i) hlt hi
  | some i =>
    obtain ⟨_, hlt, step, hstep, htest⟩ := findStep?_eq_some hfind
    have hget : steps[i] = step := (List.getElem?_eq_some_iff.mp hstep).2
    refine (List.findIdx?_eq_some_iff_getElem.mpr ⟨hlt, hget ▸ htest, fun j hj => ?_⟩).symm
    have hearlier := findStep?_before hfind (Nat.zero_le j) hj (List.getElem?_eq_getElem (by omega))
    simp [hearlier]

/-- The search of a bake for a label finds the first one that is written. -/
theorem findLabel?_eq {recipe : Recipe} {plan : Plan}
    (hp : Registry.builtIn.prepare recipe = .ok plan)
    (hlabels : ∀ step ∈ recipe.steps, step.label?.isSome = true → step.writesText 0 = true)
    (dish : Dish) (name : String) :
    (State.start plan.steps.length dish).findLabel? plan.steps name =
      firstLabel? recipe.steps name := by
  obtain ⟨_, _, _, hsteps⟩ := Registry.prepare_eq_ok hp
  have hlength := Registry.length_prepareSteps hsteps
  have htests : plan.steps.map (·.isLabel name) =
      recipe.steps.map (·.label? == some name) := by
    refine List.ext_getElem? fun i => ?_
    rw [List.getElem?_map, List.getElem?_map]
    cases hi : recipe.steps[i]? with
    | none =>
      rw [List.getElem?_eq_none_iff, ← hlength, ← List.getElem?_eq_none_iff] at hi
      rw [hi]
      rfl
    | some recipeStep =>
      obtain ⟨step, hstep, hprepare⟩ := Registry.getElem?_prepareSteps hsteps hi
      have hmem := List.mem_of_getElem? hi
      rw [hstep, Option.map_some, Option.map_some,
        Registry.isLabel_eq hprepare (hlabels _ hmem) name]
  change findStep? plan.steps (·.isLabel name) 0 plan.steps.length = _
  have hidx := congrArg (List.findIdx? id) htests
  rw [List.findIdx?_map, List.findIdx?_map] at hidx
  exact (findStep?_eq_findIdx? _ _).trans hidx

/-! ## Warnings about labels -/

/-- The warnings about labels tell the truth, as long as the names of labels are written as text: a
jump is said to miss its label where the search for the bound name finds none, and a label is said to
repeat the earlier step which that search finds. -/
theorem label_warnings {recipe : Recipe} {plan : Plan}
    (hp : Registry.builtIn.prepare recipe = .ok plan) (dish : Dish)
    (hlabels : ∀ step ∈ recipe.steps, step.label?.isSome = true → step.writesText 0 = true) {i : Nat}
    {recipeStep : RecipeStep} {step : Step} (hwritten : recipe.steps[i]? = some recipeStep)
    (hbound : plan.steps[i]? = some step) (henabled : step.disabled = false) :
    (∀ position, Flow.labelPosition? step.operation = some position →
      recipeStep.writesText position = true → contains (textAt step.args position) "$R" = false →
      ∀ name, missingLabel i step.operation name ∈ (Registry.builtIn.validate recipe).warnings ↔
        name = textAt step.args position ∧
          (State.start plan.steps.length dish).findLabel? plan.steps name = none) ∧
    (step.operation = labelName → ∀ name first,
      repeatedLabel name i first ∈ (Registry.builtIn.validate recipe).warnings ↔
        name = textAt step.args 0 ∧
          (State.start plan.steps.length dish).findLabel? plan.steps name = some first ∧
          first < i) := by
  obtain ⟨_, _, _, hsteps⟩ := Registry.prepare_eq_ok hp
  obtain ⟨found, hfound, hprepare⟩ := Registry.getElem?_prepareSteps hsteps hwritten
  obtain rfl := Option.some.inj (hbound.symm.trans hfound)
  have hsame : step.operation = recipeStep.operation ∧ recipeStep.disabled = false := by
    obtain ⟨_, _, _, _, rfl⟩ := Registry.prepareStep_eq_ok.mp hprepare
    exact ⟨rfl, henabled⟩
  rw [hsame.1]
  constructor
  · intro position hposition hw hregister name
    have htarget := recipeStep.target?_of_enabled hsame.2
    rw [hposition, Option.map_some] at htarget
    rw [Registry.textAt_bound hprepare (namePosition?_of_labelPosition? hposition) hw] at hregister ⊢
    rw [missingLabel_mem hwritten, findLabel?_eq hp hlabels, htarget, Option.some.injEq]
    constructor
    · rintro ⟨rfl, _, hmissing⟩
      exact ⟨rfl, hmissing⟩
    · rintro ⟨rfl, hmissing⟩
      exact ⟨rfl, hregister, hmissing⟩
  · intro hlabel name first
    have hposition : namePosition? recipeStep.operation = some 0 := by
      rw [namePosition?, if_pos hlabel]
    have hmarks : recipeStep.label? = some (textAt recipeStep.args 0) := by
      simp [RecipeStep.label?, hsame.2, hlabel]
    have hw := hlabels _ (List.mem_of_getElem? hwritten) (by simp [hmarks])
    rw [Registry.textAt_bound hprepare hposition hw, repeatedLabel_mem hwritten,
      findLabel?_eq hp hlabels, hmarks, Option.some.injEq, eq_comm]

/-- A label that repeats another, and a jump to a label that there is not. -/
def Recipe.strayJump : Recipe :=
  ⟨1, [⟨"Label", [.text "a"], false, false⟩, ⟨"Label", [.text "a"], false, false⟩,
    ⟨"Jump", [.text "b"], false, false⟩], .default⟩

theorem label_warnings_strayJump :
    ∃ plan, Registry.builtIn.prepare .strayJump = .ok plan ∧
      repeatedLabel "a" 1 0 ∈ (Registry.builtIn.validate .strayJump).warnings ∧
      missingLabel 2 "Jump" "b" ∈ (Registry.builtIn.validate .strayJump).warnings := by
  have hp : Registry.builtIn.prepare .strayJump = .ok _ := rfl
  have hlabels : ∀ step ∈ Recipe.strayJump.steps,
      step.label?.isSome = true → step.writesText 0 = true := by decide
  refine ⟨_, hp, ?_, ?_⟩
  · exact ((label_warnings hp (.string "") hlabels (i := 1) rfl rfl rfl).2 rfl _ _).mpr
      ⟨rfl, rfl, by decide⟩
  · exact ((label_warnings hp (.string "") hlabels (i := 2) rfl rfl rfl).1 0 (by decide)
      rfl (by decide +kernel) _).mpr ⟨rfl, rfl⟩

/-- A jump to a label whose name it writes as a number. -/
def Recipe.numberedJump : Recipe :=
  ⟨1, [⟨"Label", [.text "1"], false, false⟩, ⟨"Jump", [.number (.ofNat 1)], false, false⟩], .default⟩

/-- The jump finds its label, but it is said to miss one. -/
theorem not_label_warnings_numberedJump :
    ¬ ∀ recipe plan dish i step position, Registry.builtIn.prepare recipe = .ok plan →
      plan.steps[i]? = some step → step.disabled = false →
      Flow.labelPosition? step.operation = some position →
      contains (textAt step.args position) "$R" = false →
      ((∃ name, missingLabel i step.operation name ∈
          (Registry.builtIn.validate recipe).warnings) ↔
        (State.start plan.steps.length dish).findLabel? plan.steps (textAt step.args position) =
          none) := by
  intro h
  have hp : Registry.builtIn.prepare .numberedJump = .ok _ := rfl
  have hmissing : missingLabel 1 "Jump" "" ∈ (Registry.builtIn.validate .numberedJump).warnings := by
    decide +kernel
  have hnone := (h _ _ (.string "") 1 _ 0 hp rfl rfl (by decide) (by decide +kernel)).mp ⟨"", hmissing⟩
  exact absurd hnone (by decide +kernel)

end Kitchen
