import Kitchen.Bake.Plan
import Kitchen.Operation.BuiltIn

/-!
# Looking up operations

A registry gives back the operation that was registered last under a name. The built-in registry
therefore holds exactly the built-in operations, each under its own name.
-/

namespace Kitchen

namespace Registry

private theorem mem_insertByName {operation other : Operation} {operations : List Operation}
    (h : other ∈ insertByName operation operations) : other = operation ∨ other ∈ operations := by
  induction operations with
  | nil => simpa [insertByName] using h
  | cons first rest ih =>
    simp only [insertByName] at h
    split at h
    · rcases List.mem_cons.mp h with h | h
      · exact .inl h
      · exact .inr (List.mem_cons_of_mem _ h)
    · split at h
      · exact List.mem_cons.mp h
      · rcases List.mem_cons.mp h with h | h
        · exact .inr (by simp [h])
        · exact (ih h).imp id (List.mem_cons_of_mem _)

theorem mem_registerAll {registry : Registry} {operations : List Operation} {operation : Operation}
    (h : operation ∈ (registry.registerAll operations).operations) :
    operation ∈ registry.operations ∨ operation ∈ operations := by
  induction operations generalizing registry with
  | nil => exact .inl h
  | cons first rest ih =>
    rcases @ih (registry.register first) h with h | h
    · rcases mem_insertByName h with rfl | h
      · exact .inr (by simp)
      · exact .inl h
    · exact .inr (List.mem_cons_of_mem _ h)

private theorem find?_insertByName (operation : Operation) (operations : List Operation)
    (name : String) :
    (insertByName operation operations).find? (fun other => other.name == name) =
      if operation.name = name then some operation
      else operations.find? (fun other => other.name == name) := by
  induction operations with
  | nil => by_cases hname : operation.name = name <;> simp [insertByName, hname]
  | cons first rest ih =>
    simp only [insertByName]
    by_cases hsame : operation.name = first.name
    · by_cases hname : operation.name = name
      · simp [hsame, ← hname]
      · have hfirst : ¬ first.name = name := fun h => hname (hsame.trans h)
        simp [hsame, hfirst]
    · rw [if_neg hsame]
      split
      · by_cases hname : operation.name = name <;> simp [hname]
      · by_cases hname : operation.name = name
        · have hfirst : ¬ first.name = name := fun h => hsame (hname.trans h.symm)
          simp [ih, hname, hfirst]
        · by_cases hfirst : first.name = name <;> simp [ih, hname, hfirst]

/-- A registered operation takes the place of the one that had its name. -/
theorem get?_register (registry : Registry) (operation : Operation) (name : String) :
    (registry.register operation).get? name =
      if operation.name = name then some operation else registry.get? name :=
  find?_insertByName operation registry.operations name

/-- A built-in name stands for a built-in operation of that name; any other name has no body. -/
theorem operation_builtIn (name : String) :
    (builtIn.operation name ∈ builtInOperations ∧ (builtIn.operation name).name = name) ∨
      builtIn.operation name = bodiless name := by
  unfold operation
  cases h : builtIn.get? name with
  | none => exact .inr rfl
  | some found =>
    left
    have hmem : found ∈ builtIn.operations := List.mem_of_find?_eq_some h
    have hname : found.name = name := by simpa using List.find?_some h
    refine ⟨?_, hname⟩
    rcases mem_registerAll hmem with hmem | hmem
    · simp [empty] at hmem
    · exact hmem

/-- Built-in operations are told apart by their names. -/
theorem builtInOperations_names_nodup : (builtInOperations.map Operation.name).Nodup := by
  decide

private theorem get?_registerAll_of_notMem (registry : Registry) (operations : List Operation)
    (name : String) (h : name ∉ operations.map Operation.name) :
    (registry.registerAll operations).get? name = registry.get? name := by
  induction operations generalizing registry with
  | nil => rfl
  | cons first rest ih =>
    simp only [List.map_cons, List.mem_cons, not_or] at h
    change ((registry.register first).registerAll rest).get? name = _
    rw [ih _ h.2, get?_register, if_neg (Ne.symm h.1)]

private theorem get?_registerAll_of_mem (registry : Registry) (operations : List Operation)
    (operation : Operation) (hn : (operations.map Operation.name).Nodup)
    (hm : operation ∈ operations) :
    (registry.registerAll operations).get? operation.name = some operation := by
  induction operations generalizing registry with
  | nil => simp at hm
  | cons first rest ih =>
    rw [List.map_cons, List.nodup_cons] at hn
    change ((registry.register first).registerAll rest).get? operation.name = _
    rcases List.mem_cons.mp hm with rfl | hm
    · rw [get?_registerAll_of_notMem _ _ _ hn.1, get?_register, if_pos rfl]
    · exact ih _ hn.2 hm

/-- The name of a built-in operation stands for it. -/
theorem operation_builtIn_name {operation : Operation} (h : operation ∈ builtInOperations) :
    builtIn.operation operation.name = operation := by
  unfold Registry.operation builtIn
  rw [get?_registerAll_of_mem _ _ _ builtInOperations_names_nodup h]
  rfl

end Registry

/-- A step that bears the name of a built-in operation runs that operation. -/
theorem Plan.operation_eq {plan : Plan} (hr : plan.registry = .builtIn) {step : Step}
    {operation : Operation} (h : operation ∈ builtInOperations)
    (hs : step.operation = operation.name) : plan.registry.operation step.operation = operation := by
  rw [hr, hs]
  exact Registry.operation_builtIn_name h

end Kitchen
