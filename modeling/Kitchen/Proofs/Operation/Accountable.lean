import Kitchen.Operation.Specimen
import Kitchen.Proofs.Operation.Watchful

/-!
# Accountable operations

Operations that answer for their own faults only: the body that a step runs dispatches nothing, and
it does not pass a fault off as that of a branch. It may crash. The built-in operations are of this
kind, and so is whatever a step runs whose name is unknown.
-/

namespace Kitchen

/-- The body of the operation dispatches nothing, and its faults are its own. -/
structure Operation.Accountable (operation : Operation) : Prop where
  quiet : operation.descriptor.flowControl = false → ∀ context args dish log,
    Log.Quiet log (operation.transform context args dish log).2
  transform_isOwn : operation.descriptor.flowControl = false → ∀ {context args dish log fault},
    (operation.transform context args dish log).1 = .error (.fault fault) → fault.IsOwn
  flow_isOwn : operation.descriptor.flowControl = true → ∀ {action}, operation.flow = .act action →
    ∀ steps args state, OwnFaults (action steps args state)

namespace Operation

variable {operation : Operation}

theorem Steady.accountable (h : operation.Steady) (hw : operation.Watchful)
    (hf : operation.descriptor.flowControl = false) : operation.Accountable where
  quiet _ := hw.quiet
  transform_isOwn _ := h.isOwn
  flow_isOwn hflow := by simp [hf] at hflow

theorem accountable_of_mem (h : operation ∈ builtInOperations) : operation.Accountable := by
  rcases mem_builtIn_functional h with hflow | ⟨hf, hfunction | rfl⟩
  · obtain ⟨hf, hbody⟩ := Flow.mem_operations_cases hflow
    refine ⟨fun h => by simp [hf] at h, fun h => by simp [hf] at h, ?_⟩
    intro _ action ha steps args state
    rcases hbody with rfl | ⟨other, hother, haction⟩
    · simp [Flow.fork, ofFlow] at ha
    · obtain rfl := FlowBody.act.inj (hother.symm.trans ha)
      exact (haction.plainFaults steps args state).own
  · exact hfunction.steady.accountable hfunction.watchful hf
  · exact steady_sleep.accountable watchful_sleep hf

/-- An operation that gives no dish is accountable, whether it faults or crashes. -/
theorem accountable_failing (name : String) {halt : Halt}
    (h : ∀ fault, halt = .fault fault → fault.IsOwn) :
    (Specimen.failing name halt).Accountable where
  quiet _ _ _ _ log := .refl log
  transform_isOwn := by
    intro _ context args dish log fault hf
    exact h fault (Except.error.inj hf)
  flow_isOwn hflow := by simp [Specimen.failing, Specimen.transformation, ofTransform,
    Descriptor.plain] at hflow

end Operation

namespace Registry

/-- All operations of the registry are accountable. -/
def Accountable (registry : Registry) : Prop :=
  ∀ operation ∈ registry.operations, operation.Accountable

variable {registry : Registry}

theorem accountable_builtIn : builtIn.Accountable := by
  intro operation h
  rcases mem_registerAll h with h | h
  · simp [empty] at h
  · exact Operation.accountable_of_mem h

theorem Accountable.registerAll (h : registry.Accountable) {operations : List Operation}
    (ho : ∀ operation ∈ operations, operation.Accountable) :
    (registry.registerAll operations).Accountable := by
  intro operation hmem
  rcases mem_registerAll hmem with hmem | hmem
  · exact h operation hmem
  · exact ho operation hmem

/-- What a step runs is accountable, also where its name is unknown. -/
theorem Accountable.operation (h : registry.Accountable) (name : String) :
    (registry.operation name).Accountable := by
  unfold Registry.operation
  cases hfound : registry.get? name with
  | none => exact (steady_bodiless name).accountable (functional_bodiless name).watchful rfl
  | some found => exact h found (List.mem_of_find?_eq_some hfound)

end Registry
end Kitchen
