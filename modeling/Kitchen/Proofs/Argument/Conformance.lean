import Kitchen.Proofs.Argument.Schema
import Kitchen.Proofs.Registers.Substitution

/-!
# What is bound conforms

The bounds of a number refuse what is below or above them. The missing number is neither, so that a
text that writes it passes every bound; all else that was bound conforms to its parameter. Substitution
keeps the shape of a value, and changes none of the options of the built-in operations.
-/

namespace Kitchen

namespace Parameter

/-- A number with bounds is expected, and what was supplied reads as the missing number. -/
def Unordered (parameter : Parameter) (value : Option Argument) : Prop :=
  parameter.kind = .number ∧ (parameter.min ≠ none ∨ parameter.max ≠ none) ∧
    value.bind Argument.asNumber? = some .nan

variable {parameter : Parameter} {arg : Argument}

/-! ## Numbers -/

/-- A number that the bounds do not refuse lies within them, unless it is missing. -/
theorem admits_iff_of_not_lt {x y : Binary64} (hdefault : parameter.Admits y)
    (hmin : ∀ min ∈ parameter.min, ¬ x < min) (hmax : ∀ max ∈ parameter.max, ¬ max < x) :
    parameter.Admits x ↔ ¬ ((parameter.min ≠ none ∨ parameter.max ≠ none) ∧ x = .nan) := by
  constructor
  · rintro ⟨hlow, hhigh⟩ ⟨hbounded, rfl⟩
    rcases hbounded with hbound | hbound
    · obtain ⟨min, hsome⟩ := Option.ne_none_iff_exists'.mp hbound
      exact (hlow min hsome).2.1 rfl
    · obtain ⟨max, hsome⟩ := Option.ne_none_iff_exists'.mp hbound
      exact (hhigh max hsome).1 rfl
  · intro hmissing
    refine ⟨fun min hsome => ?_, fun max hsome => ?_⟩
    · have hx : x ≠ .nan := fun h => hmissing ⟨.inl (by rw [hsome]; exact Option.some_ne_none _), h⟩
      exact (Binary64.le_iff_not_lt (hdefault.1 min hsome).1 hx).mpr (hmin min hsome)
    · have hx : x ≠ .nan := fun h => hmissing ⟨.inr (by rw [hsome]; exact Option.some_ne_none _), h⟩
      exact (Binary64.le_iff_not_lt hx (hdefault.2 max hsome).2.1).mpr (hmax max hsome)

/-! ## Values of every kind -/

theorem mem_options_of_matchOption {chosen found : String}
    (h : parameter.matchOption chosen = .ok found) : found ∈ parameter.options :=
  List.mem_of_find?_eq_some (matchOption_eq_ok_iff.mp h)

/-- A supplied value that was bound conforms, unless it is the missing number where there is a bound. -/
theorem conforms_iff_of_binds {value : Argument} (hdefault : parameter.Conforms parameter.default)
    (h : parameter.Binds value arg) :
    parameter.Conforms arg ↔ ¬ parameter.Unordered (some value) := by
  have hother (hkind : parameter.kind ≠ .number) : ¬ parameter.Unordered (some value) :=
    fun hunordered => hkind hunordered.1
  rw [Conforms] at hdefault ⊢
  cases h with
  | text s hkind =>
    refine iff_of_true ?_ (hother ?_)
    · rcases hkind with hkind | hkind <;> rw [hkind] <;> exact ⟨s, rfl⟩
    · rcases hkind with hkind | hkind <;> rw [hkind] <;> decide
  | number x hkind hread hmin hmax =>
    rw [hkind] at hdefault ⊢
    obtain ⟨y, -, hy⟩ := hdefault
    rw [Unordered, Option.bind_some, hread, Option.some.injEq, and_iff_right hkind,
      ← admits_iff_of_not_lt hy hmin hmax]
    simp only [Argument.number.injEq, exists_eq_left']
  | boolean b hkind =>
    refine iff_of_true ?_ (hother (by rw [hkind]; decide))
    rw [hkind]
    exact ⟨b, rfl⟩
  | option chosen found hkind hfound =>
    refine iff_of_true ?_ (hother (by rw [hkind]; decide))
    rw [hkind]
    exact ⟨found, mem_options_of_matchOption hfound, rfl⟩
  | plain s hkind =>
    refine iff_of_true ?_ (hother (by rw [hkind]; decide))
    rw [hkind] at hdefault ⊢
    -- The choice is that of the default, which has one.
    obtain ⟨t, chosen, hshape, -⟩ := hdefault
    rw [hshape]
    exact ⟨s, chosen, rfl, .inr rfl⟩
  | toggle s chosen found hkind hfound =>
    refine iff_of_true ?_ (hother (by rw [hkind]; decide))
    rw [hkind]
    exact ⟨s, found, rfl, .inl (mem_options_of_matchOption hfound)⟩

theorem conforms_iff_of_bind {value : Option Argument}
    (hdefault : parameter.Conforms parameter.default) (h : parameter.bind value = .ok arg) :
    parameter.Conforms arg ↔ ¬ parameter.Unordered value := by
  cases value with
  | none =>
    cases h
    refine ⟨fun _ hunordered => ?_, fun _ => hdefault⟩
    cases hunordered.2.2
  | some value => exact conforms_iff_of_binds hdefault (binds_of_bindValue h)

/-! ## Substitution -/

/-- Substitution keeps the shape of a value, and a choice where no option has a placeholder. -/
theorem conforms_substituteArgument (registers : Registers)
    (hoptions : parameter.kind = .option → ∀ o ∈ parameter.options, registers.substitute o = o)
    (h : parameter.Conforms arg) : parameter.Conforms (registers.substituteArgument arg) := by
  rw [Conforms] at h ⊢
  cases hkind : parameter.kind with
  | string =>
    rw [hkind] at h
    obtain ⟨s, rfl⟩ := h
    exact ⟨_, rfl⟩
  | text =>
    rw [hkind] at h
    obtain ⟨s, rfl⟩ := h
    exact ⟨_, rfl⟩
  | number =>
    rw [hkind] at h
    obtain ⟨x, rfl, hx⟩ := h
    exact ⟨x, rfl, hx⟩
  | boolean =>
    rw [hkind] at h
    obtain ⟨b, rfl⟩ := h
    exact ⟨b, rfl⟩
  | option =>
    rw [hkind] at h
    obtain ⟨chosen, hmem, rfl⟩ := h
    exact ⟨chosen, hmem, congrArg Argument.text (hoptions hkind chosen hmem)⟩
  | toggleString =>
    rw [hkind] at h
    obtain ⟨s, chosen, rfl, hchosen⟩ := h
    exact ⟨_, chosen, rfl, hchosen⟩

end Parameter

theorem builtIn_options_unmarked : ∀ operation ∈ builtInOperations,
    ∀ parameter ∈ operation.descriptor.parameters, ∀ o ∈ parameter.options, '$' ∉ o.toList := by
  decide +kernel

/-- No option of a built-in operation has a placeholder. -/
theorem substitute_builtIn_option (registers : Registers) {operation : Operation}
    (hoperation : operation ∈ builtInOperations) {parameter : Parameter}
    (hparameter : parameter ∈ operation.descriptor.parameters) {o : String}
    (ho : o ∈ parameter.options) : registers.substitute o = o := by
  refine Registers.substitute_eq_self registers fun hwithin => ?_
  exact builtIn_options_unmarked operation hoperation parameter hparameter o ho
    (hwithin.subset List.mem_cons_self)

/-- Registers have no influence on a choice among the options of a built-in operation. -/
theorem Registers.textAt_substituteArguments (registers : Registers) {operation : Operation}
    (hoperation : operation ∈ builtInOperations) {values args : List Argument}
    (h : operation.descriptor.bind values = .ok args) {n : Nat} {parameter : Parameter}
    (hn : operation.descriptor.parameters[n]? = some parameter) (hkind : parameter.kind = .option) :
    textAt (registers.substituteArguments args) n = textAt args n := by
  have hparameter : parameter ∈ operation.descriptor.parameters := List.mem_of_getElem? hn
  obtain ⟨arg, harg, hbind⟩ := Parameter.getElem?_bindAll (Descriptor.bind_eq_ok_iff.mp h).2 hn
  have hdefault := (builtIn_parameters_regular operation hoperation parameter hparameter).default_conforms
  have hconforms : parameter.Conforms arg := by
    rw [Parameter.conforms_iff_of_bind hdefault hbind]
    intro hunordered
    have hnumber := hunordered.1
    rw [hkind] at hnumber
    cases hnumber
  rw [Parameter.Conforms, hkind] at hconforms
  obtain ⟨chosen, hmem, rfl⟩ := hconforms
  rw [textAt, textAt, substituteArguments, List.getElem?_map, harg, Option.map_some, substituteArgument,
    substitute_builtIn_option registers hoperation hparameter hmem]

/-- A bound list has a value for each parameter, which conforms unless a number with bounds was
supplied as the missing number. Substitution into the arguments of the built-in operations keeps what
conforms. -/
theorem Descriptor.bind_conforms {descriptor : Descriptor} {values args : List Argument}
    (hdefaults : ∀ parameter ∈ descriptor.parameters, parameter.Conforms parameter.default)
    (h : descriptor.bind values = .ok args) :
    (args.length = descriptor.parameters.length ∧
      ∀ (n : Nat) (parameter : Parameter), descriptor.parameters[n]? = some parameter →
        ∃ arg, args[n]? = some arg ∧
          (parameter.Conforms arg ↔ ¬ parameter.Unordered values[n]?)) ∧
    ∀ operation ∈ builtInOperations, ∀ (registers : Registers) (bound : List Argument) (n : Nat)
      (parameter : Parameter) (arg : Argument),
      operation.descriptor.parameters[n]? = some parameter → bound[n]? = some arg →
      parameter.Conforms arg →
        ∃ substituted, (registers.substituteArguments bound)[n]? = some substituted ∧
          parameter.Conforms substituted := by
  obtain ⟨-, hbound⟩ := bind_eq_ok_iff.mp h
  obtain ⟨hlength, hargs⟩ := Parameter.bindAll_eq_ok_iff.mp hbound
  refine ⟨⟨hlength, fun n parameter hn => ?_⟩, ?_⟩
  · obtain ⟨arg, harg, hbind⟩ := hargs n parameter hn
    have hdefault := hdefaults parameter (List.mem_of_getElem? hn)
    exact ⟨arg, harg, Parameter.conforms_iff_of_bind hdefault hbind⟩
  · intro operation hoperation registers bound n parameter arg hn harg hconforms
    have hsubstituted : (registers.substituteArguments bound)[n]? =
        some (registers.substituteArgument arg) := by
      rw [Registers.substituteArguments, List.getElem?_map, harg, Option.map_some]
    refine ⟨registers.substituteArgument arg, hsubstituted, ?_⟩
    refine Parameter.conforms_substituteArgument registers (fun _ o ho => ?_) hconforms
    exact substitute_builtIn_option registers hoperation (List.mem_of_getElem? hn) ho

/-- A wait that is written as text, and a scope that has no placeholder. -/
theorem Descriptor.bind_conforms_texts :
    (∃ parameter, Pause.operation.descriptor.parameters[0]? = some parameter ∧
      ∃ arg, [Argument.number (.ofNat 250)][0]? = some arg ∧ parameter.Conforms arg) ∧
    ∃ parameter, LetterCase.upperCase.descriptor.parameters[0]? = some parameter ∧
      ∃ substituted, (Registers.empty.substituteArguments [.text "All"])[0]? = some substituted ∧
        parameter.Conforms substituted := by
  have hpause : Pause.operation ∈ builtInOperations := by simp [builtInOperations]
  have hcase : LetterCase.upperCase ∈ builtInOperations := by simp [builtInOperations]
  have hbind : Pause.operation.descriptor.bind [.text " 250 "] = .ok [.number (.ofNat 250)] := by
    decide +kernel
  obtain ⟨⟨-, hargs⟩, hsubstitution⟩ := bind_conforms
    (fun parameter hp => (builtIn_parameters_regular _ hpause parameter hp).default_conforms) hbind
  obtain ⟨arg, harg, hconforms⟩ := hargs 0 _ rfl
  refine ⟨⟨_, rfl, arg, harg, hconforms.mpr fun hunordered => ?_⟩, _, rfl, ?_⟩
  · exact absurd hunordered.2.2 (by decide +kernel)
  · exact hsubstitution LetterCase.upperCase hcase .empty [.text "All"] 0 _ _ rfl rfl
      ⟨"All", List.mem_cons_self, rfl⟩

/-- The least wait is zero, and the missing number is bound all the same. -/
theorem Descriptor.not_bind_conforms_missing :
    (∀ parameter ∈ Pause.operation.descriptor.parameters, parameter.Conforms parameter.default) ∧
    Pause.operation.descriptor.bind [.text "NaN"] = .ok [.number .nan] ∧
    ∃ parameter, Pause.operation.descriptor.parameters[0]? = some parameter ∧
      ¬ parameter.Conforms (.number .nan) := by
  have hmem : Pause.operation ∈ builtInOperations := by simp [builtInOperations]
  refine ⟨fun parameter hp => (builtIn_parameters_regular _ hmem parameter hp).default_conforms,
    by decide +kernel, _, rfl, ?_⟩
  rintro ⟨x, hx, hlow, -⟩
  obtain rfl := Argument.number.inj hx
  exact (hlow _ rfl).2.1 rfl

end Kitchen
