import Kitchen.Operation.BuiltIn
import Kitchen.Proofs.Argument.Binding
import Kitchen.Proofs.Number.Order

/-!
# Parameters and what conforms to them

A value conforms to a parameter if it has the shape that is expected, a choice being one of the options
and a number within the bounds. Parameters as the built-in operations have them come with a default
that conforms.
-/

namespace Kitchen

open Text

namespace Parameter

/-- The number lies within the bounds. -/
def Admits (parameter : Parameter) (x : Binary64) : Prop :=
  (∀ min ∈ parameter.min, min ≤ x) ∧ ∀ max ∈ parameter.max, x ≤ max

/-- The value is of the kind that is expected, and one of those that are allowed. -/
def Conforms (parameter : Parameter) (arg : Argument) : Prop :=
  match parameter.kind with
  | .string => ∃ s, arg = .text s
  | .text => ∃ s, arg = .text s
  | .number => ∃ x, arg = .number x ∧ parameter.Admits x
  | .boolean => ∃ b, arg = .bool b
  | .option => ∃ chosen ∈ parameter.options, arg = .text chosen
  | .toggleString => ∃ s chosen, arg = .toggle s chosen ∧
      (chosen ∈ parameter.options ∨ parameter.default.option? = some chosen)

instance (parameter : Parameter) (x : Binary64) : Decidable (parameter.Admits x) :=
  inferInstanceAs (Decidable (_ ∧ _))

/-! ## Parameters as they are made -/

/-- The parameters that the constructors make, with any bounds; without bounds both are missing. -/
inductive Built : Parameter → Prop where
  | string (name default : String) (min max : Option Binary64) :
    Built ((string name default).range min max)
  | text (name default : String) (min max : Option Binary64) :
    Built ((text name default).range min max)
  | number (name : String) (default : Binary64) (min max : Option Binary64) :
    Built ((number name default).range min max)
  | boolean (name : String) (default : Bool) (min max : Option Binary64) :
    Built ((boolean name default).range min max)
  | option (name : String) (options : List String) (min max : Option Binary64) :
    Built ((option name options).range min max)
  | toggle (name default : String) (options : List String) (min max : Option Binary64) :
    Built ((toggle name default options).range min max)

/-- The default has the shape that is expected, with the first of the options. -/
def hasShape (parameter : Parameter) : Bool :=
  match parameter.kind, parameter.default with
  | .string, .text _ => parameter.options.isEmpty
  | .text, .text _ => parameter.options.isEmpty
  | .number, .number _ => parameter.options.isEmpty
  | .boolean, .bool _ => parameter.options.isEmpty
  | .option, .text chosen => chosen == parameter.options.headD ""
  | .toggleString, .toggle _ chosen => chosen == parameter.options.headD ""
  | _, _ => false

theorem built_iff {parameter : Parameter} : parameter.Built ↔ parameter.hasShape = true := by
  constructor
  · intro h
    cases h with
    | option name options => exact beq_self_eq_true _
    | toggle name default options => exact beq_self_eq_true _
    | _ => rfl
  · intro h
    obtain ⟨name, kind, default, options, min, max⟩ := parameter
    cases kind <;> cases default
    case string.text s =>
      obtain rfl : options = [] := List.isEmpty_iff.mp h
      exact .string name s min max
    case text.text s =>
      obtain rfl : options = [] := List.isEmpty_iff.mp h
      exact .text name s min max
    case number.number x =>
      obtain rfl : options = [] := List.isEmpty_iff.mp h
      exact .number name x min max
    case boolean.bool b =>
      obtain rfl : options = [] := List.isEmpty_iff.mp h
      exact .boolean name b min max
    case option.text s =>
      obtain rfl : s = options.headD "" := eq_of_beq h
      exact .option name options min max
    case toggleString.toggle s o =>
      obtain rfl : o = options.headD "" := eq_of_beq h
      exact .toggle name s options min max
    all_goals cases h

/-- A parameter with something to choose where a choice is expected, with options that have no blanks
around them, and with bounds that admit its default. -/
structure Regular (parameter : Parameter) : Prop where
  built : parameter.Built
  options_ne_nil : parameter.kind = .option ∨ parameter.kind = .toggleString → parameter.options ≠ []
  trimmed : ∀ o ∈ parameter.options, trimChars o.toList = o.toList
  admitted : ∀ x ∈ parameter.default.asNumber?, parameter.kind = .number → parameter.Admits x

instance (parameter : Parameter) : Decidable parameter.Regular :=
  decidable_of_iff
    (parameter.hasShape = true ∧
      (parameter.kind = .option ∨ parameter.kind = .toggleString → parameter.options ≠ []) ∧
      (∀ o ∈ parameter.options, trimChars o.toList = o.toList) ∧
      ∀ x ∈ parameter.default.asNumber?, parameter.kind = .number → parameter.Admits x)
    ⟨fun ⟨hshape, hsome, htrimmed, hadmitted⟩ => ⟨built_iff.mpr hshape, hsome, htrimmed, hadmitted⟩,
      fun ⟨hbuilt, hsome, htrimmed, hadmitted⟩ =>
        ⟨built_iff.mp hbuilt, hsome, htrimmed, hadmitted⟩⟩

theorem Regular.headD_mem {parameter : Parameter} (h : parameter.Regular)
    (hkind : parameter.kind = .option ∨ parameter.kind = .toggleString) :
    parameter.options.headD "" ∈ parameter.options := by
  cases hoptions : parameter.options with
  | nil => exact absurd hoptions (h.options_ne_nil hkind)
  | cons o rest => exact List.mem_cons_self

theorem Regular.default_conforms {parameter : Parameter} (h : parameter.Regular) :
    parameter.Conforms parameter.default := by
  cases h.built with
  | string name default => exact ⟨default, rfl⟩
  | text name default => exact ⟨default, rfl⟩
  | number name default => exact ⟨default, rfl, h.admitted default rfl rfl⟩
  | boolean name default => exact ⟨default, rfl⟩
  | option name options => exact ⟨_, h.headD_mem (.inl rfl), rfl⟩
  | toggle name default options => exact ⟨default, _, rfl, .inl (h.headD_mem (.inr rfl))⟩

end Parameter

theorem builtIn_parameters_regular : ∀ operation ∈ builtInOperations,
    ∀ parameter ∈ operation.descriptor.parameters, parameter.Regular := by
  decide +kernel

end Kitchen
