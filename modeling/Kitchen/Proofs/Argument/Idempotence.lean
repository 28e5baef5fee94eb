import Kitchen.Proofs.Argument.Schema

/-!
# Binding twice

What was bound binds to itself: a value that was turned into another shape has the shape that its
parameter expects, and an option that was found is the first that it names itself. The missing number
is bound to the missing number, whatever a comparison of the two says.
-/

namespace Kitchen

open Text

namespace Parameter

variable {parameter : Parameter} {value arg : Argument}

/-- A choice that was found names the options that the text named by which it was found. -/
theorem matchOption_of_matchOption (h : parameter.Regular) {chosen found : String}
    (hfound : parameter.matchOption chosen = .ok found) :
    parameter.matchOption found = .ok found := by
  rw [matchOption_eq_ok_iff] at hfound ⊢
  have htrimmed := h.trimmed found (List.mem_of_find?_eq_some hfound)
  have hnames := List.find?_some hfound
  have hsame : found.toList.map Char.toLower = (trimChars chosen.toList).map Char.toLower :=
    eq_of_beq hnames
  have hnamed (o : String) : sameInAnyCase o.toList (trimChars found.toList) =
      sameInAnyCase o.toList (trimChars chosen.toList) := by
    rw [htrimmed, sameInAnyCase, hsame, sameInAnyCase]
  simp only [hnamed]
  exact hfound

theorem matchOption_headD (h : parameter.Regular)
    (hkind : parameter.kind = .option ∨ parameter.kind = .toggleString) :
    parameter.matchOption (parameter.options.headD "") = .ok (parameter.options.headD "") := by
  have htrimmed := h.trimmed _ (h.headD_mem hkind)
  rw [matchOption_eq_ok_iff]
  cases hoptions : parameter.options with
  | nil => exact absurd hoptions (h.options_ne_nil hkind)
  | cons o rest =>
    rw [hoptions, List.headD_cons] at htrimmed
    rw [List.headD_cons, List.find?_cons_of_pos]
    rw [htrimmed]
    exact beq_self_eq_true _

theorem Regular.binds_default (h : parameter.Regular) :
    parameter.Binds parameter.default parameter.default := by
  cases h.built with
  | string name default => exact .text default (.inl rfl)
  | text name default => exact .text default (.inr rfl)
  | number name default =>
    obtain ⟨hlow, hhigh⟩ := h.admitted default rfl rfl
    exact .number default rfl rfl (fun min hmin => Binary64.not_lt_of_le (hlow min hmin))
      fun max hmax => Binary64.not_lt_of_le (hhigh max hmax)
  | boolean name default => exact .boolean default rfl
  | option name options => exact .option _ _ rfl (matchOption_headD h (.inl rfl))
  | toggle name default options => exact .toggle default _ _ rfl (matchOption_headD h (.inr rfl))

theorem Regular.bindValue_of_binds (h : parameter.Regular) (hbound : parameter.Binds value arg) :
    parameter.bindValue arg = .ok arg := by
  unfold bindValue
  cases hbound with
  | text s hkind => rcases hkind with hkind | hkind <;> rw [hkind] <;> rfl
  | number x hkind hread hmin hmax =>
    rw [hkind]
    exact bindNumber_eq_ok_iff.mpr ⟨hmin, hmax, rfl⟩
  | boolean b hkind => rw [hkind]; rfl
  | option chosen found hkind hfound =>
    simp only [hkind, Argument.asText?, matchOption_of_matchOption h hfound]
    rfl
  | plain s hkind =>
    have hchoice : parameter.default.option?.getD "" = parameter.options.headD "" := by
      cases h.built with
      | toggle name default options => rfl
      | _ => cases hkind
    simp only [hkind, hchoice, matchOption_headD h (.inr hkind)]
    rfl
  | toggle s chosen found hkind hfound =>
    simp only [hkind, matchOption_of_matchOption h hfound]
    rfl

theorem Regular.bind_of_bind (h : parameter.Regular) {value : Option Argument}
    (hbound : parameter.bind value = .ok arg) : parameter.bind (some arg) = .ok arg := by
  cases value with
  | none =>
    cases hbound
    exact h.bindValue_of_binds h.binds_default
  | some value => exact h.bindValue_of_binds (binds_of_bindValue hbound)

end Parameter

/-- A bound argument list is bound to itself, for the descriptors of the built-in operations as for any
other with regular parameters. -/
theorem Descriptor.bind_idempotent :
    (∀ descriptor : Descriptor, (∀ parameter ∈ descriptor.parameters, parameter.Regular) →
      ∀ values args : List Argument,
        descriptor.bind values = .ok args → descriptor.bind args = .ok args) ∧
    ∀ operation ∈ builtInOperations, ∀ parameter ∈ operation.descriptor.parameters,
      parameter.Regular := by
  refine ⟨fun descriptor hregular values args h => ?_, builtIn_parameters_regular⟩
  obtain ⟨-, hbound⟩ := bind_eq_ok_iff.mp h
  obtain ⟨hlength, hargs⟩ := Parameter.bindAll_eq_ok_iff.mp hbound
  refine bind_eq_ok_iff.mpr ⟨Nat.le_of_eq hlength, ?_⟩
  refine Parameter.bindAll_eq_ok_iff.mpr ⟨hlength, fun n parameter hn => ?_⟩
  obtain ⟨arg, harg, hbind⟩ := hargs n parameter hn
  have hparameter := hregular parameter (List.mem_of_getElem? hn)
  refine ⟨arg, harg, ?_⟩
  rw [harg]
  exact hparameter.bind_of_bind hbind

/-- Text for a toggle, and truth values in words and numbers. -/
theorem Descriptor.bind_idempotent_words :
    Replacement.operation.descriptor.bind
        [.toggle "a" " REGEX ", .number (.ofNat 7), .text "Yes", .number .nan] =
      .ok [.toggle "a" "Regex", .text "7", .bool true, .bool true, .bool true, .bool false] ∧
    Replacement.operation.descriptor.bind
        [.toggle "a" "Regex", .text "7", .bool true, .bool true, .bool true, .bool false] =
      .ok [.toggle "a" "Regex", .text "7", .bool true, .bool true, .bool true, .bool false] := by
  have hmem : Replacement.operation ∈ builtInOperations := by simp [builtInOperations]
  have hbind : Replacement.operation.descriptor.bind
      [.toggle "a" " REGEX ", .number (.ofNat 7), .text "Yes", .number .nan] =
        .ok [.toggle "a" "Regex", .text "7", .bool true, .bool true, .bool true, .bool false] := by
    rfl
  exact ⟨hbind, bind_idempotent.1 _ (bind_idempotent.2 _ hmem) _ _ hbind⟩

end Kitchen
