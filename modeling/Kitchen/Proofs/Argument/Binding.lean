import Kitchen.Operation.Basic

/-!
# Binding by position

Argument lists are bound one position at a time: a bound list has one value for each parameter, and
each depends on its own parameter and on what was supplied at its own position.
-/

namespace Kitchen

namespace Parameter

/-! ## One position -/

section Position

variable {parameter : Parameter} {value arg : Argument}

/-- What a supplied value can be bound to, kind by kind. -/
inductive Binds (parameter : Parameter) (value : Argument) : Argument → Prop where
  | text (s : String) (hkind : parameter.kind = .string ∨ parameter.kind = .text) :
    Binds parameter value (.text s)
  | number (x : Binary64) (hkind : parameter.kind = .number) (hread : value.asNumber? = some x)
    (hmin : ∀ min ∈ parameter.min, ¬ x < min) (hmax : ∀ max ∈ parameter.max, ¬ max < x) :
    Binds parameter value (.number x)
  | boolean (b : Bool) (hkind : parameter.kind = .boolean) : Binds parameter value (.bool b)
  | option (chosen found : String) (hkind : parameter.kind = .option)
    (hfound : parameter.matchOption chosen = .ok found) : Binds parameter value (.text found)
  | plain (s : String) (hkind : parameter.kind = .toggleString) :
    Binds parameter value (.toggle s (parameter.default.option?.getD ""))
  | toggle (s chosen found : String) (hkind : parameter.kind = .toggleString)
    (hfound : parameter.matchOption chosen = .ok found) : Binds parameter value (.toggle s found)

theorem checkMin_eq_ok_iff {x : Binary64} :
    parameter.checkMin x = .ok () ↔ ∀ min ∈ parameter.min, ¬ x < min := by
  rw [checkMin]
  cases parameter.min with
  | none => simp
  | some min => by_cases hx : x < min <;> simp [hx]

theorem checkMax_eq_ok_iff {x : Binary64} :
    parameter.checkMax x = .ok () ↔ ∀ max ∈ parameter.max, ¬ max < x := by
  rw [checkMax]
  cases parameter.max with
  | none => simp
  | some max => by_cases hx : max < x <;> simp [hx]

theorem bindNumber_eq_ok_iff {x : Binary64} :
    parameter.bindNumber x = .ok arg ↔
      (∀ min ∈ parameter.min, ¬ x < min) ∧ (∀ max ∈ parameter.max, ¬ max < x) ∧ arg = .number x := by
  rw [← checkMin_eq_ok_iff, ← checkMax_eq_ok_iff, bindNumber]
  cases hmin : parameter.checkMin x with
  | error error => simp [Bind.bind, Except.bind]
  | ok _ =>
    cases hmax : parameter.checkMax x with
    | error error => simp [Bind.bind, Except.bind]
    | ok _ => simp [Bind.bind, Except.bind, Pure.pure, Except.pure, eq_comm]

theorem matchOption_eq_ok_iff {chosen found : String} :
    parameter.matchOption chosen = .ok found ↔
      parameter.options.find? (fun o => sameInAnyCase o.toList (Text.trimChars chosen.toList)) =
        some found := by
  rw [matchOption]
  split
  next o ho => rw [ho, Except.ok.injEq, Option.some.injEq]
  next ho => simp [ho]

private theorem exists_of_map_eq_ok {ε α β : Type} {read : Except ε α} {f : α → β} {result : β}
    (h : read.map f = .ok result) : ∃ found, read = .ok found ∧ result = f found := by
  cases read with
  | error error => cases h
  | ok found =>
    cases h
    exact ⟨found, rfl, rfl⟩

theorem binds_of_bindValue (h : parameter.bindValue value = .ok arg) : parameter.Binds value arg := by
  unfold bindValue at h
  cases hkind : parameter.kind with
  | string =>
    rw [hkind] at h
    cases h
    cases value <;> exact .text _ (.inl hkind)
  | text =>
    rw [hkind] at h
    cases h
    cases value <;> exact .text _ (.inr hkind)
  | number =>
    simp only [hkind] at h
    cases hread : value.asNumber? with
    | none => rw [hread] at h; cases h
    | some x =>
      simp only [hread] at h
      obtain ⟨hmin, hmax, rfl⟩ := bindNumber_eq_ok_iff.mp h
      exact .number x hkind hread hmin hmax
  | boolean =>
    simp only [hkind] at h
    cases hread : value.asBool? with
    | none => rw [hread] at h; cases h
    | some b =>
      rw [hread] at h
      cases h
      exact .boolean b hkind
  | option =>
    simp only [hkind] at h
    cases hread : value.asText? with
    | none => rw [hread] at h; cases h
    | some chosen =>
      simp only [hread] at h
      obtain ⟨found, hfound, rfl⟩ := exists_of_map_eq_ok h
      exact .option chosen found hkind hfound
  | toggleString =>
    simp only [hkind] at h
    cases value with
    | bool b => cases h
    | number x => cases h
    | text s =>
      cases h
      exact .plain s hkind
    | toggle s chosen =>
      obtain ⟨found, hfound, rfl⟩ := exists_of_map_eq_ok h
      exact .toggle s chosen found hkind hfound

end Position

/-! ## Lists -/

theorem bindAll_cons_eq_ok_iff {first : Parameter} {rest : List Parameter}
    {values args : List Argument} :
    bindAll (first :: rest) values = .ok args ↔
      ∃ arg others, first.bind values.head? = .ok arg ∧ bindAll rest values.tail = .ok others ∧
        args = arg :: others := by
  rw [bindAll]
  cases hfirst : first.bind values.head? with
  | error error => simp [Bind.bind, Except.bind]
  | ok arg =>
    cases hrest : bindAll rest values.tail with
    | error error => simp [Bind.bind, Except.bind]
    | ok others => simp [Bind.bind, Except.bind, Pure.pure, Except.pure, eq_comm]

/-- Values bind to parameters if each binds to its own. -/
theorem bindAll_eq_ok_iff {parameters : List Parameter} {values args : List Argument} :
    bindAll parameters values = .ok args ↔
      args.length = parameters.length ∧
        ∀ (n : Nat) (parameter : Parameter), parameters[n]? = some parameter →
          ∃ arg, args[n]? = some arg ∧ parameter.bind values[n]? = .ok arg := by
  induction parameters generalizing values args with
  | nil =>
    rw [bindAll, List.length_nil, List.length_eq_zero_iff]
    refine ⟨fun h => ⟨(Except.ok.inj h).symm, fun n parameter hn => by simp at hn⟩, fun h => ?_⟩
    rw [h.1]
  | cons first rest ih =>
    rw [bindAll_cons_eq_ok_iff]
    constructor
    · rintro ⟨arg, others, hfirst, hrest, rfl⟩
      obtain ⟨hlength, hothers⟩ := ih.mp hrest
      refine ⟨congrArg (· + 1) hlength, fun n parameter hn => ?_⟩
      cases n with
      | zero =>
        obtain rfl : first = parameter := Option.some.inj hn
        rw [List.head?_eq_getElem?] at hfirst
        exact ⟨arg, rfl, hfirst⟩
      | succ n =>
        obtain ⟨found, hfound, hbind⟩ := hothers n parameter hn
        rw [List.getElem?_tail] at hbind
        exact ⟨found, hfound, hbind⟩
    · rintro ⟨hlength, hargs⟩
      obtain ⟨arg, harg, hfirst⟩ := hargs 0 first rfl
      cases args with
      | nil => cases harg
      | cons head others =>
        obtain rfl : head = arg := Option.some.inj harg
        rw [← List.head?_eq_getElem?] at hfirst
        refine ⟨head, others, hfirst, ih.mpr ⟨Nat.succ.inj hlength, fun n parameter hn => ?_⟩, rfl⟩
        rw [List.getElem?_tail]
        exact hargs (n + 1) parameter hn

/-- Each parameter is bound to the value at its position. -/
theorem getElem?_bindAll {parameters : List Parameter} {values args : List Argument}
    (h : bindAll parameters values = .ok args) {n : Nat} {parameter : Parameter}
    (hn : parameters[n]? = some parameter) :
    ∃ arg, args[n]? = some arg ∧ parameter.bind values[n]? = .ok arg :=
  (bindAll_eq_ok_iff.mp h).2 n parameter hn

end Parameter

theorem Descriptor.bind_eq_ok_iff {descriptor : Descriptor} {values args : List Argument} :
    descriptor.bind values = .ok args ↔
      values.length ≤ descriptor.parameters.length ∧
        Parameter.bindAll descriptor.parameters values = .ok args := by
  rw [bind]
  by_cases hmany : descriptor.parameters.length < values.length
  · rw [if_pos hmany]
    constructor
    · intro h
      cases h
    · intro h
      omega
  · rw [if_neg hmany, and_iff_right (Nat.not_lt.mp hmany)]

end Kitchen
