import Kitchen.Proofs.Operation.Steering
import Kitchen.Proofs.Run.Ending

/-!
# Thinnings

A list of steps may be cut to a range and idle steps in the range may be left out: steps that are
disabled and remarks. A map of places then says where each step has gone. Labels and merges are never
idle, so a search for one finds the same step at its new place, and a run over the range and a run
over the thinned steps come to the same end.
-/

namespace Kitchen

/-- The step does nothing in any bake: it is disabled or a remark. -/
def Step.isIdle (step : Step) : Bool := step.disabled || step.operation == Flow.comment.name

/-- The steps of a range without some of the idle ones, each at the place that a map gives. -/
structure Thinning (steps thinned : List Step) (first stop : Nat) (place : Nat → Nat) : Prop where
  kept_or_idle : ∀ i, first ≤ i → i < stop → ∃ step, steps[i]? = some step ∧
    ((place (i + 1) = place i + 1 ∧
        ∃ index breakpoint, thinned[place i]? = some { step with index, breakpoint }) ∨
      (place (i + 1) = place i ∧ step.isIdle = true))

/-- Nothing is left out. -/
theorem Thinning.refl (steps : List Step) : Thinning steps steps 0 steps.length id where
  kept_or_idle i _ hi :=
    ⟨steps[i], List.getElem?_eq_getElem hi,
      .inl ⟨rfl, steps[i].index, steps[i].breakpoint, List.getElem?_eq_getElem hi⟩⟩

theorem countP_take_add_one {α : Type} {l : List α} {i : Nat} {a : α} (h : l[i]? = some a)
    (p : α → Bool) : (l.take (i + 1)).countP p = (l.take i).countP p + if p a then 1 else 0 := by
  rw [List.take_add_one, h, List.countP_append]
  cases hp : p a <;> simp [hp]

/-! ## Searches -/

theorem findStep?_of_le {steps : List Step} {test : Step → Bool} {start stop : Nat}
    (h : stop ≤ start) : findStep? steps test start stop = none := by
  simp [findStep?, Nat.sub_eq_zero_of_le h]

theorem findStep?_of_lt {steps : List Step} {test : Step → Bool} {start stop : Nat}
    (h : start < stop) :
    findStep? steps test start stop =
      if (steps[start]?).any test then some start else findStep? steps test (start + 1) stop := by
  obtain ⟨n, rfl⟩ : ∃ n, stop = start + (n + 1) := ⟨stop - start - 1, by omega⟩
  have hn : start + (n + 1) - start = n + 1 := by omega
  have hn' : start + (n + 1) - (start + 1) = n := by omega
  simp only [findStep?, hn, hn', List.range'_succ, List.find?_cons]
  cases (steps[start]?).any test <;> simp

/-- A search stays in its range and finds a step that passes. -/
theorem findStep?_eq_some {steps : List Step} {test : Step → Bool} {start stop i : Nat}
    (h : findStep? steps test start stop = some i) :
    start ≤ i ∧ i < stop ∧ ∃ step, steps[i]? = some step ∧ test step = true := by
  have hmem := List.mem_range'_1.mp (List.mem_of_find?_eq_some h)
  have htest := List.find?_some h
  refine ⟨hmem.1, by omega, ?_⟩
  cases hs : steps[i]? with
  | none => simp [hs] at htest
  | some step => exact ⟨step, rfl, by simpa [hs] using htest⟩

/-- No step before the one that a search finds passes. -/
theorem findStep?_before {steps : List Step} {test : Step → Bool} {start stop i j : Nat}
    (h : findStep? steps test start stop = some i) (hj : start ≤ j) (hji : j < i) {step : Step}
    (hstep : steps[j]? = some step) : test step = false := by
  have hbefore := (List.find?_range'_eq_some.mp h).2.2 j hj hji
  simpa [hstep] using hbefore

/-- A search finds nothing if no step in its range passes. -/
theorem findStep?_eq_none {steps : List Step} {test : Step → Bool} {start stop : Nat} :
    findStep? steps test start stop = none ↔
      ∀ i step, start ≤ i → i < stop → steps[i]? = some step → test step = false := by
  rw [findStep?, List.find?_range'_eq_none]
  constructor
  · intro h i step hstart hstop hstep
    have hnone := h i hstart (by omega)
    simpa [hstep] using hnone
  · intro h i hstart hstop
    cases hstep : steps[i]? with
    | none => rfl
    | some step => simp [h i step hstart (by omega) hstep]

/-- A test that passes no idle step and does not look at the place of a step. -/
structure Step.Lasting (test : Step → Bool) : Prop where
  isIdle : ∀ step, test step = true → step.isIdle = false
  place : ∀ step index breakpoint, test { step with index, breakpoint } = test step

theorem Step.lasting_isLabel (name : String) : Step.Lasting (·.isLabel name) where
  isIdle step h := by
    simp only [Step.isLabel, Bool.and_eq_true, Bool.not_eq_true', beq_iff_eq] at h
    simp [Step.isIdle, h.1.1, h.1.2]
    decide
  place _ _ _ := rfl

theorem Step.lasting_isMerge : Step.Lasting Step.isMerge where
  isIdle step h := by
    simp only [Step.isMerge, Bool.and_eq_true, Bool.not_eq_true', beq_iff_eq] at h
    simp [Step.isIdle, h.1, h.2]
    decide
  place _ _ _ := rfl

namespace Thinning

variable {steps thinned : List Step} {first stop : Nat} {place : Nat → Nat}

theorem place_le_succ (T : Thinning steps thinned first stop place) {i : Nat} (hi : first ≤ i)
    (hs : i < stop) : place i ≤ place (i + 1) ∧ place (i + 1) ≤ place i + 1 := by
  obtain ⟨step, _, ⟨h, _⟩ | ⟨h, _⟩⟩ := T.kept_or_idle i hi hs <;> omega

theorem place_mono (T : Thinning steps thinned first stop place) {i j : Nat} (hi : first ≤ i)
    (hij : i ≤ j) (hj : j ≤ stop) : place i ≤ place j := by
  induction hij with
  | refl => exact Nat.le_refl _
  | @step j hij ih =>
    exact Nat.le_trans (ih (by omega)) (T.place_le_succ (Nat.le_trans hi hij) hj).1

/-- A search over the thinned steps finds what the search over the range finds. -/
theorem findStep?_place (T : Thinning steps thinned first stop place) {test : Step → Bool}
    (ht : Step.Lasting test) {a b : Nat} (ha : first ≤ a) (hab : a ≤ b) (hb : b ≤ stop) :
    findStep? thinned test (place a) (place b) = (findStep? steps test a b).map place ∧
      ∀ i, findStep? steps test a b = some i → place (i + 1) = place i + 1 := by
  induction h : b - a generalizing a with
  | zero =>
    obtain rfl : a = b := by omega
    simp [findStep?_of_le (Nat.le_refl _)]
  | succ n ih =>
    have hlt : a < b := by omega
    obtain ⟨hih, hkept⟩ := ih (a := a + 1) (by omega) (by omega) (by omega)
    obtain ⟨step, hstep, ⟨hplace, index, breakpoint, hthin⟩ | ⟨hplace, hidle⟩⟩ :=
      T.kept_or_idle a ha (by omega)
    · have hlt' : place a < place b := by
        have := T.place_mono (i := a + 1) (j := b) (by omega) (by omega) hb
        omega
      rw [findStep?_of_lt hlt, findStep?_of_lt hlt', hstep, hthin]
      simp only [Option.any_some, ht.place]
      by_cases htest : test step = true
      · simp [htest, hplace]
      · simpa [htest, ← hplace] using ⟨hih, hkept⟩
    · have htest : test step = false := by
        cases hc : test step with
        | false => rfl
        | true => rw [ht.isIdle step hc] at hidle; simp at hidle
      rw [findStep?_of_lt hlt, hstep, ← hplace]
      simpa [htest] using ⟨hih, hkept⟩

end Thinning
end Kitchen
