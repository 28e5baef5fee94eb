import Kitchen.Number.Binary64

/-!
# The order of binary64 numbers

Numbers lie on a line, with both zeros at one place. The missing number lies nowhere and compares with
nothing: that it is not below a bound does not put it above.
-/

namespace Kitchen.Binary64

/-- The place of a number on the line. -/
def place : Binary64 → Int
  | nan => 0
  | infinite negative => if negative then -rankBound else rankBound
  | finite negative rank => if negative then -rank.val else rank.val

/-- Not above, as numbers; false where one of them is missing. -/
def le (x y : Binary64) : Prop := x ≠ nan ∧ y ≠ nan ∧ x.place ≤ y.place

instance : LE Binary64 := ⟨le⟩

instance (x y : Binary64) : Decidable (x ≤ y) :=
  inferInstanceAs (Decidable (x ≠ nan ∧ y ≠ nan ∧ x.place ≤ y.place))

theorem le_iff {x y : Binary64} : x ≤ y ↔ x ≠ nan ∧ y ≠ nan ∧ x.place ≤ y.place := Iff.rfl

theorem lt_iff {x y : Binary64} : x < y ↔ x ≠ nan ∧ y ≠ nan ∧ x.place < y.place := by
  change lt x y = true ↔ _
  have hbound : (0 : Int) < rankBound := by decide
  have hrank (r : Fin (2047 * twoTo 52)) : (r.val : Int) < rankBound := Int.ofNat_lt.mpr r.isLt
  have hranks (r q : Fin (2047 * twoTo 52)) : r < q ↔ (r.val : Int) < q.val := Int.ofNat_lt.symm
  cases x with
  | nan => simp [lt]
  | infinite s =>
    cases y with
    | nan => cases s <;> simp [lt]
    | infinite t =>
      cases s <;> cases t <;> simp [lt, place]
      omega
    | finite t q =>
      have hq := hrank q
      cases s <;> cases t <;> simp [lt, place] <;> omega
  | finite s r =>
    have hr := hrank r
    cases y with
    | nan => cases s <;> simp [lt]
    | infinite t => cases s <;> cases t <;> simp [lt, place] <;> omega
    | finite t q =>
      simp only [ne_eq, reduceCtorEq, not_false_eq_true, true_and]
      cases s <;> cases t <;>
        simp only [lt, place, decide_eq_true_eq, hranks, Bool.or_eq_true, bne_iff_ne, ne_eq,
          Bool.false_eq_true, false_iff, if_true, if_false] <;> omega

/-- Numbers that are not missing lie in one order. -/
theorem le_iff_not_lt {x y : Binary64} (hx : x ≠ nan) (hy : y ≠ nan) : x ≤ y ↔ ¬ y < x := by
  rw [le_iff, lt_iff]
  simp only [hx, hy, ne_eq, not_false_eq_true, true_and, Int.not_lt]

theorem not_lt_of_le {x y : Binary64} (h : x ≤ y) : ¬ y < x := (le_iff_not_lt h.1 h.2.1).mp h

end Kitchen.Binary64
