import Kitchen.Highlight
import Kitchen.Proofs.Registry.Lookup

/-!
# Maps of ranges

The built-in maps follow each range by itself, and all of them round: offsets are divided into groups,
and the start of a range is rounded down where its end is rounded up. So a range that is followed to
the output and back may grow, but it loses nothing. What holds of the maps there and back of single
steps holds of the maps along a row of steps, which come back in reverse.
-/

namespace Kitchen

/-! ## Division -/

namespace Encoding

theorem divideUp_le_iff {n d k : Nat} (hd : 0 < d) : divideUp n d ≤ k ↔ n ≤ k * d := by
  have hsucc : (k + 1) * d = k * d + d := Nat.succ_mul k d
  rw [divideUp, ← Nat.lt_succ_iff, Nat.div_lt_iff_lt_mul hd, Nat.succ_eq_add_one, hsucc]
  omega

theorem le_divideUp_mul {d : Nat} (n : Nat) (hd : 0 < d) : n ≤ divideUp n d * d :=
  (divideUp_le_iff hd).mp (Nat.le_refl _)

theorem divideUp_mono {n m d : Nat} (hd : 0 < d) (h : n ≤ m) : divideUp n d ≤ divideUp m d :=
  (divideUp_le_iff hd).mpr (Nat.le_trans h (le_divideUp_mul m hd))

/-- A number that lies less than a group below a whole number of groups rounds up to it. -/
theorem divideUp_eq {n d k : Nat} (hd : 0 < d) (hle : n ≤ k * d) (hlt : k * d < n + d) :
    divideUp n d = k := by
  apply Nat.le_antisymm ((divideUp_le_iff hd).mpr hle)
  have hmul := le_divideUp_mul n hd
  have hsucc : k * d < (divideUp n d + 1) * d := by
    rw [Nat.succ_mul]
    omega
  exact Nat.lt_succ_iff.mp (Nat.lt_of_mul_lt_mul_right hsucc)

theorem divideUp_mul {d : Nat} (k : Nat) (hd : 0 < d) : divideUp (k * d) d = k :=
  divideUp_eq hd (Nat.le_refl _) (by omega)

theorem div_le_divideUp {n m d : Nat} (hd : 0 < d) (h : n ≤ m) : n / d ≤ divideUp m d :=
  Nat.div_le_of_le_mul (by rw [Nat.mul_comm]; exact Nat.le_trans h (le_divideUp_mul m hd))

theorem div_lt_divideUp {n m d : Nat} (hd : 0 < d) (h : n < m) : n / d < divideUp m d := by
  rw [Nat.div_lt_iff_lt_mul hd]
  exact Nat.lt_of_lt_of_le h (le_divideUp_mul m hd)

end Encoding

/-! ## Ranges -/

namespace ByteRange

open Encoding

/-- The range does not end before its start. -/
def IsOrdered (r : ByteRange) : Prop := r.start ≤ r.stop

/-- A range that another one contains. -/
def Within (r s : ByteRange) : Prop := s.start ≤ r.start ∧ r.stop ≤ s.stop

theorem Within.refl (r : ByteRange) : r.Within r := ⟨Nat.le_refl _, Nat.le_refl _⟩

theorem Within.trans {r s t : ByteRange} (h : r.Within s) (h' : s.Within t) : r.Within t :=
  ⟨Nat.le_trans h'.1 h.1, Nat.le_trans h.2 h'.2⟩

/-- The groups of a size that a range touches, where each becomes a group of another size. -/
def regroup (size other : Nat) (r : ByteRange) : ByteRange :=
  ⟨r.start / size * other, divideUp r.stop size * other⟩

/-- Each byte of a range with its width, of which what stands behind the first two places is left out
at the end. -/
def spread (width : Nat) (r : ByteRange) : ByteRange :=
  ⟨r.start * width, max (r.stop * width - (width - 2)) (r.start * width)⟩

section Maps

variable {r s : ByteRange} {size other width : Nat}

theorem IsOrdered.regroup (h : r.IsOrdered) (hsize : 0 < size) : (r.regroup size other).IsOrdered :=
  Nat.mul_le_mul_right other (div_le_divideUp hsize h)

theorem Within.regroup (h : r.Within s) (hsize : 0 < size) :
    (r.regroup size other).Within (s.regroup size other) :=
  ⟨Nat.mul_le_mul_right other (Nat.div_le_div_right h.1),
    Nat.mul_le_mul_right other (divideUp_mono hsize h.2)⟩

/-- The groups that a range touches contain it. -/
theorem within_regroup_regroup (r : ByteRange) (hsize : 0 < size) (hother : 0 < other) :
    r.Within ((r.regroup size other).regroup other size) := by
  constructor
  · change r.start / size * other / other * size ≤ r.start
    rw [Nat.mul_div_cancel _ hother]
    exact Nat.div_mul_le_self r.start size
  · change r.stop ≤ divideUp (divideUp r.stop size * other) other * size
    rw [divideUp_mul _ hother]
    exact le_divideUp_mul r.stop hsize

theorem isOrdered_spread (r : ByteRange) : (r.spread width).IsOrdered := Nat.le_max_right _ _

/-- What the bytes of a range have become touches these bytes and no others. -/
theorem regroup_spread (h : r.IsOrdered) (hwidth : 2 ≤ width) : (r.spread width).regroup width 1 = r := by
  have hpos : 0 < width := by omega
  have hmul : r.start * width ≤ r.stop * width := Nat.mul_le_mul_right width h
  have hstop : divideUp (max (r.stop * width - (width - 2)) (r.start * width)) width = r.stop := by
    apply divideUp_eq hpos <;> omega
  rw [regroup, spread, hstop, Nat.mul_div_cancel _ hpos, Nat.mul_one, Nat.mul_one]

end Maps
end ByteRange

/-! ## Operations -/

/-- An operation follows ranges one by one, by a map to its output and another one back. -/
structure Operation.Follows (operation : Operation) (args : List Argument)
    (there back : ByteRange → ByteRange) : Prop where
  straight : operation.descriptor.flowControl = false
  forward : ∃ map, operation.forward = some map ∧ ∀ ranges, map args ranges = ranges.map there
  backward : ∃ map, operation.backward = some map ∧ ∀ ranges, map args ranges = ranges.map back

theorem LetterCase.follows_upperCase (args : List Argument) : upperCase.Follows args id id :=
  ⟨rfl, ⟨_, rfl, fun ranges => (List.map_id ranges).symm⟩,
    ⟨_, rfl, fun ranges => (List.map_id ranges).symm⟩⟩

theorem LetterCase.follows_lowerCase (args : List Argument) : lowerCase.Follows args id id :=
  ⟨rfl, ⟨_, rfl, fun ranges => (List.map_id ranges).symm⟩,
    ⟨_, rfl, fun ranges => (List.map_id ranges).symm⟩⟩

namespace Encoding

theorem follows_base64Encoder (args : List Argument) :
    base64Encoder.Follows args (ByteRange.regroup 3 4) (ByteRange.regroup 4 3) :=
  ⟨rfl, ⟨_, rfl, fun _ => rfl⟩, ⟨_, rfl, fun _ => rfl⟩⟩

theorem follows_base64Decoder (args : List Argument) :
    base64Decoder.Follows args (ByteRange.regroup 4 3) (ByteRange.regroup 3 4) :=
  ⟨rfl, ⟨_, rfl, fun _ => rfl⟩, ⟨_, rfl, fun _ => rfl⟩⟩

theorem hexBackward_eq (args : List Argument) (ranges : List ByteRange) :
    hexBackward args ranges = ranges.map (ByteRange.regroup (byteWidth args) 1) := by
  apply List.map_congr_left
  intro r _
  simp only [ByteRange.regroup, Nat.mul_one]

theorem follows_hexEncoder (args : List Argument) :
    hexEncoder.Follows args (ByteRange.spread (byteWidth args))
      (ByteRange.regroup (byteWidth args) 1) :=
  ⟨rfl, ⟨_, rfl, fun _ => rfl⟩, ⟨_, rfl, hexBackward_eq args⟩⟩

theorem follows_hexDecoder (args : List Argument) :
    hexDecoder.Follows args (ByteRange.regroup (byteWidth args) 1)
      (ByteRange.spread (byteWidth args)) :=
  ⟨rfl, ⟨_, rfl, hexBackward_eq args⟩, ⟨_, rfl, fun _ => rfl⟩⟩

end Encoding

/-! ## Rows of steps -/

theorem Plan.mapByStep?_eq {plan : Plan} {step : Step} (direction : Direction)
    (hflow : (plan.registry.operation step.operation).descriptor.flowControl = false)
    {map : RangeMap} (hmap : (plan.registry.operation step.operation).rangeMap? direction = some map)
    (ranges : List ByteRange) :
    plan.mapByStep? direction ranges step = some (map step.args ranges) := by
  simp only [mapByStep?, hflow, Bool.false_eq_true, if_false, hmap, Option.map_some]

/-- Steps that follow ranges one by one do so as a row, which comes back in reverse. Whatever holds of
the maps of every step, and of two pairs of maps in a row, holds of the maps of the row. -/
theorem Plan.exists_follows {plan : Plan}
    {P : (ByteRange → ByteRange) → (ByteRange → ByteRange) → Prop} (hid : P id id)
    (hcomp : ∀ {there back there' back'}, P there back → P there' back' →
      P (there' ∘ there) (back ∘ back'))
    {steps : List Step}
    (h : ∀ step ∈ steps, ∃ there back,
      (plan.registry.operation step.operation).Follows step.args there back ∧ P there back) :
    ∃ there back, P there back ∧
      (∀ ranges, steps.foldlM (plan.mapByStep? .forward) ranges = some (ranges.map there)) ∧
      ∀ ranges, steps.reverse.foldlM (plan.mapByStep? .backward) ranges =
        some (ranges.map back) := by
  induction steps with
  | nil =>
    refine ⟨id, id, hid, fun ranges => ?_, fun ranges => ?_⟩ <;> rw [List.map_id] <;> rfl
  | cons step steps ih =>
    obtain ⟨there, back, hfollows, hfirst⟩ := h step List.mem_cons_self
    obtain ⟨there', back', hrest, hforward, hbackward⟩ :=
      ih fun other hmem => h other (List.mem_cons_of_mem step hmem)
    obtain ⟨map, hmap, hmapped⟩ := hfollows.forward
    obtain ⟨map', hmap', hmapped'⟩ := hfollows.backward
    refine ⟨there' ∘ there, back ∘ back', hcomp hfirst hrest, fun ranges => ?_, fun ranges => ?_⟩
    · rw [List.foldlM_cons, mapByStep?_eq .forward hfollows.straight hmap, hmapped, Option.bind_eq_bind,
        Option.bind_some, hforward, List.map_map]
    · rw [List.reverse_cons, List.foldlM_append, hbackward, Option.bind_eq_bind, Option.bind_some,
        List.foldlM_cons, mapByStep?_eq .backward hfollows.straight hmap', hmapped', List.map_map]
      rfl

end Kitchen
