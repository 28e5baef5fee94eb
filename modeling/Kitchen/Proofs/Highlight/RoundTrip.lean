import Kitchen.Proofs.Highlight.Maps
import Kitchen.Proofs.Recipe.Preparation
import Mathlib.Data.List.Forall2

/-!
# Ranges there and back

A highlight that is followed through the encoders, the steps of letter case and the decoder of Base64
comes back to a range that contains it, and it comes back as it was where the steps only change the case
or write hexadecimal.
-/

namespace Kitchen

open ByteRange

/-- Maps there and back lose nothing of a range: it comes back within its image. -/
structure Encloses (there back : ByteRange → ByteRange) : Prop where
  ordered : ∀ r : ByteRange, r.IsOrdered → (there r).IsOrdered
  within : ∀ r : ByteRange, r.IsOrdered → r.Within (back (there r))
  monotone : ∀ r s : ByteRange, r.Within s → (back r).Within (back s)

/-- Maps there and back give a range as it was. -/
structure Returns (there back : ByteRange → ByteRange) : Prop where
  ordered : ∀ r : ByteRange, r.IsOrdered → (there r).IsOrdered
  returns : ∀ r : ByteRange, r.IsOrdered → back (there r) = r

section Maps

variable {there back there' back' : ByteRange → ByteRange}

theorem encloses_id : Encloses id id :=
  ⟨fun _ h => h, fun r _ => .refl r, fun _ _ h => h⟩

theorem Encloses.comp (h : Encloses there back) (h' : Encloses there' back') :
    Encloses (there' ∘ there) (back ∘ back') where
  ordered r hr := h'.ordered _ (h.ordered r hr)
  within r hr := by
    have hinner : (there r).Within (back' (there' (there r))) := h'.within _ (h.ordered r hr)
    exact (h.within r hr).trans (h.monotone _ _ hinner)
  monotone r s hrs := h.monotone _ _ (h'.monotone r s hrs)

theorem encloses_regroup {size other : Nat} (hsize : 0 < size) (hother : 0 < other) :
    Encloses (regroup size other) (regroup other size) where
  ordered _ h := h.regroup hsize
  within r _ := within_regroup_regroup r hsize hother
  monotone _ _ h := h.regroup hother

theorem encloses_spread {width : Nat} (hwidth : 2 ≤ width) :
    Encloses (spread width) (regroup width 1) where
  ordered r _ := isOrdered_spread r
  within r h := by
    rw [regroup_spread h hwidth]
    exact .refl r
  monotone _ _ h := h.regroup (by omega)

theorem returns_id : Returns id id := ⟨fun _ h => h, fun _ _ => rfl⟩

theorem Returns.comp (h : Returns there back) (h' : Returns there' back') :
    Returns (there' ∘ there) (back ∘ back') where
  ordered r hr := h'.ordered _ (h.ordered r hr)
  returns r hr := by
    have hinner : back' (there' (there r)) = there r := h'.returns _ (h.ordered r hr)
    change back (back' (there' (there r))) = r
    rw [hinner, h.returns r hr]

theorem returns_spread {width : Nat} (hwidth : 2 ≤ width) :
    Returns (spread width) (regroup width 1) :=
  ⟨fun r _ => isOrdered_spread r, fun _ h => regroup_spread h hwidth⟩

end Maps

/-! ## Operations -/

theorem Encoding.two_le_byteWidth (args : List Argument) : 2 ≤ byteWidth args := Nat.le_add_right _ _

/-- The operations that put the bytes of a range into one stretch of the output, and give the range back
exactly. -/
def exactlyFollowing : List Operation :=
  [LetterCase.upperCase, LetterCase.lowerCase, Encoding.hexEncoder]

/-- The operations that follow ranges by groups of bytes of one size. -/
def following : List Operation :=
  exactlyFollowing ++ [Encoding.base64Encoder, Encoding.base64Decoder]

theorem follows_of_mem_exactlyFollowing {operation : Operation} (h : operation ∈ exactlyFollowing)
    (args : List Argument) :
    ∃ there back, operation.Follows args there back ∧ Encloses there back ∧ Returns there back := by
  simp only [exactlyFollowing, List.mem_cons, List.not_mem_nil, or_false] at h
  have hwidth := Encoding.two_le_byteWidth args
  rcases h with rfl | rfl | rfl
  · exact ⟨_, _, LetterCase.follows_upperCase args, encloses_id, returns_id⟩
  · exact ⟨_, _, LetterCase.follows_lowerCase args, encloses_id, returns_id⟩
  · exact ⟨_, _, Encoding.follows_hexEncoder args, encloses_spread hwidth, returns_spread hwidth⟩

theorem follows_of_mem_following {operation : Operation} (h : operation ∈ following)
    (args : List Argument) :
    ∃ there back, operation.Follows args there back ∧ Encloses there back := by
  rcases List.mem_append.mp h with h | h
  · obtain ⟨there, back, hfollows, hencloses, -⟩ := follows_of_mem_exactlyFollowing h args
    exact ⟨there, back, hfollows, hencloses⟩
  · simp only [List.mem_cons, List.not_mem_nil, or_false] at h
    rcases h with rfl | rfl
    · exact ⟨_, _, Encoding.follows_base64Encoder args, encloses_regroup (by decide) (by decide)⟩
    · exact ⟨_, _, Encoding.follows_base64Decoder args, encloses_regroup (by decide) (by decide)⟩

/-! ## Recipes -/

/-- All enabled steps of a recipe bear names of some operations. -/
def Recipe.UsesOnly (recipe : Recipe) (operations : List Operation) : Prop :=
  ∀ step ∈ recipe.steps, step.disabled = false → step.operation ∈ operations.map Operation.name

instance (recipe : Recipe) (operations : List Operation) : Decidable (recipe.UsesOnly operations) :=
  inferInstanceAs (Decidable (∀ step ∈ recipe.steps, _))

namespace Plan

variable {recipe : Recipe} {plan : Plan} {operations : List Operation}

/-- The enabled steps of a plan run the operations that its recipe uses. -/
theorem operation_mem_of_usesOnly (hp : Registry.builtIn.prepare recipe = .ok plan)
    (huses : recipe.UsesOnly operations) (hbuiltIn : operations ⊆ builtInOperations) :
    ∀ step ∈ plan.passed .forward, plan.registry.operation step.operation ∈ operations := by
  intro step hstep
  obtain ⟨hmem, henabled⟩ := List.mem_filter.mp hstep
  obtain ⟨i, hi⟩ := List.mem_iff_getElem?.mp hmem
  obtain ⟨written, hwritten, hdisabled, hname⟩ := Registry.exists_written hp hi
  obtain ⟨-, hr, -, -⟩ := Registry.prepare_eq_ok hp
  have hdisabled : written.disabled = false := by
    rw [hdisabled]
    simpa using henabled
  obtain ⟨operation, hoperation, hsame⟩ :=
    List.mem_map.mp (huses written (List.mem_of_getElem? hwritten) hdisabled)
  rwa [operation_eq hr (hbuiltIn hoperation) (hname.symm.trans hsame.symm)]

/-- Ranges are mapped along a plan forward and back by maps of which holds what holds of the maps of all
operations in use. -/
theorem exists_maps {P : (ByteRange → ByteRange) → (ByteRange → ByteRange) → Prop} (hid : P id id)
    (hcomp : ∀ {there back there' back'}, P there back → P there' back' →
      P (there' ∘ there) (back ∘ back'))
    (hp : Registry.builtIn.prepare recipe = .ok plan) (huses : recipe.UsesOnly operations)
    (hbuiltIn : operations ⊆ builtInOperations)
    (h : ∀ operation ∈ operations, ∀ args, ∃ there back, operation.Follows args there back ∧ P there back) :
    ∃ there back, P there back ∧
      (∀ ranges, Registry.builtIn.highlight recipe .forward ranges = .ok (some (ranges.map there))) ∧
      ∀ ranges, Registry.builtIn.highlight recipe .backward ranges = .ok (some (ranges.map back)) := by
  have hsteps := operation_mem_of_usesOnly hp huses hbuiltIn
  obtain ⟨there, back, hP, hforward, hbackward⟩ :=
    exists_follows hid hcomp fun step hmem => h _ (hsteps step hmem) step.args
  refine ⟨there, back, hP, fun ranges => ?_, fun ranges => ?_⟩
  · rw [Registry.highlight, hp]
    exact congrArg Except.ok (hforward ranges)
  · rw [Registry.highlight, hp]
    exact congrArg Except.ok (hbackward ranges)

end Plan

private theorem exactlyFollowing_builtIn : exactlyFollowing ⊆ builtInOperations := by
  intro operation h
  simp only [exactlyFollowing, List.mem_cons, List.not_mem_nil, or_false] at h
  rcases h with rfl | rfl | rfl <;> simp [builtInOperations]

private theorem following_builtIn : following ⊆ builtInOperations := by
  intro operation h
  rcases List.mem_append.mp h with h | h
  · exact exactlyFollowing_builtIn h
  · simp only [List.mem_cons, List.not_mem_nil, or_false] at h
    rcases h with rfl | rfl <;> simp [builtInOperations]

/-- Ranges that are followed through a recipe of encoders, letter case and the decoder of Base64 are
found again within the ranges that come back; without Base64 they come back as they were. -/
theorem Registry.highlight_encloses {recipe : Recipe} {plan : Plan} {ranges : List ByteRange}
    (hp : builtIn.prepare recipe = .ok plan) (huses : recipe.UsesOnly following)
    (hranges : ∀ r ∈ ranges, r.start ≤ r.stop) :
    ∃ mapped back, builtIn.highlight recipe .forward ranges = .ok (some mapped) ∧
      mapped.length = ranges.length ∧ (∀ r ∈ mapped, r.start ≤ r.stop) ∧
      builtIn.highlight recipe .backward mapped = .ok (some back) ∧
      List.Forall₂ (fun r s : ByteRange => s.start ≤ r.start ∧ r.stop ≤ s.stop) ranges back ∧
      (recipe.UsesOnly exactlyFollowing → back = ranges) := by
  obtain ⟨there, back, hmaps, hforward, hbackward⟩ :=
    Plan.exists_maps encloses_id (fun h h' => h.comp h') hp huses following_builtIn
      fun operation hmem args => follows_of_mem_following hmem args
  refine ⟨_, _, hforward ranges, List.length_map _, ?_, hbackward _, ?_, fun hexact => ?_⟩
  · intro r hr
    obtain ⟨s, hs, rfl⟩ := List.mem_map.mp hr
    exact hmaps.ordered s (hranges s hs)
  · rw [List.map_map, List.forall₂_map_right_iff, List.forall₂_same]
    exact fun r hr => hmaps.within r (hranges r hr)
  · obtain ⟨there', back', hreturns, hforward', hbackward'⟩ :=
      Plan.exists_maps returns_id (fun h h' => h.comp h') hp hexact exactlyFollowing_builtIn
        fun operation hmem args => by
          obtain ⟨there, back, hfollows, -, hreturns⟩ := follows_of_mem_exactlyFollowing hmem args
          exact ⟨there, back, hfollows, hreturns⟩
    -- There is one answer each way, so the maps that return the ranges give the same lists.
    have hthere : ranges.map there = ranges.map there' :=
      Option.some.inj (Except.ok.inj ((hforward ranges).symm.trans (hforward' ranges)))
    have hback : (ranges.map there).map back = (ranges.map there).map back' :=
      Option.some.inj (Except.ok.inj ((hbackward _).symm.trans (hbackward' _)))
    have hsame : ranges.map (back' ∘ there') = ranges.map id :=
      List.map_congr_left fun r hr => hreturns.returns r (hranges r hr)
    rw [hback, hthere, List.map_map, hsame, List.map_id]

/-- Text in lower case as Base64, and that as hexadecimal; the digest is disabled. -/
def Recipe.doublyEncoded : Recipe :=
  ⟨1, [⟨"To Lower case", [], false, false⟩, ⟨"To Base64", [.text "URL safe"], false, false⟩,
    ⟨"To Hex", [.text "Colon"], false, false⟩, ⟨"SHA2", [], true, false⟩], .default⟩

/-- Capitals as hexadecimal. -/
def Recipe.capitalsInHex : Recipe :=
  ⟨1, [⟨"To Upper case", [], false, false⟩, ⟨"To Hex", [.text "Line feed"], false, false⟩], .default⟩

/-- A byte in the middle of a group and an empty range, which come back as they were where no groups
are formed. -/
theorem Registry.highlight_encloses_doublyEncoded :
    (∃ plan, builtIn.prepare .doublyEncoded = .ok plan) ∧
      (∃ plan, builtIn.prepare .capitalsInHex = .ok plan) ∧
      Recipe.doublyEncoded.UsesOnly following ∧ Recipe.capitalsInHex.UsesOnly exactlyFollowing ∧
      (∀ r ∈ [(⟨4, 5⟩ : ByteRange), ⟨2, 2⟩], r.start ≤ r.stop) ∧
      (∃ mapped back,
        builtIn.highlight .doublyEncoded .forward [⟨4, 5⟩, ⟨2, 2⟩] = .ok (some mapped) ∧
        builtIn.highlight .doublyEncoded .backward mapped = .ok (some back) ∧
        List.Forall₂ (fun r s : ByteRange => s.start ≤ r.start ∧ r.stop ≤ s.stop)
          [⟨4, 5⟩, ⟨2, 2⟩] back) ∧
      ∃ mapped, builtIn.highlight .capitalsInHex .forward [⟨4, 5⟩, ⟨2, 2⟩] = .ok (some mapped) ∧
        builtIn.highlight .capitalsInHex .backward mapped = .ok (some [⟨4, 5⟩, ⟨2, 2⟩]) := by
  obtain ⟨plan, hp⟩ : ∃ plan, builtIn.prepare .doublyEncoded = .ok plan := ⟨_, rfl⟩
  obtain ⟨other, hother⟩ : ∃ plan, builtIn.prepare .capitalsInHex = .ok plan := ⟨_, rfl⟩
  have huses : Recipe.doublyEncoded.UsesOnly following := by decide
  have hexact : Recipe.capitalsInHex.UsesOnly exactlyFollowing := by decide
  have hranges : ∀ r ∈ [(⟨4, 5⟩ : ByteRange), ⟨2, 2⟩], r.start ≤ r.stop := by decide
  refine ⟨⟨plan, hp⟩, ⟨other, hother⟩, huses, hexact, hranges, ?_, ?_⟩
  · obtain ⟨mapped, back, hforward, -, -, hbackward, hwithin, -⟩ :=
      highlight_encloses hp huses hranges
    exact ⟨mapped, back, hforward, hbackward, hwithin⟩
  · obtain ⟨mapped, back, hforward, -, -, hbackward, -, hsame⟩ :=
      highlight_encloses hother (by decide) hranges
    exact ⟨mapped, hforward, hsame hexact ▸ hbackward⟩

/-- Hexadecimal with a delimiter that is none of the options. -/
def Recipe.unknownDelimiter : Recipe :=
  ⟨1, [⟨"To Hex", [.text "Dot"], false, false⟩], .default⟩

/-- A recipe that is not accepted follows no range. -/
theorem Registry.not_highlight_unknownDelimiter :
    Recipe.unknownDelimiter.UsesOnly following ∧
      ∃ failure, builtIn.highlight .unknownDelimiter .forward [⟨0, 1⟩] = .error failure :=
  ⟨by decide, _, rfl⟩

end Kitchen
