import Kitchen.Text.Search
import Mathlib.Data.List.Basic

/-!
# Splitting and joining

The pieces of a list between the occurrences of a pattern, joined with the pattern, are the list
again, however the occurrences overlap, repeat or touch the ends. Joined with another list they are
the list with every occurrence replaced. Characters of some kind may also stand at any places of a
text: whoever leaves them out reads the text as it was.
-/

namespace Kitchen.Text

variable {α : Type}

theorem joinWith_eq_intercalate (separator : List α) (pieces : List (List α)) :
    joinWith separator pieces = separator.intercalate pieces := by
  fun_induction joinWith separator pieces with
  | case1 => rfl
  | case2 => simp
  | case3 piece rest hrest ih =>
    cases rest with
    | nil => exact absurd rfl hrest
    | cons next rest => rw [ih, List.intercalate_cons_cons]

/-- Pieces joined with nothing between them follow one another. -/
theorem joinWith_nil_eq_flatten (pieces : List (List α)) : joinWith [] pieces = pieces.flatten := by
  fun_induction joinWith [] pieces with
  | case1 => rfl
  | case2 piece => simp
  | case3 piece rest _ ih => rw [ih, List.append_nil, List.flatten_cons]

theorem joinWith_cons_of_ne_nil (separator piece : List α) {rest : List (List α)} (h : rest ≠ []) :
    joinWith separator (piece :: rest) = piece ++ separator ++ joinWith separator rest := by
  cases rest with
  | nil => exact absurd rfl h
  | cons next rest => rfl

theorem splitOn_ne_nil (same : α → α → Bool) (pattern s : List α) : splitOn same pattern s ≠ [] := by
  rw [splitOn]
  split
  · simp
  · split <;> simp

/-! ## Separators -/

section Separators

variable {test : α → Bool}

theorem splitAt_ne_nil (s : List α) : splitAt test s ≠ [] := by
  cases s with
  | nil => simp [splitAt]
  | cons c s =>
    rw [splitAt]
    split
    · simp
    · split <;> simp

/-- No separator is in a piece. -/
theorem of_mem_splitAt {s piece : List α} (h : piece ∈ splitAt test s) {c : α} (hc : c ∈ piece) :
    test c = false := by
  induction s generalizing piece with
  | nil =>
    obtain rfl : piece = [] := by simpa [splitAt] using h
    simp at hc
  | cons d s ih =>
    rw [splitAt] at h
    cases hd : test d with
    | true =>
      rw [hd, if_pos rfl] at h
      rcases List.mem_cons.mp h with rfl | h
      · simp at hc
      · exact ih h hc
    | false =>
      rw [hd, if_neg Bool.false_ne_true] at h
      cases hs : splitAt test s with
      | nil => exact absurd hs (splitAt_ne_nil s)
      | cons first rest =>
        rw [hs] at h ih
        rcases List.mem_cons.mp h with rfl | h
        · rcases List.mem_cons.mp hc with rfl | hc
          · exact hd
          · exact ih List.mem_cons_self hc
        · exact ih (List.mem_cons_of_mem _ h) hc

theorem splitAt_of_forall {s : List α} (h : ∀ c ∈ s, test c = false) : splitAt test s = [s] := by
  induction s with
  | nil => rfl
  | cons c s ih =>
    obtain ⟨hc, hs⟩ := List.forall_mem_cons.mp h
    rw [splitAt, hc, if_neg Bool.false_ne_true, ih hs]

theorem splitAt_append {separator : α} (h : test separator = true) (s t : List α) :
    splitAt test (s ++ separator :: t) = splitAt test s ++ splitAt test t := by
  induction s with
  | nil => simp only [List.nil_append, splitAt, h, if_true, List.singleton_append]
  | cons c s ih =>
    rw [List.cons_append, splitAt, splitAt, ih]
    split
    · rfl
    · cases hs : splitAt test s with
      | nil => exact absurd hs (splitAt_ne_nil s)
      | cons first rest => rfl

/-- What is split at separators and joined has each separator replaced. -/
theorem joinWith_splitAt (new s : List α) :
    joinWith new (splitAt test s) = s.flatMap fun c => if test c then new else [c] := by
  induction s with
  | nil => rfl
  | cons c s ih =>
    rw [splitAt, List.flatMap_cons, ← ih]
    cases hs : splitAt test s with
    | nil => exact absurd hs (splitAt_ne_nil s)
    | cons first rest =>
      split
      · rfl
      · cases rest <;> rfl

/-- Pieces without separators are what their join is split into. -/
theorem splitAt_joinWith {separator : α} (h : test separator = true) {pieces : List (List α)}
    (hne : pieces ≠ []) (hpieces : ∀ piece ∈ pieces, ∀ c ∈ piece, test c = false) :
    splitAt test (joinWith [separator] pieces) = pieces := by
  induction pieces with
  | nil => exact absurd rfl hne
  | cons piece rest ih =>
    obtain ⟨hpiece, hrest⟩ := List.forall_mem_cons.mp hpieces
    cases rest with
    | nil => exact splitAt_of_forall hpiece
    | cons next rest =>
      rw [joinWith_cons_of_ne_nil _ _ (List.cons_ne_nil next rest), List.append_assoc,
        List.singleton_append, splitAt_append h, splitAt_of_forall hpiece,
        ih (List.cons_ne_nil next rest) hrest, List.singleton_append]

/-- What is split at an element, joined with it, is the list. -/
theorem joinWith_splitAt_beq [BEq α] [LawfulBEq α] (c : α) (s : List α) :
    joinWith [c] (splitAt (· == c) s) = s := by
  have hkept : (fun d => if d == c then [c] else [d]) = fun d => [d] := by
    funext d
    split
    case isTrue hd => rw [eq_of_beq hd]
    case isFalse => rfl
  rw [joinWith_splitAt, hkept, List.flatMap_singleton']

end Separators

/-! ## Occurrences -/

section Cut

variable {same : α → α → Bool} {pattern s before after : List α}

theorem splitOn_of_cut?_eq_none (h : cut? same pattern s = none) :
    splitOn same pattern s = [s] := by
  rw [splitOn]
  split
  · rfl
  · split
    · rfl
    · rename_i hcut
      cases hcut.symm.trans h

theorem splitOn_of_cut?_eq_some (hpattern : pattern ≠ [])
    (h : cut? same pattern s = some (before, after)) :
    splitOn same pattern s = before :: splitOn same pattern after := by
  rw [splitOn, dif_neg hpattern]
  split
  · rename_i hcut
    cases hcut.symm.trans h
  · rename_i hcut
    obtain ⟨rfl, rfl⟩ := Prod.mk.inj (Option.some.inj (hcut.symm.trans h))
    rfl

/-- The empty list occurs at once. -/
theorem cut?_nil (s : List α) : cut? same [] s = some ([], s) := by
  cases s <;> rfl

end Cut

/-- A list with a separator before, between and after all its elements: what replacing the empty
pattern gives. -/
def interleave (new : List α) : List α → List α
  | [] => new
  | c :: s => new ++ c :: interleave new s

theorem interleave_eq (new s : List α) : interleave new s = new ++ s.flatMap (· :: new) := by
  induction s with
  | nil => exact (List.append_nil new).symm
  | cons c s ih => rw [interleave, ih, List.flatMap_cons, List.cons_append]

variable [BEq α] [LawfulBEq α]

theorem eq_append_of_afterPattern? {pattern s rest : List α}
    (h : afterPattern? (· == ·) pattern s = some rest) : s = pattern ++ rest := by
  fun_induction afterPattern? (· == ·) pattern s with
  | case1 => simp_all
  | case2 => simp at h
  | case3 p ps c s hsame ih =>
    have hc : p = c := by simpa using hsame
    rw [hc, ih h, List.cons_append]
  | case4 => simp at h

theorem eq_append_of_cut? {pattern s before after : List α}
    (h : cut? (· == ·) pattern s = some (before, after)) : s = before ++ pattern ++ after := by
  induction s generalizing before with
  | nil =>
    simp only [cut?, Option.map_eq_some_iff, Prod.mk.injEq] at h
    obtain ⟨rest, hrest, rfl, rfl⟩ := h
    exact eq_append_of_afterPattern? hrest
  | cons c s ih =>
    rw [cut?] at h
    split at h
    · rename_i rest hrest
      obtain ⟨rfl, rfl⟩ : [] = before ∧ rest = after := by simpa using h
      exact eq_append_of_afterPattern? hrest
    · simp only [Option.map_eq_some_iff, Prod.mk.injEq] at h
      obtain ⟨⟨passed, after⟩, hcut, rfl, rfl⟩ := h
      have hs := ih hcut
      simp [hs]

/-- What a list is split into, joined with the pattern, is the list. -/
theorem joinWith_splitOn (pattern s : List α) :
    joinWith pattern (splitOn (· == ·) pattern s) = s := by
  fun_induction splitOn (· == ·) pattern s with
  | case1 => rfl
  | case2 => rfl
  | case3 s _ before after hcut ih =>
    have hs := eq_append_of_cut? hcut
    have hne := splitOn_ne_nil (· == ·) pattern after
    rw [joinWith_cons_of_ne_nil pattern before hne, ih, hs]

/-! ## Replacing -/

/-- Replaces every occurrence of a pattern. -/
def replaceAll (pattern new s : List α) : List α :=
  if pattern.isEmpty then interleave new s else joinWith new (splitOn (· == ·) pattern s)

/-- Replaces the first occurrence of a pattern. -/
def replaceFirst (pattern new s : List α) : List α :=
  match cut? (· == ·) pattern s with
  | none => s
  | some (before, after) => before ++ new ++ after

omit [LawfulBEq α] in
theorem splitOn_singleton (c : α) (s : List α) : splitOn (· == ·) [c] s = splitAt (c == ·) s := by
  induction s with
  | nil => rw [splitOn_of_cut?_eq_none rfl, splitAt]
  | cons d s ih =>
    cases hsame : c == d with
    | true =>
      have hcut : cut? (· == ·) [c] (d :: s) = some ([], s) := by simp [cut?, afterPattern?, hsame]
      rw [splitOn_of_cut?_eq_some (List.cons_ne_nil _ _) hcut, ih, splitAt, hsame, if_pos rfl]
    | false =>
      have hcut : cut? (· == ·) [c] (d :: s) =
          (cut? (· == ·) [c] s).map fun parts => (d :: parts.1, parts.2) := by
        simp [cut?, afterPattern?, hsame]
      rw [splitAt, hsame, if_neg Bool.false_ne_true, ← ih]
      cases hrest : cut? (· == ·) [c] s with
      | none =>
        rw [hrest] at hcut
        rw [splitOn_of_cut?_eq_none hcut, splitOn_of_cut?_eq_none hrest]
      | some parts =>
        rw [hrest] at hcut
        rw [splitOn_of_cut?_eq_some (List.cons_ne_nil _ _) hcut,
          splitOn_of_cut?_eq_some (List.cons_ne_nil _ _) hrest]

omit [LawfulBEq α] in
/-- One character is replaced wherever it stands. -/
theorem replaceAll_singleton (c : α) (new s : List α) :
    replaceAll [c] new s = s.flatMap fun d => if c == d then new else [d] := by
  rw [replaceAll, List.isEmpty_cons, if_neg Bool.false_ne_true, splitOn_singleton, joinWith_splitAt]

section Noise

/-- The second text is the first one with characters of a kind put in at any places. -/
inductive Sprinkled (noise : Char → Prop) : List Char → List Char → Prop where
  | nil : Sprinkled noise [] []
  | keep (c : Char) {s t : List Char} : Sprinkled noise s t → Sprinkled noise (c :: s) (c :: t)
  | insert {c : Char} {s t : List Char} (h : noise c) : Sprinkled noise s t → Sprinkled noise s (c :: t)

theorem Sprinkled.filter_eq {noise : Char → Prop} {keeps : Char → Bool} {s t : List Char}
    (h : Sprinkled noise s t) (hnoise : ∀ c, noise c → keeps c = false) :
    t.filter keeps = s.filter keeps := by
  induction h with
  | nil => rfl
  | keep c _ ih => rw [List.filter_cons, List.filter_cons, ih]
  | insert hc _ ih =>
    have hdropped := hnoise _ hc
    rw [List.filter_cons_of_neg (by simp [hdropped]), ih]

/-- Written out character by character a text is no shorter. -/
theorem length_le_flatMap {written : Char → List Char} (h : ∀ c, written c ≠ []) (s : List Char) :
    s.length ≤ (s.flatMap written).length := by
  induction s with
  | nil => exact Nat.le_refl _
  | cons c s ih =>
    have hpos : 0 < (written c).length := List.length_pos_iff.mpr (h c)
    rw [List.flatMap_cons, List.length_append, List.length_cons]
    omega

end Noise

end Kitchen.Text
