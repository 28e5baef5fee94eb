import Kitchen.Proofs.Regex.Literal
import Kitchen.Proofs.Text.Search
import Std.Data.HashSet.Lemmas

/-!
# Searching for literal texts

The matcher of a literal text finds what a plain search for the text finds: its leftmost occurrence,
and from there on the next one that does not overlap.
-/

namespace Kitchen.Regex

open Text

theorem CharSet.has_single (c d : Char) : (CharSet.single c).has d = true ↔ d = c := by
  rw [← Char.toNat_inj, CodeRanges.has, CharSet.single, CodeRanges.contains, CodeRanges.contains]
  split
  · rw [decide_eq_true_iff]
    omega
  · constructor
    · intro h
      cases h
    · omega

namespace Run

/-- The pairs of instruction and position that runs have entered: those of earlier starts, and those
of the run from `start` before an instruction. -/
def Entered (entered : Std.HashSet (Nat × Nat)) (start pc : Nat) : Prop :=
  ∀ i position, (i, position) ∈ entered →
    position < start + i ∨ (position = start + i ∧ i < pc)

theorem entered_empty (start : Nat) : Entered ∅ start 0 := by
  intro i position h
  exact absurd h Std.HashSet.not_mem_empty

theorem Entered.insert {entered : Std.HashSet (Nat × Nat)} {start pc : Nat}
    (h : Entered entered start pc) : Entered (entered.insert (pc, start + pc)) start (pc + 1) := by
  intro i position hmem
  rw [Std.HashSet.mem_insert] at hmem
  rcases hmem with hpair | hmem
  · obtain ⟨rfl, rfl⟩ : pc = i ∧ start + pc = position := by simpa using hpair
    omega
  · have := h i position hmem
    omega

/-- No run from a later start meets a pair of an earlier one. -/
theorem Entered.not_contains {entered : Std.HashSet (Nat × Nat)} {start pc : Nat}
    (h : Entered entered start pc) : entered.contains (pc, start + pc) = false := by
  rw [← Bool.not_eq_true, ← Std.HashSet.mem_iff_contains]
  intro hmem
  have := h pc (start + pc) hmem
  omega

theorem Entered.next {entered : Std.HashSet (Nat × Nat)} {start pc : Nat}
    (h : Entered entered start pc) : Entered entered (start + 1) 0 := by
  intro i position hmem
  have := h i position hmem
  omega

variable {s : List Char} {start : Nat}

/-- A run over a literal text goes on as long as the characters are those of the text. -/
theorem next_literal (before : List Char) (c : Char) (after : List Char) (position : Nat)
    (saved : List (Nat × Nat)) :
    next (Matcher.literal (before ++ c :: after)).program s.toArray ⟨before.length, position, saved⟩ =
      if s[position]? = some c then [⟨before.length + 1, position + 1, saved⟩] else [] := by
  have hinstruction : (Matcher.literal (before ++ c :: after)).program[before.length]? =
      some (.take (.single c)) := by simp [Matcher.literal]
  rw [next, hinstruction]
  simp only [List.getElem?_toArray]
  cases s[position]? with
  | none => rfl
  | some d => simp only [Option.any_some, CharSet.has_single, Option.some.injEq]

/-- A run from a start matches if the literal text occurs there, and no later run has been foreseen. -/
theorem first?_literal (before after : List Char) (saved : List (Nat × Nat))
    {entered : Std.HashSet (Nat × Nat)} (hentered : Entered entered start before.length) {fuel : Nat}
    (hfuel : after.length < fuel) :
    ∃ last, Entered last (start + 1) 0 ∧
      first? (Matcher.literal (before ++ after)).program s.toArray fuel
        [⟨before.length, start + before.length, saved⟩] entered =
      ((afterPattern? (· == ·) after (s.drop (start + before.length))).map fun _ =>
        ⟨(before ++ after).length, start + (before ++ after).length, saved⟩, last) := by
  induction after generalizing before entered fuel with
  | nil =>
    obtain ⟨fuel, rfl⟩ : ∃ n, fuel = n + 1 := ⟨fuel - 1, by omega⟩
    refine ⟨entered, hentered.next, ?_⟩
    rw [List.append_nil, first?, if_pos (by simp [Matcher.literal]), afterPattern?, Option.map_some]
  | cons c after ih =>
    obtain ⟨fuel, rfl⟩ : ∃ n, fuel = n + 1 := ⟨fuel - 1, by omega⟩
    have hend : before.length ≠ (Matcher.literal (before ++ c :: after)).program.size := by
      simp [Matcher.literal]
    rw [first?, if_neg hend, hentered.not_contains, if_neg Bool.false_ne_true, next_literal,
      List.append_nil]
    have hinsert := hentered.insert
    have hhead : s[start + before.length]? = (s.drop (start + before.length)).head? := by
      rw [List.head?_drop]
    cases hdrop : s.drop (start + before.length) with
    | nil =>
      refine ⟨_, hinsert.next, ?_⟩
      rw [hhead, hdrop, List.head?_nil, if_neg (by simp)]
      cases fuel <;> rfl
    | cons d rest =>
      rw [hhead, hdrop, List.head?_cons, afterPattern?]
      by_cases hsame : d = c
      · subst hsame
        have hrest : s.drop (start + (before ++ [d]).length) = rest := by
          rw [List.length_append, ← Nat.add_assoc, ← List.drop_drop, hdrop]
          rfl
        have hlength : (before ++ [d]).length = before.length + 1 := List.length_append
        obtain ⟨last, hlast, hfirst⟩ := ih (before ++ [d]) (hlength ▸ hinsert)
          (Nat.lt_of_succ_lt_succ hfuel)
        rw [hrest, hlength, List.append_assoc, List.singleton_append] at hfirst
        rw [if_pos rfl, if_pos (beq_self_eq_true d)]
        exact ⟨last, hlast, hfirst⟩
      · rw [if_neg (by simpa using hsame), if_neg (by simpa using Ne.symm hsame)]
        refine ⟨_, hinsert.next, ?_⟩
        cases fuel <;> rfl

/-- The runs from a position on find the leftmost occurrence. -/
theorem firstFrom?_literal (pattern before rest : List Char) {entered : Std.HashSet (Nat × Nat)}
    (hentered : Entered entered before.length 0) {fuel : Nat} (hfuel : pattern.length < fuel) :
    firstFrom? (Matcher.literal pattern).program (before ++ rest).toArray fuel (rest.length + 1)
        before.length entered =
      (cut? (· == ·) pattern rest).map fun (passed, _) =>
        ⟨pattern.length, before.length + passed.length + pattern.length,
          [(0, before.length + passed.length)]⟩ := by
  induction rest generalizing before entered with
  | nil =>
    obtain ⟨last, -, hfirst⟩ := first?_literal (s := before ++ []) [] pattern [(0, before.length)]
      hentered hfuel
    rw [List.length_nil, Nat.add_zero, List.nil_append, List.drop_left] at hfirst
    rw [firstFrom?, startAt, hfirst, cut?]
    cases afterPattern? (· == ·) pattern [] <;> rfl
  | cons c rest ih =>
    obtain ⟨last, hlast, hfirst⟩ := first?_literal (s := before ++ c :: rest) [] pattern
      [(0, before.length)] hentered hfuel
    rw [List.length_nil, Nat.add_zero, List.nil_append, List.drop_left] at hfirst
    rw [firstFrom?, startAt, hfirst, cut?]
    cases afterPattern? (· == ·) pattern (c :: rest) with
    | some after => rfl
    | none =>
      have hlength : (before ++ [c]).length = before.length + 1 := List.length_append
      have hrest := ih (before ++ [c]) (hlength ▸ hlast)
      rw [List.append_assoc, List.singleton_append, hlength] at hrest
      have hadd (n : Nat) : before.length + 1 + n = before.length + (n + 1) := by omega
      simp only [hadd] at hrest
      refine hrest.trans ?_
      cases cut? (· == ·) pattern rest <;> rfl

end Run

/-- The leftmost match of a literal text from a position on is its leftmost occurrence. -/
theorem findFrom?_literal (pattern before rest : List Char) :
    findFrom? (Matcher.literal pattern).program 0 (before ++ rest).toArray before.length =
      (cut? (· == ·) pattern rest).map fun (passed, _) =>
        ⟨before.length + passed.length, before.length + passed.length + pattern.length, []⟩ := by
  have hcount : (before ++ rest).toArray.size + 1 - before.length = rest.length + 1 := by
    rw [List.size_toArray, List.length_append]
    omega
  have hfuel : pattern.length <
      2 * (Matcher.literal pattern).program.size * ((before ++ rest).toArray.size + 1) + 1 := by
    have hsize : (Matcher.literal pattern).program.size = pattern.length := by simp [Matcher.literal]
    have hle : 2 * pattern.length ≤ 2 * pattern.length * ((before ++ rest).toArray.size + 1) :=
      Nat.le_mul_of_pos_right _ (Nat.succ_pos _)
    rw [hsize]
    omega
  rw [findFrom?, hcount]
  simp only [Run.firstFrom?_literal pattern before rest (Run.entered_empty before.length) hfuel]
  cases cut? (· == ·) pattern rest <;> rfl

/-! ## Replacing -/

theorem slice_append (before middle after : List Char) :
    slice (before ++ (middle ++ after)).toArray before.length (before.length + middle.length) =
      middle := by
  simp [slice]

theorem slice_end (before rest : List Char) :
    slice (before ++ rest).toArray before.length (before ++ rest).toArray.size = rest := by
  simp [slice]

/-- The matches of a text that is not empty are replaced as the pieces between its occurrences are
joined. -/
theorem replaceMatches_findAllFrom {pattern : List Char} (hpattern : pattern ≠ []) (new before rest : List Char) {fuel : Nat}
    (hfuel : rest.length < fuel) (lastStop : Option Nat) :
    Matcher.replaceMatches (before ++ rest).toArray (fun _ => new) before.length
        (findAllFrom (Matcher.literal pattern).program 0 (before ++ rest).toArray fuel before.length
          lastStop) =
      joinWith new (splitOn (· == ·) pattern rest) := by
  have hlength : 0 < pattern.length := List.length_pos_iff.mpr hpattern
  induction fuel generalizing before rest lastStop with
  | zero => omega
  | succ fuel ih =>
    rw [findAllFrom, findFrom?_literal]
    cases hcut : cut? (· == ·) pattern rest with
    | none =>
      rw [splitOn_of_cut?_eq_none hcut]
      exact slice_end before rest
    | some found =>
      obtain ⟨passed, after⟩ := found
      have hrest := eq_append_of_cut? hcut
      have hnonempty : before.length + passed.length ≠
          before.length + passed.length + pattern.length := by omega
      have hstop : before.length + passed.length + pattern.length =
          (before ++ passed ++ pattern).length := by simp only [List.length_append]
      have htext : before ++ rest = before ++ passed ++ pattern ++ after := by
        simp only [hrest, List.append_assoc]
      have hleft : after.length < fuel := by
        rw [hrest] at hfuel
        simp only [List.length_append] at hfuel
        omega
      have hafter := ih (before ++ passed ++ pattern) after hleft
        (some (before ++ passed ++ pattern).length)
      have hpassed := slice_append before passed (pattern ++ after)
      rw [← List.append_assoc passed, ← hrest] at hpassed
      simp only [Option.map_some, decide_eq_false hnonempty, Bool.false_and, Bool.false_eq_true,
        if_false, Matcher.replaceMatches, hpassed]
      rw [splitOn_of_cut?_eq_some hpattern hcut,
        joinWith_cons_of_ne_nil new passed (splitOn_ne_nil _ pattern after), hstop, htext, hafter]

theorem findFrom?_nil (before rest : List Char) :
    findFrom? (Matcher.literal []).program 0 (before ++ rest).toArray before.length =
      some ⟨before.length, before.length, []⟩ := by
  rw [findFrom?_literal, cut?_nil]
  rfl

theorem findFrom?_of_size_lt (program : Array Instruction) (groupCount : Nat) {text : Array Char}
    {start : Nat} (h : text.size < start) : findFrom? program groupCount text start = none := by
  rw [findFrom?, Nat.sub_eq_zero_of_le h]
  rfl

/-- Where the empty text has been replaced, it is replaced again behind every character that
follows. -/
theorem replaceMatches_findAllFrom_nil (new before rest : List Char) (fuel : Nat)
    (hfuel : 2 * rest.length + 1 < fuel) :
    Matcher.replaceMatches (before ++ rest).toArray (fun _ => new) before.length
        (findAllFrom (Matcher.literal []).program 0 (before ++ rest).toArray fuel before.length
          (some before.length)) =
      rest.flatMap (· :: new) := by
  induction rest generalizing before fuel with
  | nil =>
    obtain ⟨fuel, rfl⟩ : ∃ n, fuel = n + 2 := ⟨fuel - 2, by simp at hfuel; omega⟩
    have hsize : (before ++ []).toArray.size < before.length + 1 := by simp
    rw [findAllFrom, findFrom?_nil]
    simp only [decide_true, BEq.rfl, Bool.and_self, if_true]
    rw [findAllFrom, findFrom?_of_size_lt _ _ hsize]
    exact slice_end before []
  | cons c rest ih =>
    rw [List.length_cons] at hfuel
    obtain ⟨fuel, rfl⟩ : ∃ n, fuel = n + 2 := ⟨fuel - 2, by omega⟩
    have hnext : (before ++ [c]).length = before.length + 1 := List.length_append
    have hfound := findFrom?_nil (before ++ [c]) rest
    have hafter := ih (before ++ [c]) fuel (by omega)
    have hslice := slice_append before [c] rest
    rw [List.append_assoc, List.singleton_append, hnext] at hfound hafter
    rw [List.singleton_append, List.length_singleton] at hslice
    have hmoved : (some before.length == some (before.length + 1)) = false := by simp
    rw [findAllFrom, findFrom?_nil]
    simp only [decide_true, BEq.rfl, Bool.and_self, if_true]
    rw [findAllFrom, hfound]
    simp only [decide_true, hmoved, Bool.and_false, Bool.false_eq_true, if_false,
      Matcher.replaceMatches, hslice, hafter]
    simp

/-- All matches of a literal text are replaced as all its occurrences are. -/
theorem replaceMatches_everywhere (pattern new s : List Char) :
    Matcher.replaceMatches s.toArray (fun _ => new) 0 ((Matcher.literal pattern).findAll s.toArray true) =
      replaceAll pattern new s := by
  have hgroups : (Matcher.literal pattern).groupNames.length = 0 := rfl
  rw [Matcher.findAll, if_pos rfl, hgroups, replaceAll, List.size_toArray]
  cases pattern with
  | nil =>
    have hafter := replaceMatches_findAllFrom_nil new [] s (2 * s.length + 2) (by omega)
    have hfound := findFrom?_nil [] s
    rw [List.nil_append, List.length_nil] at hfound hafter
    rw [List.isEmpty_nil, if_pos rfl, findAllFrom, hfound, interleave_eq]
    simp [Matcher.replaceMatches, slice, hafter]
  | cons c pattern =>
    exact replaceMatches_findAllFrom (List.cons_ne_nil c pattern) new [] s (by omega) none

/-- The first match of a literal text is replaced as its first occurrence is. -/
theorem replaceMatches_first (pattern new s : List Char) :
    Matcher.replaceMatches s.toArray (fun _ => new) 0 ((Matcher.literal pattern).findAll s.toArray false) =
      replaceFirst pattern new s := by
  have hfind := findFrom?_literal pattern [] s
  rw [List.nil_append, List.length_nil] at hfind
  have hgroups : (Matcher.literal pattern).groupNames.length = 0 := rfl
  rw [Matcher.findAll, if_neg Bool.false_ne_true, Matcher.findFrom?, hgroups, hfind, replaceFirst]
  cases hcut : cut? (· == ·) pattern s with
  | none => exact slice_end [] s
  | some found =>
    obtain ⟨passed, after⟩ := found
    have hs := eq_append_of_cut? hcut
    have hpassed := slice_append [] passed (pattern ++ after)
    have hafter := slice_end (passed ++ pattern) after
    rw [List.nil_append, ← List.append_assoc, ← hs, List.length_nil] at hpassed
    rw [← hs, List.length_append] at hafter
    simp only [Option.map_some, Option.toList_some, Matcher.replaceMatches, Nat.zero_add] at hpassed ⊢
    rw [hpassed, hafter]

/-- The matches of a literal text are replaced as its occurrences are. -/
theorem replaceVerbatim_literal (pattern : List Char) (text new : String) (everywhere : Bool) :
    (Matcher.literal pattern).replaceVerbatim text new everywhere =
      String.ofList (if everywhere then replaceAll pattern new.toList text.toList
        else replaceFirst pattern new.toList text.toList) := by
  cases everywhere with
  | true => exact congrArg String.ofList (replaceMatches_everywhere pattern new.toList text.toList)
  | false => exact congrArg String.ofList (replaceMatches_first pattern new.toList text.toList)

end Kitchen.Regex
