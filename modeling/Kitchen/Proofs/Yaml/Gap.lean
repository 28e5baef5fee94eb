import Kitchen.Yaml.Printer

/-!
# Gaps between words

Spaces within a line, and line breaks with the margin of the next line behind them, are read to the
start of the next word. Spaces are kept and breaks are kept, but margins are not.
-/

namespace Kitchen.Yaml

/-! ## Characters -/

theorem isBlank_of_isWritable {c : Char} (h : isWritable c = true) : isBlank c = (c == ' ') := by
  have htab : c ≠ '\t' := by
    rintro rfl
    exact absurd h (by decide)
  simp [isBlank, htab]

theorem isWritable_of_range (low high : Char) {c : Char} (hlow : low ≤ c) (hhigh : c ≤ high)
    (hspace : ' ' ≤ low) (htilde : high ≤ '~') : isWritable c = true := by
  have hle : ' ' ≤ c := Char.le_trans hspace hlow
  have hge : c ≤ '~' := Char.le_trans hhigh htilde
  simp [isWritable, hle, hge]

/-- The line breaks that can be written as they are. -/
theorem break_cases {c : Char} (hwritable : isWritable c = true) (hbreak : isBreak c = true) :
    c = '\n' ∨ c = '\u2028' ∨ c = '\u2029' := by
  simp only [isBreak, Bool.or_eq_true, beq_iff_eq] at hbreak
  rcases hbreak with (((rfl | rfl) | rfl) | rfl) | rfl
  · exact .inl rfl
  · exact absurd hwritable (by decide)
  · exact absurd hwritable (by decide)
  · exact .inr (.inl rfl)
  · exact .inr (.inr rfl)

theorem isBlank_of_isBreak {c : Char} (h : isBreak c = true) : isBlank c = false := by
  simp only [isBreak, Bool.or_eq_true, beq_iff_eq] at h
  rcases h with (((rfl | rfl) | rfl) | rfl) | rfl <;> rfl

/-- A text that is empty or begins with neither a blank nor a break. -/
def StartsWord (s : List Char) : Prop := ∀ c, s.head? = some c → isBlank c = false ∧ isBreak c = false

theorem startsWord_cons {c : Char} {s : List Char} (hblank : isBlank c = false) (hbreak : isBreak c = false) :
    StartsWord (c :: s) := by
  rintro d hd
  obtain rfl := Option.some.inj hd
  exact ⟨hblank, hbreak⟩

/-! ## Places -/

namespace Cursor

@[simp] theorem rest_skip (cursor : Cursor) (n : Nat) : (cursor.skip n).rest = cursor.rest.drop n := rfl

@[simp] theorem line_skip (cursor : Cursor) (n : Nat) : (cursor.skip n).line = cursor.line := rfl

@[simp] theorem column_skip (cursor : Cursor) (n : Nat) : (cursor.skip n).column = cursor.column + n := rfl

@[simp] theorem rest_next (cursor : Cursor) : cursor.next.rest = cursor.rest.tail :=
  List.drop_one

@[simp] theorem rest_newLine (cursor : Cursor) (n : Nat) : (cursor.newLine n).rest = cursor.rest.drop n := rfl

@[simp] theorem line_newLine (cursor : Cursor) (n : Nat) : (cursor.newLine n).line = cursor.line + 1 := rfl

theorem skip_zero (cursor : Cursor) : cursor.skip 0 = cursor := rfl

theorem skip_skip (cursor : Cursor) (m n : Nat) : (cursor.skip m).skip n = cursor.skip (m + n) := by
  simp [skip, Nat.add_assoc]

theorem skip_next (cursor : Cursor) (n : Nat) : cursor.next.skip n = cursor.skip (n + 1) := by
  simp [next, skip, Nat.add_comm, Nat.add_left_comm]

/-- A break that is written as it is, is read as itself. -/
theorem readBreak_eq {cursor : Cursor} {c : Char} {s : List Char} (hrest : cursor.rest = c :: s)
    (hwritable : isWritable c = true) (hbreak : isBreak c = true) :
    cursor.readBreak = ([c], cursor.newLine 1) := by
  rw [readBreak.eq_def, hrest]
  rcases break_cases hwritable hbreak with rfl | rfl | rfl <;> rfl

end Cursor

/-! ## Reading gaps -/

namespace Gap

variable {s : List Char} (indent : Option Nat)

/-- Spaces are read to the start of a word. They count unless a line has ended before them. -/
theorem read_spaces (hs : StartsWord s) (k : Nat) :
    ∀ {fuel : Nat} {gap : Gap} {cursor : Cursor}, cursor.rest = List.replicate k ' ' ++ s → k ≤ fuel →
      gap.read indent fuel cursor =
        some (if gap.broken then gap else { gap with blanks := gap.blanks ++ List.replicate k ' ' },
          cursor.skip k) := by
  induction k with
  | zero =>
    intro fuel gap cursor hrest _
    have hgap : (if gap.broken then gap else { gap with blanks := gap.blanks ++ List.replicate 0 ' ' }) = gap := by
      simp
    rw [hgap, Cursor.skip_zero]
    cases fuel with
    | zero => rfl
    | succ fuel =>
      rw [read, Cursor.peek?, hrest, List.replicate_zero, List.nil_append]
      cases hhead : s.head? with
      | none => rfl
      | some c =>
        obtain ⟨hblank, hbreak⟩ := hs c hhead
        simp [hblank, hbreak]
  | succ k ih =>
    intro fuel gap cursor hrest hfuel
    obtain ⟨fuel, rfl⟩ : ∃ less, fuel = less + 1 := ⟨fuel - 1, by omega⟩
    have hnext : cursor.next.rest = List.replicate k ' ' ++ s := by simp [hrest, List.replicate_succ]
    have hpeek : cursor.peek? = some ' ' := by simp [Cursor.peek?, hrest, List.replicate_succ]
    have hblank : isBlank ' ' = true := rfl
    have htab : ((' ' == '\t') && indent.any (cursor.column < ·)) = false := rfl
    rw [read, hpeek]
    simp only [hblank, if_true, htab, Bool.false_eq_true, if_false]
    split
    case isTrue hbroken => rw [ih hnext (by omega), if_pos hbroken, Cursor.skip_next]
    case isFalse hbroken =>
      rw [ih hnext (by omega), if_neg hbroken, Cursor.skip_next, List.append_assoc,
        List.singleton_append, ← List.replicate_succ]

/-- Spaces between two words of a line. -/
theorem read_between (hs : StartsWord s) (k fuel : Nat) {cursor : Cursor}
    (hrest : cursor.rest = List.replicate k ' ' ++ s) (hfuel : k ≤ fuel) :
    Gap.empty.read indent fuel cursor =
      some ({ Gap.empty with blanks := List.replicate k ' ' }, cursor.skip k) :=
  read_spaces indent hs k hrest hfuel

/-- Breaks after the first, and the margin behind the last. -/
private theorem read_moreBreaks (hs : StartsWord s) (margin : Nat) (breaks : List Char)
    (hbreaks : ∀ c ∈ breaks, isWritable c = true ∧ isBreak c = true) :
    ∀ (fuel : Nat) (gap : Gap) (cursor : Cursor), gap.broken = true →
      cursor.rest = breaks ++ List.replicate margin ' ' ++ s → breaks.length + margin ≤ fuel →
      cursor.column = 0 →
      ∃ after, gap.read indent fuel cursor = some ({ gap with moreBreaks := gap.moreBreaks ++ breaks }, after) ∧
        after.rest = s ∧ cursor.line ≤ after.line ∧ after.column = margin := by
  induction breaks with
  | nil =>
    intro fuel gap cursor hbroken hrest hfuel hcolumn
    rw [List.nil_append] at hrest
    refine ⟨cursor.skip margin, ?_, by simp [hrest], Nat.le_refl _, by simp [hcolumn]⟩
    rw [read_spaces indent hs margin hrest (by simpa using hfuel), if_pos hbroken, List.append_nil]
  | cons c breaks ih =>
    intro fuel gap cursor hbroken hrest hfuel hcolumn
    obtain ⟨hwritable, hbreak⟩ := hbreaks c List.mem_cons_self
    obtain ⟨fuel, rfl⟩ : ∃ less, fuel = less + 1 := ⟨fuel - 1, by simp at hfuel; omega⟩
    have hpeek : cursor.peek? = some c := by simp [Cursor.peek?, hrest]
    have hread := cursor.readBreak_eq hrest hwritable hbreak
    obtain ⟨after, hafter, hrestAfter, hline, hcolumnAfter⟩ :=
      ih (fun d hd => hbreaks d (List.mem_cons_of_mem c hd)) fuel
        { gap with moreBreaks := gap.moreBreaks ++ [c] } (cursor.newLine 1) hbroken (by simp [hrest]) (by simp at hfuel; omega) rfl
    refine ⟨after, ?_, hrestAfter, Nat.le_of_succ_le hline, hcolumnAfter⟩
    rw [List.append_assoc, List.singleton_append] at hafter
    rw [read, hpeek]
    simp only [isBlank_of_isBreak hbreak, hbreak, Bool.false_eq_true, if_false, if_true, hread, hbroken]
    rw [hbroken] at hafter
    exact hafter

/-- Line breaks and a margin are read to the start of a word. -/
theorem read_breaks (hs : StartsWord s) (margin : Nat) {first : Char} {breaks : List Char}
    (hfirst : isWritable first = true ∧ isBreak first = true)
    (hbreaks : ∀ c ∈ breaks, isWritable c = true ∧ isBreak c = true) (fuel : Nat) {cursor : Cursor}
    (hrest : cursor.rest = first :: breaks ++ List.replicate margin ' ' ++ s)
    (hfuel : (first :: breaks).length + margin ≤ fuel) :
    ∃ after, Gap.empty.read indent fuel cursor = some (⟨[], [first], breaks, true⟩, after) ∧
      after.rest = s ∧ cursor.line < after.line ∧ after.column = margin := by
  obtain ⟨fuel, rfl⟩ : ∃ less, fuel = less + 1 := ⟨fuel - 1, by simp at hfuel; omega⟩
  have hpeek : cursor.peek? = some first := by simp [Cursor.peek?, hrest]
  have hread := cursor.readBreak_eq hrest hfirst.1 hfirst.2
  obtain ⟨after, hafter, hrestAfter, hline, hcolumn⟩ :=
    read_moreBreaks indent hs margin breaks hbreaks fuel ⟨[], [first], [], true⟩ (cursor.newLine 1) rfl (by simp [hrest]) (by simp at hfuel; omega) rfl
  refine ⟨after, ?_, hrestAfter, hline, hcolumn⟩
  rw [read, hpeek]
  simp only [isBlank_of_isBreak hfirst.2, hfirst.2, Bool.false_eq_true, if_false, if_true, hread, empty]
  exact hafter

end Gap
end Kitchen.Yaml
