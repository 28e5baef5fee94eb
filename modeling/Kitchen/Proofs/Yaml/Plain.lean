import Kitchen.Proofs.Yaml.Gap

/-!
# Plain scalars read back

A text that can be written plain is read to its end, word by word. It ends at the end of its line, and
the margin of the next line is passed.
-/

namespace Kitchen.Yaml

/-! ## Words -/

/-- A text begins with a run of characters that pass a test and goes on with one that does not. -/
theorem exists_span (test : Char → Bool) (s : List Char) :
    ∃ run tail, s = run ++ tail ∧ (∀ c ∈ run, test c = true) ∧
      ∀ c, tail.head? = some c → test c = false := by
  induction s with
  | nil => exact ⟨[], [], rfl, by simp, by simp⟩
  | cons c s ih =>
    by_cases hc : test c = true
    · obtain ⟨run, tail, rfl, hrun, htail⟩ := ih
      exact ⟨c :: run, tail, rfl, List.forall_mem_cons.mpr ⟨hc, hrun⟩, htail⟩
    · exact ⟨[], c :: s, rfl, by simp, by simpa using hc⟩

/-- A text is a word, spaces behind it, and a rest that begins with none. -/
theorem exists_word (s : List Char) :
    ∃ word k rest, s = word ++ List.replicate k ' ' ++ rest ∧ ' ' ∉ word ∧ rest.head? ≠ some ' ' ∧
      (k = 0 → rest = []) := by
  obtain ⟨word, tail, rfl, hword, hstop⟩ := exists_span (· != ' ') s
  obtain ⟨spaces, rest, rfl, hspaces, hrest⟩ := exists_span (· == ' ') tail
  have hreplicate : spaces = List.replicate spaces.length ' ' :=
    List.eq_replicate_of_mem fun c hc => by simpa using hspaces c hc
  refine ⟨word, spaces.length, rest, ?_, fun hmem => ?_, fun hhead => ?_, fun hzero => ?_⟩
  · rw [← hreplicate, List.append_assoc]
  · simpa using hword ' ' hmem
  · simpa using hrest ' ' hhead
  · obtain rfl := List.length_eq_zero_iff.mp hzero
    cases rest with
    | nil => rfl
    | cons c rest =>
      have hspace : c = ' ' := by simpa using hstop c rfl
      exact absurd hspace (by simpa using hrest c rfl)

/-! ## Neighbours -/

section Neighbours

variable {test : Char → Char → Bool}

theorem anyNeighbours_append_right {s t : List Char} (h : anyNeighbours test (s ++ t) = false) :
    anyNeighbours test t = false := by
  induction s with
  | nil => exact h
  | cons c s ih =>
    refine ih ?_
    cases hst : s ++ t with
    | nil => rfl
    | cons d rest =>
      rw [List.cons_append, hst, anyNeighbours, Bool.or_eq_false_iff] at h
      exact h.2

/-- No neighbours inside a text pass the test. -/
theorem not_test_of_anyNeighbours {s t : List Char} {a b : Char}
    (h : anyNeighbours test (s ++ a :: b :: t) = false) : test a b = false := by
  have hright := anyNeighbours_append_right h
  rw [anyNeighbours, Bool.or_eq_false_iff] at hright
  exact hright.1

end Neighbours

/-! ## Runs -/

/-- A run of a plain scalar ends before a text. -/
def EndsRun (s : List Char) : Prop :=
  ∀ fuel cursor, cursor.rest = s → readPlainRun false (fuel + 1) cursor = some ([], cursor)

theorem endsRun_of_gap {c : Char} (h : (isBlank c || isBreak c) = true) (s : List Char) :
    EndsRun (c :: s) := by
  intro fuel cursor hrest
  rw [readPlainRun, hrest]
  simp only [h, if_true]

theorem endsRun_of_colon {s : List Char} (h : isBoundary s.head? = true) : EndsRun (':' :: s) := by
  intro fuel cursor hrest
  rw [readPlainRun, hrest]
  simp [h, isBlank, isBreak]

/-- A word without a colon at its end is read up to where the run ends. -/
theorem readPlainRun_append {word s : List Char}
    (hword : ∀ c ∈ word, isBlank c = false ∧ isBreak c = false) (hcolon : word.getLast? ≠ some ':')
    (hs : EndsRun s) :
    ∀ (fuel : Nat) (cursor : Cursor), cursor.rest = word ++ s → word.length < fuel →
      readPlainRun false fuel cursor = some (word, cursor.skip word.length) := by
  induction word with
  | nil =>
    intro fuel cursor hrest hfuel
    obtain ⟨fuel, rfl⟩ : ∃ less, fuel = less + 1 := ⟨fuel - 1, by omega⟩
    exact hs fuel cursor hrest
  | cons c word ih =>
    intro fuel cursor hrest hfuel
    obtain ⟨fuel, rfl⟩ : ∃ less, fuel = less + 1 := ⟨fuel - 1, by omega⟩
    obtain ⟨hblank, hbreak⟩ := hword c List.mem_cons_self
    have hnotColon : (c == ':' && isBoundary (word ++ s).head?) = false := by
      cases word with
      | nil =>
        have hc : c ≠ ':' := by simpa using hcolon
        simp [hc]
      | cons d word =>
        obtain ⟨hblank, hbreak⟩ := hword d (by simp)
        simp [isBoundary, hblank, hbreak]
    have hcolon' : word.getLast? ≠ some ':' := by
      cases word with
      | nil => simp
      | cons d word => rwa [List.getLast?_cons_cons] at hcolon
    have hrun := ih (fun d hd => hword d (List.mem_cons_of_mem c hd)) hcolon' fuel cursor.next
      (by simp [hrest]) (by simpa using hfuel)
    rw [readPlainRun, hrest, List.cons_append]
    simp only [hblank, hbreak, Bool.or_false, Bool.false_eq_true, if_false, Bool.false_and, hnotColon, hrun,
      Option.map_some, Cursor.skip_next, List.length_cons]

/-! ## The whole scalar -/

/-- A text that goes on with a plain scalar, to its end. -/
structure IsPlainTail (s : List Char) : Prop where
  chars : ∀ c ∈ s, isWritable c = true ∧ isBreak c = false
  head : s.head? ≠ some ' ' ∧ s.head? ≠ some '#'
  last : s.getLast? ≠ some ' ' ∧ s.getLast? ≠ some ':'
  inside : anyNeighbours (fun a b =>
    (a == ':' && isBoundary (some b)) || ((isBlank a || isBreak a) && b == '#')) s = false

theorem Cursor.atDocumentIndicator_of_column {cursor : Cursor} (h : 0 < cursor.column) :
    cursor.atDocumentIndicator = false := by
  have hcolumn : (cursor.column == 0) = false := beq_eq_false_iff_ne.mpr (Nat.ne_of_gt h)
  simp [atDocumentIndicator, atIndicator, hcolumn]

/-- Behind a word and spaces a plain scalar goes on. -/
theorem IsPlainTail.tail {word tail : List Char} {k : Nat}
    (h : IsPlainTail (word ++ List.replicate (k + 1) ' ' ++ tail)) (htail : tail.head? ≠ some ' ') :
    tail ≠ [] ∧ IsPlainTail tail := by
  have hne : tail ≠ [] := by
    rintro rfl
    refine h.last.1 ?_
    rw [List.append_nil, List.replicate_succ', ← List.append_assoc, List.getLast?_concat]
  have hlast : (word ++ List.replicate (k + 1) ' ' ++ tail).getLast? = tail.getLast? := by
    rw [List.getLast?_append, Option.or_of_isSome (List.getLast?_isSome.mpr hne)]
  refine ⟨hne, fun c hc => h.chars c (List.mem_append_right _ hc), ⟨htail, fun hhash => ?_⟩,
    hlast ▸ h.last, anyNeighbours_append_right h.inside⟩
  obtain ⟨rest, rfl⟩ := List.head?_eq_some_iff.mp hhash
  have hinside := h.inside
  rw [List.replicate_succ', ← List.append_assoc, List.append_assoc, List.singleton_append] at hinside
  exact absurd (not_test_of_anyNeighbours hinside) (by decide)

theorem IsPlainTail.startsWord {s : List Char} (h : IsPlainTail s) (hne : s ≠ []) (t : List Char) :
    StartsWord (s ++ t) := by
  cases s with
  | nil => exact absurd rfl hne
  | cons c s =>
    obtain ⟨hwritable, hbreak⟩ := h.chars c List.mem_cons_self
    refine startsWord_cons ?_ hbreak
    rw [isBlank_of_isWritable hwritable]
    exact beq_eq_false_iff_ne.mpr fun hc => h.head.1 (congrArg some hc)

/-- The first word of a plain scalar. -/
theorem IsPlainTail.word {word tail : List Char} {k : Nat}
    (h : IsPlainTail (word ++ List.replicate k ' ' ++ tail)) (hword : ' ' ∉ word)
    (hzero : k = 0 → tail = []) :
    (∀ c ∈ word, isBlank c = false ∧ isBreak c = false) ∧ word.getLast? ≠ some ':' := by
  constructor
  · intro c hc
    obtain ⟨hwritable, hbreak⟩ := h.chars c (by simp [hc])
    rw [isBlank_of_isWritable hwritable]
    exact ⟨beq_eq_false_iff_ne.mpr (ne_of_mem_of_not_mem hc hword), hbreak⟩
  · intro hlast
    cases k with
    | zero =>
      rw [hzero rfl, List.replicate_zero, List.append_nil, List.append_nil] at h
      exact h.last.2 hlast
    | succ k =>
      obtain ⟨init, rfl⟩ := List.getLast?_eq_some_iff.mp hlast
      have hinside := h.inside
      rw [List.replicate_succ, List.append_assoc, List.append_assoc, List.singleton_append,
        List.cons_append] at hinside
      exact absurd (not_test_of_anyNeighbours hinside) (by decide)

section Scalars

variable {margin indent : Nat} {rest : List Char}

/-- A word of a plain scalar and the gap behind it. -/
private theorem readPlain_word {word : List Char} {gap next : Gap} {cursor stop after : Cursor}
    (hpos : 0 < cursor.column) (hhash : cursor.peek? ≠ some '#')
    (hrun : readPlainRun false (cursor.rest.length + 1) cursor = some (word, stop)) (hword : word ≠ [])
    {c : Char} (hpeek : stop.peek? = some c) (hc : (isBlank c || isBreak c) = true)
    (hnext : Gap.empty.read (some indent) stop.rest.length stop = some (next, after)) (fuel : Nat) :
    readPlain false indent (fuel + 1) gap cursor =
      if after.column < indent then some (gap.text ++ word, next.broken, after)
      else (readPlain false indent fuel next after).map fun more =>
        (gap.text ++ word ++ more.1, more.2) := by
  have hempty : word.isEmpty = false := List.isEmpty_eq_false_iff.mpr hword
  rw [readPlain, Cursor.atDocumentIndicator_of_column hpos, hrun]
  simp only [hhash, hempty, hpeek, Option.any_some, hc, hnext, Bool.false_or, decide_false, Bool.false_eq_true,
    if_false, Bool.not_true, Bool.not_false, Bool.true_and, decide_eq_true_eq]

/-- The rest of a plain scalar is read to the end of its line and the margin of the next. -/
theorem readPlain_tail (hmargin : margin < indent) (hrest : StartsWord rest) (fuel : Nat) :
    ∀ (s : List Char) (gap : Gap) (cursor : Cursor), s ≠ [] → s.length < fuel → IsPlainTail s →
      cursor.rest = s ++ '\n' :: List.replicate margin ' ' ++ rest → 0 < cursor.column →
      indent ≤ cursor.column →
      ∃ after, readPlain false indent fuel gap cursor = some (gap.text ++ s, true, after) ∧
        after.rest = rest ∧ cursor.line < after.line ∧ after.column = margin := by
  induction fuel with
  | zero =>
    intro s gap cursor _ hfuel
    exact absurd hfuel (Nat.not_lt_zero _)
  | succ fuel ih =>
    intro s gap cursor hne hfuel hs htext hpos hindent
    obtain ⟨word, k, tail, rfl, hword, htail, hzero⟩ := exists_word s
    obtain ⟨hchars, hcolon⟩ := hs.word hword hzero
    have hnonempty : word ≠ [] := by
      rintro rfl
      cases k with
      | zero => exact hne (by simp [hzero rfl])
      | succ k => exact hs.head.1 rfl
    have hhash : cursor.peek? ≠ some '#' := by
      rw [Cursor.peek?, htext, List.append_assoc, List.head?_append,
        Option.or_of_isSome (List.isSome_head?.mpr hne)]
      exact hs.head.2
    obtain ⟨stop, hstop⟩ : ∃ stop, stop = cursor.skip word.length := ⟨_, rfl⟩
    have hrun : ∀ behind, EndsRun behind → cursor.rest = word ++ behind →
        readPlainRun false (cursor.rest.length + 1) cursor = some (word, stop) :=
      fun behind hbehind hwhole =>
        hstop ▸ readPlainRun_append hchars hcolon hbehind _ cursor hwhole
          (by rw [hwhole, List.length_append]; omega)
    cases k with
    | zero =>
      -- The scalar ends with the line.
      rw [hzero rfl, List.replicate_zero, List.append_nil, List.append_nil] at htext ⊢
      have hbehind : stop.rest = ['\n'] ++ List.replicate margin ' ' ++ rest := by
        rw [hstop, Cursor.rest_skip, htext, List.append_assoc, List.drop_left, List.singleton_append]
      obtain ⟨after, hnext, hrestAfter, hline, hcolumn⟩ :=
        Gap.read_breaks (some indent) hrest margin ⟨rfl, rfl⟩ (by simp) stop.rest.length hbehind
          (by rw [hbehind]; simp; omega)
      have hpeek : stop.peek? = some '\n' := by rw [Cursor.peek?, hbehind]; rfl
      have hrun := hrun _ (endsRun_of_gap rfl _) (by rw [htext, List.append_assoc]; rfl)
      refine ⟨after, ?_, hrestAfter, by rwa [hstop, Cursor.line_skip] at hline, hcolumn⟩
      rw [readPlain_word hpos hhash hrun hnonempty hpeek rfl hnext, if_pos (hcolumn ▸ hmargin)]
    | succ k =>
      -- Another word follows.
      obtain ⟨htailNe, htailPlain⟩ := hs.tail htail
      obtain ⟨following, hfollowing⟩ :
        ∃ following, following = tail ++ '\n' :: List.replicate margin ' ' ++ rest := ⟨_, rfl⟩
      have hwhole : cursor.rest = word ++ (List.replicate (k + 1) ' ' ++ following) := by
        rw [htext, hfollowing]
        simp
      have hbehind : stop.rest = List.replicate (k + 1) ' ' ++ following := by
        rw [hstop, Cursor.rest_skip, hwhole, List.drop_left]
      have hstart : StartsWord following := by
        rw [hfollowing, List.append_assoc]
        exact htailPlain.startsWord htailNe _
      have hnext := Gap.read_between (some indent) hstart (k + 1) stop.rest.length hbehind
        (by rw [hbehind]; simp)
      have hpeek : stop.peek? = some ' ' := by rw [Cursor.peek?, hbehind]; rfl
      have hrun := hrun _ (endsRun_of_gap rfl _) hwhole
      obtain ⟨after, hmore, hrestAfter, hline, hcolumn⟩ :=
        ih tail { Gap.empty with blanks := List.replicate (k + 1) ' ' } (stop.skip (k + 1)) htailNe
          (by simp at hfuel; omega) htailPlain (by rw [Cursor.rest_skip, hbehind, hfollowing]; simp)
          (by rw [hstop, Cursor.column_skip, Cursor.column_skip]; omega)
          (by rw [hstop, Cursor.column_skip, Cursor.column_skip]; omega)
      refine ⟨after, ?_, hrestAfter, by simpa [hstop] using hline, hcolumn⟩
      rw [readPlain_word hpos hhash hrun hnonempty hpeek rfl hnext, if_neg (by simp [hstop]; omega),
        hmore]
      simp [Gap.text, Gap.empty]

end Scalars

end Kitchen.Yaml
