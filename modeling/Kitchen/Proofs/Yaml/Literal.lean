import Kitchen.Proofs.Yaml.Plain

/-!
# Literal blocks read back

The lines of a text read back from a literal block: empty lines, blanks at the start of lines and line
breaks at the end included.
-/

namespace Kitchen.Yaml

/-! ## The written lines -/

section Written

variable {indent : Nat} {s : List Char}

private theorem literalChars_line {line : List Char} (hline : ∀ c ∈ line, isBreak c = false) :
    literalChars indent false (line ++ s) = line ++ literalChars indent false s := by
  induction line with
  | nil => rfl
  | cons c line ih =>
    rw [List.cons_append, literalChars, hline c List.mem_cons_self,
      ih fun d hd => hline d (List.mem_cons_of_mem c hd)]
    rfl

private theorem literalChars_breaks {breaks : List Char} (hbreaks : ∀ c ∈ breaks, isBreak c = true) :
    literalChars indent true (breaks ++ s) = breaks ++ literalChars indent true s := by
  induction breaks with
  | nil => rfl
  | cons c breaks ih =>
    rw [List.cons_append, literalChars, hbreaks c List.mem_cons_self,
      ih fun d hd => hbreaks d (List.mem_cons_of_mem c hd)]
    rfl

/-- A line that is not empty stands behind a margin. -/
private theorem literalChars_margin (hne : s ≠ []) (hs : ∀ c, s.head? = some c → isBreak c = false) :
    literalChars indent true s = List.replicate indent ' ' ++ literalChars indent false s := by
  cases s with
  | nil => exact absurd rfl hne
  | cons c s =>
    rw [literalChars, literalChars, hs c rfl]
    rfl

private theorem getLast?_literalChars (lineStart : Bool) :
    (literalChars indent lineStart s).getLast? = s.getLast? := by
  induction s generalizing lineStart with
  | nil => rfl
  | cons c s ih =>
    have hlast (lineStart : Bool) : (c :: literalChars indent lineStart s).getLast? = (c :: s).getLast? := by
      rw [List.getLast?_cons, List.getLast?_cons, ih]
    rw [literalChars]
    split
    · exact hlast true
    · rw [List.getLast?_append, hlast, Option.or_of_isSome (List.getLast?_isSome.mpr (List.cons_ne_nil c s))]

theorem length_le_literalChars (lineStart : Bool) :
    s.length ≤ (literalChars indent lineStart s).length := by
  induction s generalizing lineStart with
  | nil => exact Nat.zero_le _
  | cons c s ih =>
    rw [literalChars]
    split
    · exact Nat.succ_le_succ (ih true)
    · have hrest := ih false
      rw [List.length_append, List.length_cons, List.length_cons]
      omega

end Written

/-! ## Empty lines -/

private theorem takeWhile_of_startsWord {s : List Char} (h : StartsWord s) :
    s.takeWhile (· == ' ') = [] := by
  cases s with
  | nil => rfl
  | cons c s =>
    have hspace : (c == ' ') = false := by
      have hblank := (h c rfl).1
      rw [isBlank, Bool.or_eq_false_iff] at hblank
      exact hblank.1
    rw [List.takeWhile_cons_of_neg (by simp [hspace])]

private theorem takeWhile_margin (margin : Nat) (s : List Char) :
    (List.replicate margin ' ' ++ s).takeWhile (· == ' ') =
      List.replicate margin ' ' ++ s.takeWhile (· == ' ') := by
  rw [List.takeWhile_append_of_pos]
  intro c hc
  rw [List.eq_of_mem_replicate hc]
  rfl

private theorem head?_ne_tab {s : List Char} (h : StartsWord s) : s.head? ≠ some '\t' := fun hhead =>
  absurd (h '\t' hhead).1 (by decide)

private theorem any_isBreak_head? {s : List Char} (h : ∀ c, s.head? = some c → isBreak c = false) :
    s.head?.any isBreak = false := by
  cases hhead : s.head? with
  | none => rfl
  | some c => exact h c hhead

/-- Empty lines and the margin of the next line, up to some columns, are read. -/
private theorem readBlockBreaks_some {indent margin : Nat} {rest : List Char} (hmargin : margin ≤ indent)
    (hrest : ∀ c, rest.head? = some c → isBreak c = false)
    (hstop : margin = indent ∨ StartsWord rest) {breaks : List Char}
    (hbreaks : ∀ c ∈ breaks, isWritable c = true ∧ isBreak c = true) :
    ∀ (fuel greatest : Nat) (cursor : Cursor), breaks.length < fuel →
      cursor.rest = breaks ++ List.replicate margin ' ' ++ rest → cursor.column = 0 →
      ∃ found after, readBlockBreaks (some indent) fuel greatest cursor = some (breaks, found, after) ∧
        after.rest = rest ∧ after.column = margin ∧ cursor.line ≤ after.line := by
  induction breaks with
  | nil =>
    intro fuel greatest cursor hfuel htext hcolumn
    obtain ⟨fuel, rfl⟩ : ∃ less, fuel = less + 1 := ⟨fuel - 1, by omega⟩
    rw [List.nil_append] at htext
    have hcount : min (cursor.rest.takeWhile (· == ' ')).length (indent - cursor.column) = margin := by
      rw [htext, takeWhile_margin, hcolumn, List.length_append, List.length_replicate]
      obtain rfl | hstart := hstop
      · omega
      · rw [takeWhile_of_startsWord hstart, List.length_nil, Nat.add_zero, Nat.sub_zero,
          Nat.min_eq_left hmargin]
    have hrestSkip : (cursor.skip margin).rest = rest := by
      rw [Cursor.rest_skip, htext, List.drop_left' (List.length_replicate)]
    have htab : (decide (margin < indent) && decide (rest.head? = some '\t')) = false := by
      obtain rfl | hstart := hstop
      · simp
      · simp [head?_ne_tab hstart]
    have hbreak := any_isBreak_head? hrest
    refine ⟨max greatest margin, cursor.skip margin, ?_, hrestSkip, by simp [hcolumn], Nat.le_refl _⟩
    rw [readBlockBreaks]
    simp only [hcount]
    simp only [Cursor.column_skip, hcolumn, Cursor.peek?, hrestSkip, Option.all_some, Nat.zero_add, htab,
      hbreak, Bool.false_eq_true, if_false]
  | cons c breaks ih =>
    intro fuel greatest cursor hfuel htext hcolumn
    obtain ⟨fuel, rfl⟩ : ∃ less, fuel = less + 1 := ⟨fuel - 1, by omega⟩
    obtain ⟨hwritable, hbreak⟩ := hbreaks c List.mem_cons_self
    have hcount : min (cursor.rest.takeWhile (· == ' ')).length (indent - cursor.column) = 0 := by
      have hspace : ¬ (c == ' ') = true := by
        rintro hspace
        obtain rfl := eq_of_beq hspace
        cases hbreak
      rw [htext, List.cons_append, List.cons_append, List.takeWhile_cons_of_neg (p := (· == ' ')) hspace]
      exact Nat.zero_min _
    have hread := cursor.readBreak_eq htext hwritable hbreak
    have htab : c ≠ '\t' := by
      rintro rfl
      cases hbreak
    obtain ⟨found, after, hmore, hrestAfter, hcolumnAfter, hline⟩ :=
      ih (fun d hd => hbreaks d (List.mem_cons_of_mem c hd)) fuel greatest (cursor.newLine 1)
        (by simpa using hfuel) (by simp [htext]) rfl
    refine ⟨found, after, ?_, hrestAfter, hcolumnAfter, Nat.le_of_succ_le hline⟩
    rw [readBlockBreaks]
    simp only [hcount]
    simp only [Cursor.skip_zero, Cursor.peek?, htext]
    simp [htab, hbreak, hread, hcolumn, hmore]

/-- Without a given indentation the margin of the first line is read. -/
private theorem readBlockBreaks_none {margin : Nat} {rest : List Char} (hrest : StartsWord rest)
    (fuel : Nat) {cursor : Cursor} (htext : cursor.rest = List.replicate margin ' ' ++ rest)
    (hcolumn : cursor.column = 0) :
    readBlockBreaks none (fuel + 1) 0 cursor = some ([], margin, cursor.skip margin) := by
  have hspaces : (cursor.rest.takeWhile (· == ' ')).length = margin := by
    rw [htext, takeWhile_margin, takeWhile_of_startsWord hrest, List.append_nil, List.length_replicate]
  have hrestSkip : (cursor.skip margin).rest = rest := by
    rw [Cursor.rest_skip, htext, List.drop_left' (List.length_replicate)]
  have hbreak := any_isBreak_head? fun c hc => (hrest c hc).2
  rw [readBlockBreaks]
  simp only [hspaces, Cursor.column_skip, hcolumn, Cursor.peek?, hrestSkip, Option.all_none, Nat.zero_add,
    Nat.zero_max, head?_ne_tab hrest, decide_false, Bool.and_false, hbreak, Bool.false_eq_true, if_false]

/-! ## Lines -/

/-- The line feed that ends a text without a break at its end. -/
def lineEnd (s : List Char) : List Char := if s.getLast?.any isBreak then [] else ['\n']

theorem lineEnd_append {t : List Char} (ht : t ≠ []) (s : List Char) : lineEnd (s ++ t) = lineEnd t := by
  rw [lineEnd, List.getLast?_append, Option.or_of_isSome (List.getLast?_isSome.mpr ht), lineEnd]

theorem lineEnd_of_break {s : List Char} (hne : s ≠ []) (hs : ∀ c ∈ s, isBreak c = true) :
    lineEnd s = [] := by
  obtain ⟨c, hc⟩ := Option.isSome_iff_exists.mp (List.getLast?_isSome.mpr hne)
  rw [lineEnd, hc, Option.any_some, hs c (List.mem_of_getLast? hc)]
  rfl

theorem lineEnd_of_line {s : List Char} (hs : ∀ c ∈ s, isBreak c = false) : lineEnd s = ['\n'] := by
  cases hlast : s.getLast? with
  | none =>
    rw [lineEnd, hlast]
    rfl
  | some c =>
    rw [lineEnd, hlast, Option.any_some, hs c (List.mem_of_getLast? hlast)]
    rfl

/-- A text whose first line is not empty is its lines up to the last break that follows one, that
break, and the breaks behind it. -/
structure EndsAs (s lines ended empty : List Char) : Prop where
  whole : s ++ lineEnd s = lines ++ ended ++ empty
  lines : lines ≠ [] ∧ ∀ c, lines.getLast? = some c → isBreak c = false
  single : ended.length = 1
  breaks : ∀ c ∈ ended ++ empty, isBreak c = true

section Lines

variable {indent margin : Nat} {rest : List Char}

/-- A line, its break and the empty lines behind it, up to the margin of the next line. -/
private theorem readBlockLines_line {line breaks following : List Char} {c : Char} {cursor : Cursor}
    (hline : ∀ d ∈ line, isBreak d = false) (hc : isWritable c = true ∧ isBreak c = true)
    (hbreaks : ∀ d ∈ breaks, isWritable d = true ∧ isBreak d = true) (hmargin : margin ≤ indent)
    (hfollowing : ∀ d, following.head? = some d → isBreak d = false)
    (hstop : margin = indent ∨ StartsWord following)
    (htext : cursor.rest = line ++ c :: (breaks ++ List.replicate margin ' ' ++ following))
    (hcolumn : cursor.column = indent) (fuel : Nat) (ended empty : List Char) (blankBefore : Bool) :
    ∃ after, after.rest = following ∧ after.column = margin ∧ cursor.line < after.line ∧
      ∀ text ends last,
        readBlockLines true indent fuel [c] breaks (cursor.peek?.any isBlank) after = some (text, ends, last) →
        readBlockLines true indent (fuel + 1) ended empty blankBefore cursor =
          some (ended ++ empty ++ (line ++ text), ends, last) := by
  have hne : cursor.rest.isEmpty = false := by simp [htext]
  have htake : cursor.takeWhile (fun d => !isBreak d) = (line, cursor.skip line.length) := by
    have hrun : cursor.rest.takeWhile (fun d => !isBreak d) = line := by
      rw [htext, List.takeWhile_append_of_pos fun d hd => by simp [hline d hd],
        List.takeWhile_cons_of_neg (by simp [hc.2]), List.append_nil]
    rw [Cursor.takeWhile, hrun]
  have hrestLine : (cursor.skip line.length).rest =
      c :: (breaks ++ List.replicate margin ' ' ++ following) := by
    rw [Cursor.rest_skip, htext, List.drop_left]
  have hread := Cursor.readBreak_eq hrestLine hc.1 hc.2
  obtain ⟨found, after, hempty, hrestAfter, hcolumnAfter, hlineAfter⟩ :=
    readBlockBreaks_some hmargin hfollowing hstop hbreaks
      (((cursor.skip line.length).newLine 1).rest.length + 1) 0 ((cursor.skip line.length).newLine 1)
      (by
        rw [Cursor.rest_newLine, hrestLine, List.drop_one, List.tail_cons, List.append_assoc, List.length_append]
        omega)
      (by rw [Cursor.rest_newLine, hrestLine]; rfl) rfl
  refine ⟨after, hrestAfter, hcolumnAfter, hlineAfter, fun text ends last hmore => ?_⟩
  rw [readBlockLines]
  simp only [hcolumn, hne, decide_true, Bool.not_false, Bool.and_self, if_true, htake, hread, hempty,
    hmore, Option.map_some, Bool.not_true, Bool.false_and, Bool.false_eq_true, if_false, List.append_assoc]

/-- Lines end where another margin begins. -/
private theorem readBlockLines_stop {cursor : Cursor} (h : cursor.column ≠ indent)
    (ended empty : List Char) (blankBefore : Bool) (fuel : Nat) :
    readBlockLines true indent (fuel + 1) ended empty blankBefore cursor =
      some ([], (ended, empty), cursor) := by
  rw [readBlockLines]
  simp [h]

/-- Behind the last line, its break and the empty lines after it the block ends. -/
private theorem readBlockLines_last {line breaks : List Char} {c : Char} {cursor : Cursor}
    (hline : ∀ d ∈ line, isBreak d = false) (hc : isWritable c = true ∧ isBreak c = true)
    (hbreaks : ∀ d ∈ breaks, isWritable d = true ∧ isBreak d = true) (hmargin : margin < indent)
    (hrest : StartsWord rest)
    (htext : cursor.rest = line ++ c :: (breaks ++ List.replicate margin ' ' ++ rest))
    (hcolumn : cursor.column = indent) (fuel : Nat) (ended empty : List Char) (blankBefore : Bool) :
    ∃ after, readBlockLines true indent (fuel + 2) ended empty blankBefore cursor =
        some (ended ++ empty ++ line, ([c], breaks), after) ∧
      after.rest = rest ∧ after.column = margin ∧ cursor.line < after.line := by
  obtain ⟨after, hrestAfter, hcolumnAfter, hlineAfter, hstep⟩ :=
    readBlockLines_line hline hc hbreaks (Nat.le_of_lt hmargin) (fun d hd => (hrest d hd).2)
      (.inr hrest) htext hcolumn (fuel + 1) ended empty blankBefore
  have hother : after.column ≠ indent := hcolumnAfter ▸ Nat.ne_of_lt hmargin
  have hstop := readBlockLines_stop hother [c] breaks (cursor.peek?.any isBlank) fuel
  refine ⟨after, ?_, hrestAfter, hcolumnAfter, hlineAfter⟩
  rw [hstep _ _ _ hstop, List.append_nil]

/-- The lines of a block are read as they were written, the breaks at the end apart. -/
private theorem readBlockLines_eq (hmargin : margin < indent) (hrest : StartsWord rest) (fuel : Nat) :
    ∀ (s ended empty : List Char) (blankBefore : Bool) (cursor : Cursor), s.length < fuel →
      (∀ c ∈ s, isWritable c = true) → s ≠ [] → (∀ c, s.head? = some c → isBreak c = false) →
      cursor.rest = literalChars indent false s ++ lineEnd s ++ List.replicate margin ' ' ++ rest →
      cursor.column = indent →
      ∃ lines last breaks after, readBlockLines true indent fuel ended empty blankBefore cursor =
          some (ended ++ empty ++ lines, (last, breaks), after) ∧
        EndsAs s lines last breaks ∧ after.rest = rest ∧ after.column = margin ∧
        cursor.line < after.line := by
  induction fuel with
  | zero =>
    intro s ended empty blankBefore cursor hfuel
    exact absurd hfuel (Nat.not_lt_zero _)
  | succ fuel ih =>
    intro s ended empty blankBefore cursor hfuel hs hne hhead htext hcolumn
    obtain ⟨line, tail, rfl, hline, htail⟩ := exists_span (!isBreak ·) s
    have hline : ∀ c ∈ line, isBreak c = false := fun c hc => by simpa using hline c hc
    have hlineNe : line ≠ [] := by
      rintro rfl
      obtain ⟨c, tail, rfl⟩ := List.exists_cons_of_ne_nil hne
      have hbreak : isBreak c = true := by simpa using htail c rfl
      rw [hhead c rfl] at hbreak
      cases hbreak
    have hlast : ∀ c, line.getLast? = some c → isBreak c = false := fun c hc =>
      hline c (List.mem_of_getLast? hc)
    obtain ⟨fuel, rfl⟩ : ∃ less, fuel = less + 1 := by
      have hlong : 0 < line.length := List.length_pos_iff.mpr hlineNe
      exact ⟨fuel - 1, by simp at hfuel; omega⟩
    rw [literalChars_line hline] at htext
    cases tail with
    | nil =>
      -- The text ends without a break.
      rw [List.append_nil, lineEnd_of_line hline] at htext
      have hwhole : cursor.rest = line ++ '\n' :: ([] ++ List.replicate margin ' ' ++ rest) := by
        rw [htext]
        simp [literalChars]
      obtain ⟨after, hread, hrestAfter⟩ := readBlockLines_last hline ⟨rfl, rfl⟩ (List.forall_mem_nil _)
        hmargin hrest hwhole hcolumn fuel ended empty blankBefore
      have hends : EndsAs (line ++ []) line ['\n'] [] :=
        ⟨by rw [List.append_nil, lineEnd_of_line hline, List.append_nil], ⟨hlineNe, hlast⟩, rfl,
          List.forall_mem_singleton.mpr rfl⟩
      exact ⟨line, ['\n'], [], after, hread, hends, hrestAfter⟩
    | cons c tail =>
      have hc : isWritable c = true ∧ isBreak c = true := ⟨hs c (by simp), by simpa using htail c rfl⟩
      obtain ⟨breaks, tail, rfl, hbreaks, hstart⟩ := exists_span isBreak tail
      have hkept : ∀ d ∈ breaks, isWritable d = true ∧ isBreak d = true := fun d hd =>
        ⟨hs d (by simp [hd]), hbreaks d hd⟩
      have hgap : ∀ d ∈ c :: breaks, isBreak d = true := List.forall_mem_cons.mpr ⟨hc.2, hbreaks⟩
      rw [literalChars, hc.2, if_pos rfl, literalChars_breaks hbreaks] at htext
      cases tail with
      | nil =>
        -- The text ends with breaks.
        have hend : lineEnd (line ++ c :: breaks) = [] := by
          rw [lineEnd_append (List.cons_ne_nil c breaks), lineEnd_of_break (List.cons_ne_nil c breaks) hgap]
        rw [List.append_nil, hend] at htext
        have hwhole : cursor.rest = line ++ c :: (breaks ++ List.replicate margin ' ' ++ rest) := by
          rw [htext]
          simp [literalChars]
        obtain ⟨after, hread, hrestAfter⟩ :=
          readBlockLines_last hline hc hkept hmargin hrest hwhole hcolumn fuel ended empty blankBefore
        have hends : EndsAs (line ++ c :: (breaks ++ [])) line [c] breaks :=
          ⟨by rw [List.append_nil, hend]; simp, ⟨hlineNe, hlast⟩, rfl, hgap⟩
        exact ⟨line, [c], breaks, after, hread, hends, hrestAfter⟩
      | cons d tail =>
        -- Another line follows.
        have hend : lineEnd (line ++ c :: (breaks ++ d :: tail)) = lineEnd (d :: tail) := by
          rw [← List.cons_append, ← List.append_assoc, lineEnd_append (List.cons_ne_nil d tail)]
        rw [hend, literalChars_margin (List.cons_ne_nil d tail) hstart] at htext
        have hhead : ∀ e, (literalChars indent false (d :: tail) ++ lineEnd (d :: tail) ++
            List.replicate margin ' ' ++ rest).head? = some e → isBreak e = false := by
          rw [literalChars, hstart d rfl]
          simpa using hstart d rfl
        obtain ⟨after, hrestAfter, hcolumnAfter, hlineAfter, hstep⟩ :=
          readBlockLines_line hline hc hkept (Nat.le_refl indent) hhead (.inl rfl)
            (by rw [htext]; simp) hcolumn (fuel + 1) ended empty blankBefore
        obtain ⟨lines, last, empties, final, hmore, hends, hrestFinal, hcolumnFinal, hlineFinal⟩ :=
          ih (d :: tail) [c] breaks (cursor.peek?.any isBlank) after (by simp at hfuel ⊢; omega)
            (fun e he => hs e (List.mem_append_right _ (List.mem_cons_of_mem _ (List.mem_append_right _ he))))
            (List.cons_ne_nil d tail) hstart hrestAfter hcolumnAfter
        refine ⟨line ++ ([c] ++ breaks ++ lines), last, empties, final, hstep _ _ _ hmore,
          ⟨?_, ⟨?_, ?_⟩, hends.single, hends.breaks⟩, hrestFinal, hcolumnFinal,
          Nat.lt_trans hlineAfter hlineFinal⟩
        · have hwhole := hends.whole
          rw [hend]
          simp at hwhole ⊢
          exact hwhole
        · simp [hlineNe]
        · rw [← List.append_assoc, List.getLast?_append,
            Option.or_of_isSome (List.getLast?_isSome.mpr hends.lines.1)]
          exact hends.lines.2

end Lines

/-! ## Headers -/

/-- The sign of a chomping. -/
def Chomping.sign : Chomping → List Char
  | strip => ['-']
  | clip => []
  | keep => ['+']

/-- The chomping that keeps the breaks at the end of a text. -/
def chompingOf (s : List Char) : Chomping :=
  if !s.getLast?.any isBreak then .strip
  else if s.length = 1 || s.dropLast.getLast?.any isBreak then .keep
  else .clip

/-- The first line of a text does not show its indentation. -/
def needsHint (s : List Char) : Bool := s.head?.any fun c => c == ' ' || isBreak c

theorem literalHeader_eq (s : List Char) :
    literalHeader s = '|' :: ((if needsHint s then ['2'] else []) ++ (chompingOf s).sign) := by
  have hdigits : Nat.toDigits 10 step = ['2'] := by decide
  rw [literalHeader, chompingOf, needsHint, hdigits]
  simp only [List.cons_append]
  congr 2
  split
  · rfl
  · split <;> rfl

/-- A literal block is its header and its lines, the last of them ended. -/
theorem scalarChars_literal (indent : Nat) (text : String) :
    scalarChars indent .literal text = '|' :: ((if needsHint text.toList then ['2'] else []) ++
      (chompingOf text.toList).sign ++ '\n' :: (literalChars indent true text.toList ++ lineEnd text.toList)) := by
  rw [scalarChars.eq_def]
  dsimp only
  rw [getLast?_literalChars, literalHeader_eq, lineEnd]
  simp only [List.append_assoc, List.cons_append]

/-- The header is read to the start of the first line. -/
theorem readBlockHeader_eq (hinted : Bool) (chomping : Chomping) {s : List Char} {cursor : Cursor}
    (htext : cursor.rest = (if hinted then ['2'] else []) ++ chomping.sign ++ '\n' :: s) :
    ∃ after, readBlockHeader cursor = some (chomping, if hinted then some 2 else none, after) ∧
      after.rest = s ∧ after.column = 0 ∧ cursor.line < after.line := by
  obtain ⟨stop, hstop⟩ : ∃ stop, stop =
    cursor.skip ((if hinted then ['2'] else []) ++ chomping.sign).length := ⟨_, rfl⟩
  have hrest : stop.rest = '\n' :: s := by rw [hstop, Cursor.rest_skip, htext, List.drop_left]
  have hskip : stop.skipWhile isBlank = stop := by
    rw [Cursor.skipWhile, Cursor.takeWhile, hrest, List.takeWhile_cons_of_neg (by decide)]
    rfl
  have hpeek : stop.peek? = some '\n' := by rw [Cursor.peek?, hrest]; rfl
  have hbreak : stop.skipBreak = stop.newLine 1 := by
    rw [Cursor.skipBreak, Cursor.readBreak_eq hrest rfl rfl]
  refine ⟨stop.newLine 1, ?_, by rw [Cursor.rest_newLine, hrest]; rfl, rfl, by simp [hstop]⟩
  have hend : (if stop.peek? = some '#' then stop.skipToLineEnd else stop) = stop := by
    rw [hpeek, if_neg (by decide)]
  have hlineEnd : isLineEnd (some '\n') = true := by decide
  have hdigit : indentation? (some '2') = some 2 := by decide
  have hnone : indentation? (some '-') = none ∧ indentation? (some '+') = none ∧ indentation? (some '\n') = none := by decide
  have hpeekNext : cursor.next.peek? = cursor.rest.tail.head? := by rw [Cursor.peek?, Cursor.rest_next]
  rw [readBlockHeader]
  cases hinted with
  | false =>
    cases chomping with
    | clip =>
      rw [show cursor = stop from hstop.symm]
      simp [hpeek, chomping?, hnone, hskip, hlineEnd, hbreak]
    | strip =>
      have hfirst : cursor.peek? = some '-' := by rw [Cursor.peek?, htext]; rfl
      rw [show cursor.next = stop from hstop.symm]
      simp [hfirst, hpeek, chomping?, hnone, hskip, hlineEnd, hbreak]
    | keep =>
      have hfirst : cursor.peek? = some '+' := by rw [Cursor.peek?, htext]; rfl
      rw [show cursor.next = stop from hstop.symm]
      simp [hfirst, hpeek, chomping?, hnone, hskip, hlineEnd, hbreak]
  | true =>
    have hfirst : cursor.peek? = some '2' := by rw [Cursor.peek?, htext]; rfl
    cases chomping with
    | clip =>
      rw [show cursor.next = stop from hstop.symm]
      simp [hfirst, hpeek, chomping?, hdigit, hskip, hlineEnd, hbreak]
    | strip =>
      have hsecond : cursor.next.peek? = some '-' := by rw [hpeekNext, htext]; rfl
      rw [show cursor.skip 2 = stop from hstop.symm]
      simp [hfirst, hsecond, hpeek, chomping?, hdigit, hskip, hlineEnd, hbreak]
    | keep =>
      have hsecond : cursor.next.peek? = some '+' := by rw [hpeekNext, htext]; rfl
      rw [show cursor.skip 2 = stop from hstop.symm]
      simp [hfirst, hsecond, hpeek, chomping?, hdigit, hskip, hlineEnd, hbreak]

/-! ## The whole block -/

/-- The breaks at the end of a block that a chomping keeps. -/
def Chomping.kept (chomping : Chomping) (ended empty : List Char) : List Char :=
  match chomping with
  | strip => []
  | clip => ended
  | keep => ended ++ empty

private theorem any_getLast?_breaks {s breaks : List Char} (hne : breaks ≠ [])
    (h : ∀ c ∈ breaks, isBreak c = true) : (s ++ breaks).getLast?.any isBreak = true := by
  obtain ⟨c, hc⟩ := Option.isSome_iff_exists.mp (List.getLast?_isSome.mpr hne)
  rw [List.getLast?_append, hc]
  exact h c (List.mem_of_getLast? hc)

namespace EndsAs

variable {s lines ended empty : List Char}

theorem ended_ne_nil (h : EndsAs s lines ended empty) : ended ≠ [] := by
  intro hnil
  have hsingle := h.single
  rw [hnil] at hsingle
  cases hsingle

/-- A text without a break at its end is its lines. -/
private theorem lines_eq (h : EndsAs s lines ended empty) (hlast : s.getLast?.any isBreak = false) :
    lines = s := by
  have hwhole := h.whole
  rw [lineEnd, if_neg (by simp [hlast])] at hwhole
  rcases List.eq_nil_or_concat empty with rfl | ⟨init, c, rfl⟩
  · rw [List.append_nil] at hwhole
    exact (List.append_inj' hwhole h.single.symm).1.symm
  · rw [List.concat_eq_append, ← List.append_assoc] at hwhole
    obtain ⟨hs, -⟩ := List.append_inj' hwhole rfl
    have hbreaks : (lines ++ (ended ++ init)).getLast?.any isBreak = true :=
      any_getLast?_breaks (by simp [h.ended_ne_nil]) fun d hd => h.breaks d (by simp at hd ⊢; exact hd.elim .inl fun hd => .inr (.inl hd))
    rw [← List.append_assoc, ← hs, hlast] at hbreaks
    cases hbreaks

/-- The breaks at the end of a text are kept by its chomping. -/
theorem chomped (h : EndsAs s lines ended empty) (hne : s ≠ []) (front : List Char) :
    lines ++ (chompingOf (front ++ s)).kept ended empty = s := by
  have hlast : (front ++ s).getLast? = s.getLast? := by
    rw [List.getLast?_append, Option.or_of_isSome (List.getLast?_isSome.mpr hne)]
  rw [chompingOf, hlast]
  by_cases hbreak : s.getLast?.any isBreak = true
  · have hwhole := h.whole
    rw [lineEnd, if_pos hbreak, List.append_nil] at hwhole
    rw [hbreak]
    simp only [Bool.not_true, Bool.false_eq_true, if_false]
    split
    · rw [Chomping.kept, hwhole, List.append_assoc]
    · rename_i hclip
      -- With more breaks than one, the last but one would be a break, too.
      have hempty : empty = [] := by
        rcases List.eq_nil_or_concat empty with hnil | ⟨init, c, rfl⟩
        · exact hnil
        · have hbreaks : (front ++ lines ++ (ended ++ init)).getLast?.any isBreak = true :=
            any_getLast?_breaks (by simp [h.ended_ne_nil]) fun d hd =>
              h.breaks d (by simp at hd ⊢; exact hd.elim .inl fun hd => .inr (.inl hd))
          have hdrop : (front ++ s).dropLast = front ++ lines ++ (ended ++ init) := by
            rw [hwhole, List.concat_eq_append, ← List.append_assoc, ← List.append_assoc,
              List.dropLast_concat]
            simp
          rw [hdrop, hbreaks, Bool.or_true] at hclip
          exact absurd rfl hclip
      rw [Chomping.kept, hwhole, hempty, List.append_nil]
  · rw [Bool.not_eq_true] at hbreak
    rw [hbreak]
    simp only [Bool.not_false, if_true, Chomping.kept, List.append_nil]
    exact h.lines_eq hbreak

end EndsAs

/-- A block is read by its header, the breaks in front and its lines. -/
private theorem readBlock_eq {parent indent : Nat} {given : Option Nat} {chomping : Chomping}
    {cursor first start last : Cursor} {front text ended empty : List Char} {greatest : Nat}
    (hheader : readBlockHeader cursor = some (chomping, given, first))
    (hfront : readBlockBreaks (given.map (parent + ·)) (first.rest.length + 1) 0 first =
      some (front, greatest, start))
    (hindent : (given.map (parent + ·)).getD (max greatest (parent + 1)) = indent)
    (hlines : readBlockLines true indent (start.rest.length + 1) [] front false start =
      some (text, (ended, empty), last)) :
    readBlock true (some parent) cursor = some (text ++ chomping.kept ended empty, last) := by
  have hparent : (some parent).getD 0 = parent := rfl
  rw [readBlock, hheader]
  simp only [Option.bind_eq_bind, Option.bind_some, hparent, hfront, hindent, hlines]
  rfl

/-- The first line and the breaks before it are found, whether the indentation is given or not. -/
private theorem readBlockBreaks_front {parent : Nat} {breaks lines following : List Char} {first : Cursor}
    {given : Option Nat}
    (hgiven : given = (if needsHint (breaks ++ lines) then some 2 else none).map (parent + ·))
    (hs : ∀ c ∈ breaks ++ lines, isWritable c = true) (hbreaks : ∀ c ∈ breaks, isBreak c = true)
    (hlines : lines ≠ []) (hstart : ∀ c, lines.head? = some c → isBreak c = false)
    (hhead : following.head? = lines.head?)
    (htext : first.rest = breaks ++ List.replicate (parent + step) ' ' ++ following)
    (hcolumn : first.column = 0) :
    ∃ greatest start, readBlockBreaks given (first.rest.length + 1) 0 first = some (breaks, greatest, start) ∧
      given.getD (max greatest (parent + 1)) = parent + step ∧ start.rest = following ∧
      start.column = parent + step ∧ first.line ≤ start.line := by
  obtain ⟨c, tail, rfl⟩ := List.exists_cons_of_ne_nil hlines
  have hc : isBreak c = false := hstart c rfl
  have hfirst : ∀ d, following.head? = some d → d = c := fun d hd =>
    Option.some.inj (hd.symm.trans hhead)
  cases hhint : needsHint (breaks ++ c :: tail) with
  | true =>
    obtain rfl : given = some (parent + step) := by rw [hgiven, hhint]; rfl
    have hkept : ∀ d ∈ breaks, isWritable d = true ∧ isBreak d = true := fun d hd =>
      ⟨hs d (List.mem_append_left _ hd), hbreaks d hd⟩
    have hfuel : breaks.length < first.rest.length + 1 := by
      rw [htext, List.append_assoc, List.length_append]
      omega
    obtain ⟨greatest, start, hread, hrest, hcolumnStart, hline⟩ :=
      readBlockBreaks_some (Nat.le_refl (parent + step)) (fun d hd => hfirst d hd ▸ hc) (.inl rfl) hkept
        (first.rest.length + 1) 0 first hfuel htext hcolumn
    exact ⟨greatest, start, hread, rfl, hrest, hcolumnStart, hline⟩
  | false =>
    obtain rfl : given = none := by rw [hgiven, hhint]; rfl
    -- Text that begins with a break or a blank would need the hint.
    have hnone : breaks = [] := by
      cases breaks with
      | nil => rfl
      | cons d breaks => simp [needsHint, hbreaks d] at hhint
    subst hnone
    have hword : StartsWord following := by
      intro d hd
      obtain rfl := hfirst d hd
      refine ⟨?_, hc⟩
      rw [isBlank_of_isWritable (hs d (by simp))]
      simpa [needsHint, hc] using hhint
    rw [List.nil_append] at htext
    refine ⟨parent + step, first.skip (parent + step), readBlockBreaks_none hword _ htext hcolumn, ?_, ?_,
      ?_, Nat.le_refl _⟩
    · exact Nat.max_eq_left (by rw [step]; omega)
    · rw [Cursor.rest_skip, htext, List.drop_left' (List.length_replicate)]
    · rw [Cursor.column_skip, hcolumn, Nat.zero_add]

/-- A text of breaks needs the hint, and all of its breaks are kept. -/
private theorem header_breaks {breaks : List Char} (hne : breaks ≠ []) (h : ∀ c ∈ breaks, isBreak c = true) :
    needsHint breaks = true ∧ chompingOf breaks = .keep := by
  constructor
  · obtain ⟨c, breaks, rfl⟩ := List.exists_cons_of_ne_nil hne
    simp [needsHint, h c]
  · have hlast := any_getLast?_breaks (s := []) hne h
    rw [List.nil_append] at hlast
    rw [chompingOf, hlast]
    rcases List.eq_nil_or_concat breaks with rfl | ⟨init, c, rfl⟩
    · exact absurd rfl hne
    · rcases List.eq_nil_or_concat init with rfl | ⟨more, d, rfl⟩
      · rfl
      · have hd : isBreak d = true := h d (by simp)
        simp [hd]

/-- A literal block is read as the text that it was written for, and ends at the margin of the next
line. -/
theorem readBlock_literal {parent margin : Nat} {s rest : List Char} (hmargin : margin ≤ parent)
    (hrest : StartsWord rest) (hs : ∀ c ∈ s, isWritable c = true) (hne : s ≠ []) {cursor : Cursor}
    (htext : cursor.rest = (if needsHint s then ['2'] else []) ++ (chompingOf s).sign ++
      '\n' :: (literalChars (parent + step) true s ++ lineEnd s ++ List.replicate margin ' ' ++ rest)) :
    ∃ after, readBlock true (some parent) cursor = some (s, after) ∧ after.rest = rest ∧
      after.column = margin ∧ cursor.line < after.line := by
  have hless : margin < parent + step := Nat.lt_of_le_of_lt hmargin (Nat.lt_add_of_pos_right (by decide))
  obtain ⟨first, hheader, hrestFirst, hcolumnFirst, hlineFirst⟩ := readBlockHeader_eq _ _ htext
  obtain ⟨breaks, lines, rfl, hbreaks, hstart⟩ := exists_span isBreak s
  have hkept : ∀ c ∈ breaks, isWritable c = true ∧ isBreak c = true := fun c hc =>
    ⟨hs c (List.mem_append_left _ hc), hbreaks c hc⟩
  rw [literalChars_breaks hbreaks] at hrestFirst
  by_cases hlines : lines = []
  · -- All of the text is breaks.
    subst hlines
    rw [List.append_nil] at hne hheader hrestFirst ⊢
    obtain ⟨hhint, hchomping⟩ := header_breaks hne hbreaks
    rw [lineEnd_of_break hne hbreaks, literalChars, List.append_nil, List.append_nil] at hrestFirst
    have hfuel : breaks.length < first.rest.length + 1 := by
      rw [hrestFirst, List.append_assoc, List.length_append]
      omega
    obtain ⟨greatest, start, hfront, hrestStart, hcolumnStart, hlineStart⟩ :=
      readBlockBreaks_some (Nat.le_of_lt hless) (fun c hc => (hrest c hc).2) (.inr hrest) hkept
        (first.rest.length + 1) 0 first hfuel hrestFirst hcolumnFirst
    have hcolumn : start.column ≠ parent + step := hcolumnStart ▸ Nat.ne_of_lt hless
    have hstop := readBlockLines_stop hcolumn [] breaks false start.rest.length
    rw [hhint] at hheader
    refine ⟨start, ?_, hrestStart, hcolumnStart, by omega⟩
    rw [readBlock_eq hheader hfront rfl hstop, hchomping]
    rfl
  · rw [literalChars_margin hlines hstart, lineEnd_append hlines] at hrestFirst
    obtain ⟨following, hfollowing⟩ : ∃ following, following =
      literalChars (parent + step) false lines ++ lineEnd lines ++ List.replicate margin ' ' ++ rest := ⟨_, rfl⟩
    have hfirst : first.rest = breaks ++ List.replicate (parent + step) ' ' ++ following := by
      rw [hrestFirst, hfollowing]
      simp
    have hhead : following.head? = lines.head? := by
      obtain ⟨c, tail, rfl⟩ := List.exists_cons_of_ne_nil hlines
      rw [hfollowing, literalChars, hstart c rfl]
      rfl
    obtain ⟨greatest, start, hfront, hindent, hrestStart, hcolumnStart, hlineStart⟩ :=
      readBlockBreaks_front rfl hs hbreaks hlines hstart hhead hfirst hcolumnFirst
    have hfuel : lines.length < start.rest.length + 1 := by
      have hle : lines.length ≤ (literalChars (parent + step) false lines).length :=
        length_le_literalChars false
      rw [hrestStart, hfollowing]
      simp
      omega
    obtain ⟨found, ended, empty, last, hread, hends, hrestLast, hcolumnLast, hlineLast⟩ :=
      readBlockLines_eq hless hrest (start.rest.length + 1) lines [] breaks false start hfuel
        (fun c hc => hs c (List.mem_append_right _ hc)) hlines hstart (hrestStart.trans hfollowing) hcolumnStart
    refine ⟨last, ?_, hrestLast, hcolumnLast, by omega⟩
    rw [readBlock_eq hheader hfront hindent hread, List.nil_append, List.append_assoc, hends.chomped hlines]

end Kitchen.Yaml
