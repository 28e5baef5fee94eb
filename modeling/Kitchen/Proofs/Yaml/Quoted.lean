import Kitchen.Proofs.Codec.Hex
import Kitchen.Proofs.Yaml.Plain
import Mathlib.Data.List.TakeWhile

/-!
# Quoted scalars read back

Every text reads back from between double quotes, on one line. Between single quotes a text reads back
unless line feeds, or spaces around other breaks, would be folded.
-/

namespace Kitchen.Yaml

open Text

/-! ## Runs -/

/-- A run of a quoted scalar ends before a text. -/
def EndsQuotedRun (quote : Char) (s : List Char) : Prop :=
  ∀ fuel cursor, cursor.rest = s → readQuotedRun quote (fuel + 1) cursor = some ([], false, cursor)

/-- What is written at the cursor is read as one more character of a run. -/
def Spells (quote : Char) (written : List Char) (c : Char) : Prop :=
  ∀ fuel cursor s, cursor.rest = written ++ s → ∀ text after,
    readQuotedRun quote fuel (cursor.skip written.length) = some (text, false, after) →
      readQuotedRun quote (fuel + 1) cursor = some (c :: text, false, after)

section Runs

variable {quote : Char} {s : List Char}

theorem endsQuotedRun_of_gap {c : Char} (h : (isBlank c || isBreak c) = true) :
    EndsQuotedRun quote (c :: s) := by
  intro fuel cursor hrest
  rw [readQuotedRun, hrest]
  simp only [h, if_true]

/-- The closing quote ends a run, where no other quote follows. -/
theorem endsQuotedRun_of_quote (hquote : (isBlank quote || isBreak quote) = false)
    (hs : s.head? ≠ some quote) : EndsQuotedRun quote (quote :: s) := by
  intro fuel cursor hrest
  have hdouble : (decide (quote = '\'') && decide (quote = '\'') && decide (s.head? = some '\'')) = false := by
    by_cases hq : quote = '\''
    · subst hq
      simp [hs]
    · simp [hq]
  rw [readQuotedRun, hrest]
  simp only [hquote, hdouble, Bool.false_eq_true, if_false, if_true]

theorem readQuotedRun_append {spell : Char → List Char} {word : List Char}
    (hword : ∀ c ∈ word, Spells quote (spell c) c) (hs : EndsQuotedRun quote s) :
    ∀ (fuel : Nat) (cursor : Cursor), cursor.rest = word.flatMap spell ++ s → word.length < fuel →
      readQuotedRun quote fuel cursor = some (word, false, cursor.skip (word.flatMap spell).length) := by
  induction word with
  | nil =>
    intro fuel cursor hrest hfuel
    obtain ⟨fuel, rfl⟩ : ∃ less, fuel = less + 1 := ⟨fuel - 1, by omega⟩
    exact hs fuel cursor hrest
  | cons c word ih =>
    intro fuel cursor hrest hfuel
    obtain ⟨fuel, rfl⟩ : ∃ less, fuel = less + 1 := ⟨fuel - 1, by omega⟩
    rw [List.flatMap_cons, List.append_assoc] at hrest
    have hrun := ih (fun d hd => hword d (List.mem_cons_of_mem c hd)) fuel
      (cursor.skip (spell c).length) (by rw [Cursor.rest_skip, hrest, List.drop_left])
      (by simpa using hfuel)
    rw [hword c List.mem_cons_self fuel cursor _ hrest _ _ hrun, Cursor.skip_skip, List.flatMap_cons,
      List.length_append]

end Runs

/-! ## Loops -/

section Loops

variable {quote : Char} {spell : Char → List Char} {word : List Char} {cursor : Cursor}

/-- A word that is spelled at the cursor is read as one run. -/
private theorem readQuotedRun_word (hspell : ∀ c, spell c ≠ [])
    (hword : ∀ c ∈ word, Spells quote (spell c) c) {behind : List Char}
    (hbehind : EndsQuotedRun quote behind) (htext : cursor.rest = word.flatMap spell ++ behind) :
    readQuotedRun quote (cursor.rest.length + 1) cursor =
      some (word, false, cursor.skip (word.flatMap spell).length) := by
  have hle := length_le_flatMap hspell word
  refine readQuotedRun_append hword hbehind _ cursor htext ?_
  rw [htext, List.length_append]
  omega

variable (hspell : ∀ c, spell c ≠ []) (hword : ∀ c ∈ word, Spells quote (spell c) c)
  (hquote : (isBlank quote || isBreak quote) = false) (hpos : 0 < cursor.column) {s : List Char}

include hspell hword hquote hpos

/-- A quoted scalar ends with the word before the closing quote. -/
theorem readQuoted_closes {t : List Char} (ht : t.head? ≠ some quote)
    (htext : cursor.rest = word.flatMap spell ++ quote :: t) (fuel : Nat) :
    ∃ after, readQuoted quote (fuel + 1) cursor = some (word, after) ∧ after.rest = t ∧
      after.line = cursor.line := by
  have hne : cursor.rest ≠ [] := by simp [htext]
  have hrun := readQuotedRun_word hspell hword (endsQuotedRun_of_quote hquote ht) htext
  have hbehind : (cursor.skip (word.flatMap spell).length).rest = quote :: t := by
    rw [Cursor.rest_skip, htext, List.drop_left]
  have hline : (cursor.skip (word.flatMap spell).length).line = cursor.line := rfl
  generalize cursor.skip (word.flatMap spell).length = stop at hrun hbehind hline
  have hpeek : stop.peek? = some quote := by rw [Cursor.peek?, hbehind]; rfl
  refine ⟨stop.next, ?_, by simp [hbehind], hline⟩
  rw [readQuoted, Cursor.atDocumentIndicator_of_column hpos, hrun]
  simp [hne, hpeek]

/-- Behind a word and the gap after it the quoted scalar goes on. -/
private theorem readQuoted_gap {c : Char} (hc : (isBlank c || isBreak c) = true)
    (htext : cursor.rest = word.flatMap spell ++ c :: s) {gap : Gap} {after : Cursor}
    (hgap : Gap.empty.read none (c :: s).length (cursor.skip (word.flatMap spell).length) =
      some (gap, after)) (fuel : Nat) :
    readQuoted quote (fuel + 1) cursor =
      (readQuoted quote fuel after).map fun more => (word ++ gap.text ++ more.1, more.2) := by
  have hne : cursor.rest ≠ [] := by simp [htext]
  have hrun := readQuotedRun_word hspell hword (endsQuotedRun_of_gap hc) htext
  have hbehind : (cursor.skip (word.flatMap spell).length).rest = c :: s := by
    rw [Cursor.rest_skip, htext, List.drop_left]
  have hpeek : (cursor.skip (word.flatMap spell).length).peek? ≠ some quote := by
    rw [Cursor.peek?, hbehind]
    rintro heq
    obtain rfl := Option.some.inj heq
    exact absurd (hc.symm.trans hquote) (by decide)
  rw [readQuoted, Cursor.atDocumentIndicator_of_column hpos, hrun]
  simp only [Bool.false_or, List.isEmpty_eq_false_iff.mpr hne, Bool.false_eq_true, if_false, Bool.not_false,
    Bool.true_and, hpeek, decide_false, hbehind, hgap]

/-- Spaces behind a word are kept. -/
theorem readQuoted_spaces (hs : StartsWord s) {k : Nat}
    (htext : cursor.rest = word.flatMap spell ++ (List.replicate (k + 1) ' ' ++ s)) (fuel : Nat) :
    ∃ next : Cursor, next.rest = s ∧ 0 < next.column ∧ next.line = cursor.line ∧
      readQuoted quote (fuel + 1) cursor = (readQuoted quote fuel next).map fun more =>
        (word ++ List.replicate (k + 1) ' ' ++ more.1, more.2) := by
  have hbehind : (cursor.skip (word.flatMap spell).length).rest = List.replicate (k + 1) ' ' ++ s := by
    rw [Cursor.rest_skip, htext, List.drop_left]
  have hgap := Gap.read_between none hs (k + 1) (List.replicate (k + 1) ' ' ++ s).length hbehind
    (by simp)
  refine ⟨_, ?_, ?_, ?_, readQuoted_gap hspell hword hquote hpos rfl htext hgap fuel⟩
  · rw [Cursor.rest_skip, hbehind]
    simp
  · rw [Cursor.column_skip]
    exact Nat.succ_pos _
  · rfl

/-- Breaks behind a word are kept, if the first is no line feed, and the margin behind them is left
out. -/
theorem readQuoted_breaks (hs : StartsWord s) {margin : Nat} (hmargin : 0 < margin) {first : Char}
    {breaks : List Char} (hfirst : first ≠ '\n')
    (hbreaks : ∀ c ∈ first :: breaks, isWritable c = true ∧ isBreak c = true)
    (htext : cursor.rest =
      word.flatMap spell ++ (first :: breaks ++ List.replicate margin ' ' ++ s)) (fuel : Nat) :
    ∃ next : Cursor, next.rest = s ∧ 0 < next.column ∧ cursor.line ≤ next.line ∧
      readQuoted quote (fuel + 1) cursor = (readQuoted quote fuel next).map fun more =>
        (word ++ first :: breaks ++ more.1, more.2) := by
  obtain ⟨hhead, htail⟩ := List.forall_mem_cons.mp hbreaks
  have hbehind : (cursor.skip (word.flatMap spell).length).rest =
      first :: breaks ++ List.replicate margin ' ' ++ s := by
    rw [Cursor.rest_skip, htext, List.drop_left]
  obtain ⟨next, hgap, hrest, hline, hcolumn⟩ := Gap.read_breaks none hs margin hhead htail
    (first :: breaks ++ List.replicate margin ' ' ++ s).length hbehind (by simp; omega)
  have hread := readQuoted_gap hspell hword hquote hpos (by rw [hhead.2, Bool.or_true]) htext hgap fuel
  have hkept : (Gap.mk [] [first] breaks true).text = first :: breaks := by simp [Gap.text, hfirst]
  rw [hkept] at hread
  exact ⟨next, hrest, by omega, Nat.le_of_lt hline, hread⟩

end Loops

/-! ## Double quotes -/

private theorem hexText_succ (count n : Nat) :
    hexText (count + 1) n = (hexDigit (n / twoTo (4 * count) % 16)).toUpper :: hexText count n := by
  rw [hexText, List.range_succ, List.reverse_append, List.reverse_singleton, List.singleton_append,
    List.map_cons]
  rfl

private theorem hexDigit_toUpper {n : Nat} (h : n < 16) :
    isHexDigit (hexDigit n).toUpper = true ∧ hexValue (hexDigit n).toUpper = n := by
  obtain ⟨-, hdigit, hvalue⟩ := isHexDigit_recased (isHexDigit_hexDigit h)
  exact ⟨hdigit, hvalue.trans (hexValue_hexDigit h)⟩

private theorem length_hexText (count n : Nat) : (hexText count n).length = count := by
  simp [hexText]

private theorem isHexDigit_of_mem_hexText {count n : Nat} {c : Char} (h : c ∈ hexText count n) :
    isHexDigit c = true := by
  obtain ⟨i, -, rfl⟩ := List.mem_map.mp h
  exact (hexDigit_toUpper (Nat.mod_lt _ (by decide))).1

private theorem foldl_hexText (n count : Nat) :
    ∀ start, (hexText count n).foldl (fun n c => n * 16 + hexValue c) start =
      start * twoTo (4 * count) + n % twoTo (4 * count) := by
  induction count with
  | zero =>
    intro start
    simp [hexText, twoTo, Nat.mod_one]
  | succ count ih =>
    intro start
    have hpow : twoTo (4 * (count + 1)) = twoTo (4 * count) * 16 := Nat.pow_add 2 (4 * count) 4
    rw [hexText_succ, List.foldl_cons, ih, (hexDigit_toUpper (Nat.mod_lt _ (by decide))).2, hpow, Nat.mod_mul,
      Nat.add_mul, Nat.mul_assoc, Nat.mul_comm 16, Nat.mul_comm (_ % 16)]
    omega

/-- Enough hexadecimal digits write the number. -/
private theorem hexNumber_hexText {n count : Nat} (h : n < twoTo (4 * count)) :
    hexNumber (hexText count n) = n := by
  rw [hexNumber, foldl_hexText, Nat.zero_mul, Nat.zero_add, Nat.mod_eq_of_lt h]

/-- An escape, without its backslash, stands for a character. -/
def Escapes (escape : List Char) (c : Char) : Prop :=
  ∀ cursor s, cursor.rest = escape ++ s → readEscape cursor = some (c, cursor.skip escape.length)

private theorem escapes_letter {c letter : Char} (h : escapedChar? letter = some c) :
    Escapes [letter] c := by
  intro cursor s hrest
  have hpeek : cursor.peek? = some letter := by rw [Cursor.peek?, hrest]; rfl
  rw [readEscape, hpeek]
  simp only [h]
  rfl

private theorem escapes_hexText {c letter : Char} {count : Nat} (hletter : escapedChar? letter = none)
    (hcount : escapeLength? letter = some count) (hc : c.toNat < twoTo (4 * count)) :
    Escapes (letter :: hexText count c.toNat) c := by
  intro cursor s hrest
  have hpeek : cursor.peek? = some letter := by rw [Cursor.peek?, hrest]; rfl
  have htake : (cursor.next.rest.take count).takeWhile isHexDigit = hexText count c.toNat := by
    rw [Cursor.rest_next, hrest, List.cons_append, List.tail_cons,
      List.take_left' (length_hexText count c.toNat)]
    exact List.takeWhile_eq_self_iff.mpr fun d hd => isHexDigit_of_mem_hexText hd
  have hcode : hexNumber ((cursor.next.rest.take count).takeWhile isHexDigit) = c.toNat := by
    rw [htake, hexNumber_hexText hc]
  have hvalid : (hexNumber ((cursor.next.rest.take count).takeWhile isHexDigit)).isValidChar :=
    hcode ▸ c.valid
  have hchar : Char.ofNatAux _ hvalid = c := Char.toNat_inj.mp hcode
  rw [readEscape, hpeek]
  dsimp only
  rw [hletter, hcount]
  dsimp only
  rw [if_neg (not_not_intro (by rw [htake, length_hexText])), dif_pos hvalid, hchar, List.length_cons,
    length_hexText, Nat.add_comm]

private theorem spells_of_escapes {c letter : Char} {digits : List Char} (hletter : isBreak letter = false)
    (h : Escapes (letter :: digits) c) : Spells '"' ('\\' :: letter :: digits) c := by
  intro fuel cursor s hrest text after hrun
  have hescape := h cursor.next s (by rw [Cursor.rest_next, hrest]; rfl)
  rw [Cursor.skip_next] at hescape
  rw [readQuotedRun, hrest]
  simp only [List.cons_append, List.head?_cons, Option.any_some, hletter, hescape]
  simp [isBlank, isBreak]
  exact hrun

private theorem escapedChar?_of_escapeLetter? {c letter : Char} (h : escapeLetter? c = some letter) :
    escapedChar? letter = some c ∧ isBreak letter = false ∧ isWritable letter = true := by
  obtain ⟨before, behind, hlist, -⟩ := List.lookup_eq_some_iff.mp h
  have hmem : (c, letter) ∈ before ++ (c, letter) :: behind := by simp
  rw [← hlist] at hmem
  simp only [List.mem_cons, Prod.mk.injEq, List.not_mem_nil, or_false] at hmem
  iterate 13
    obtain ⟨rfl, rfl⟩ | hmem := hmem
    · decide
  obtain ⟨rfl, rfl⟩ := hmem
  decide

/-- Characters without an escape letter are no backslash, no quote and, but for the space, no gap. -/
private theorem ordinary_of_escapeLetter? {c : Char} (h : escapeLetter? c = none) :
    c ≠ '"' ∧ c ≠ '\\' ∧ isBreak c = false ∧ isBlank c = (c == ' ') := by
  have hne (p : Char × Char) := List.lookup_eq_none_iff.mp h p
  have hquote := hne ('"', '"') (by simp)
  have hbackslash := hne ('\\', '\\') (by simp)
  have htab := hne ('\t', 't') (by simp)
  have hfeed := hne ('\n', 'n') (by simp)
  have hreturn := hne ('\r', 'r') (by simp)
  have hnext := hne ('\x85', 'N') (by simp)
  have hline := hne ('\u2028', 'L') (by simp)
  have hparagraph := hne ('\u2029', 'P') (by simp)
  simp only [bne_iff_ne, ne_eq] at hquote hbackslash htab hfeed hreturn hnext hline hparagraph
  simp [isBreak, isBlank, *]

/-- Each character but the space is read back from its form between double quotes. -/
private theorem spells_doubleQuotedChar {c : Char} (hc : c ≠ ' ') : Spells '"' (doubleQuotedChar c) c := by
  rw [doubleQuotedChar]
  cases hescape : escapeLetter? c with
  | some letter =>
    obtain ⟨hletter, hbreak, -⟩ := escapedChar?_of_escapeLetter? hescape
    exact spells_of_escapes hbreak (escapes_letter hletter)
  | none =>
    obtain ⟨hquote, hbackslash, hbreak, hblank⟩ := ordinary_of_escapeLetter? hescape
    have hsmall : c.toNat < twoTo (4 * 8) := UInt32.toNat_lt c.val
    simp only
    split
    · intro fuel cursor s hrest text after hrun
      rw [readQuotedRun, hrest]
      have hspace : (c == ' ') = false := beq_eq_false_iff_ne.mpr hc
      simp [hbreak, hblank, hspace, hquote, hbackslash]
      exact hrun
    split
    · exact spells_of_escapes (by decide) (escapes_hexText (by decide) (by decide) ‹_›)
    split
    · exact spells_of_escapes (by decide) (escapes_hexText (by decide) (by decide) ‹_›)
    · exact spells_of_escapes (by decide) (escapes_hexText (by decide) (by decide) hsmall)

theorem doubleQuotedChar_ne_nil (c : Char) : doubleQuotedChar c ≠ [] := by
  rw [doubleQuotedChar]
  split
  · simp
  · split
    · simp
    · split
      · simp
      · split <;> simp

/-- Between double quotes all characters can be written. -/
theorem isWritable_of_mem_doubleQuotedChar {c d : Char} (h : d ∈ doubleQuotedChar c) : isWritable d = true := by
  have hdigit : ∀ count, d ∈ hexText count c.toNat → isWritable d = true := by
    intro count hmem
    have hhex := isHexDigit_of_mem_hexText hmem
    simp only [isHexDigit, isAsciiDigit, Bool.or_eq_true, Bool.and_eq_true, decide_eq_true_eq] at hhex
    rcases hhex with (⟨hlow, hhigh⟩ | ⟨hlow, hhigh⟩) | ⟨hlow, hhigh⟩ <;>
      exact isWritable_of_range _ _ hlow hhigh (by decide) (by decide)
  have hescaped : ∀ letter count, isWritable letter = true → d ∈ '\\' :: letter :: hexText count c.toNat →
      isWritable d = true := by
    intro letter count hletter hmem
    rcases List.mem_cons.mp hmem with rfl | hmem
    · rfl
    · rcases List.mem_cons.mp hmem with rfl | hmem
      · exact hletter
      · exact hdigit count hmem
  rw [doubleQuotedChar] at h
  cases hescape : escapeLetter? c with
  | some letter =>
    obtain ⟨-, -, hletter⟩ := escapedChar?_of_escapeLetter? hescape
    rw [hescape] at h
    exact hescaped letter 0 hletter h
  | none =>
    simp only [hescape] at h
    split at h
    · exact List.mem_singleton.mp h ▸ ‹_›
    · split at h
      · exact hescaped 'x' 2 rfl h
      · split at h
        · exact hescaped 'u' 4 rfl h
        · exact hescaped 'U' 8 rfl h

private theorem doubleQuotedChar_space : doubleQuotedChar ' ' = [' '] := by decide

private theorem startsWord_doubleQuoted {s t : List Char} (hs : s.head? ≠ some ' ') :
    StartsWord (s.flatMap doubleQuotedChar ++ '"' :: t) := by
  cases s with
  | nil => exact startsWord_cons (by decide) (by decide)
  | cons c s =>
    have hc : (c == ' ') = false := beq_eq_false_iff_ne.mpr fun heq => hs (congrArg some heq)
    rw [List.flatMap_cons, doubleQuotedChar]
    cases hescape : escapeLetter? c with
    | some letter => exact startsWord_cons (by decide) (by decide)
    | none =>
      obtain ⟨-, -, hbreak, hblank⟩ := ordinary_of_escapeLetter? hescape
      simp only
      split
      · exact startsWord_cons (hblank.trans hc) hbreak
      · split
        · exact startsWord_cons (by decide) (by decide)
        · split <;> exact startsWord_cons (by decide) (by decide)

/-- Every text is read back from between double quotes. -/
theorem readQuoted_double {t : List Char} (ht : t.head? ≠ some '"') (fuel : Nat) :
    ∀ (s : List Char) (cursor : Cursor), s.length < fuel →
      cursor.rest = s.flatMap doubleQuotedChar ++ '"' :: t → 0 < cursor.column →
      ∃ after, readQuoted '"' fuel cursor = some (s, after) ∧ after.rest = t ∧ after.line = cursor.line := by
  induction fuel with
  | zero =>
    intro s cursor hfuel
    exact absurd hfuel (Nat.not_lt_zero _)
  | succ fuel ih =>
    intro s cursor hfuel htext hpos
    obtain ⟨word, k, tail, rfl, hword, htail, hzero⟩ := exists_word s
    have hspells : ∀ c ∈ word, Spells '"' (doubleQuotedChar c) c :=
      fun c hc => spells_doubleQuotedChar (ne_of_mem_of_not_mem hc hword)
    cases k with
    | zero =>
      rw [hzero rfl, List.replicate_zero, List.append_nil, List.append_nil] at htext ⊢
      exact readQuoted_closes doubleQuotedChar_ne_nil hspells (by decide) hpos ht htext fuel
    | succ k =>
      have hspaces : (List.replicate (k + 1) ' ').flatMap doubleQuotedChar = List.replicate (k + 1) ' ' := by
        rw [List.flatMap_replicate, doubleQuotedChar_space, List.flatten_replicate_singleton]
      rw [List.flatMap_append, List.flatMap_append, hspaces, List.append_assoc, List.append_assoc] at htext
      obtain ⟨next, hrest, hposNext, hline, hread⟩ := readQuoted_spaces doubleQuotedChar_ne_nil hspells
        (by decide) hpos (startsWord_doubleQuoted htail) htext fuel
      have hshorter : tail.length < fuel := by
        simp only [List.length_append, List.length_replicate] at hfuel
        omega
      obtain ⟨after, hmore, hrestAfter, hlineAfter⟩ := ih tail next hshorter hrest hposNext
      refine ⟨after, ?_, hrestAfter, hlineAfter.trans hline⟩
      rw [hread, hmore, Option.map_some]

/-! ## Single quotes -/

/-- A character between single quotes. -/
def singleQuotedChar (c : Char) : List Char := if c = '\'' then ['\'', '\''] else [c]

section SingleQuotes

variable {margin : Nat} {s : List Char}

private theorem singleQuotedChars_append {word : List Char} (hword : ∀ c ∈ word, isBreak c = false) :
    singleQuotedChars margin false (word ++ s) =
      word.flatMap singleQuotedChar ++ singleQuotedChars margin false s := by
  induction word with
  | nil => rfl
  | cons c word ih =>
    rw [List.cons_append, singleQuotedChars, hword c List.mem_cons_self,
      ih fun d hd => hword d (List.mem_cons_of_mem c hd), List.flatMap_cons, singleQuotedChar]
    simp

/-- Behind breaks stands a margin. -/
private theorem singleQuotedChars_breaks {breaks : List Char} (hbreaks : ∀ c ∈ breaks, isBreak c = true)
    (hs : ∀ c, s.head? = some c → isBreak c = false) :
    singleQuotedChars margin true (breaks ++ s) =
      breaks ++ List.replicate margin ' ' ++ singleQuotedChars margin false s := by
  induction breaks with
  | nil =>
    cases s with
    | nil => simp [singleQuotedChars, Yaml.margin]
    | cons c s => simp [singleQuotedChars, hs c rfl, Yaml.margin]
  | cons c breaks ih =>
    rw [List.cons_append, singleQuotedChars, hbreaks c List.mem_cons_self,
      ih fun d hd => hbreaks d (List.mem_cons_of_mem c hd)]
    rfl

private theorem startsWord_singleQuoted {t : List Char}
    (hs : ∀ c, s.head? = some c → isBlank c = false ∧ isBreak c = false) :
    StartsWord (singleQuotedChars margin false s ++ '\'' :: t) := by
  cases s with
  | nil => exact startsWord_cons (by decide) (by decide)
  | cons c s =>
    obtain ⟨hblank, hbreak⟩ := hs c rfl
    rw [singleQuotedChars, hbreak]
    by_cases hquote : c = '\''
    · subst hquote
      exact startsWord_cons (by decide) (by decide)
    · simp only [hquote, Bool.false_eq_true, if_false, List.nil_append, List.cons_append]
      exact startsWord_cons hblank hbreak

private theorem spells_singleQuotedChar {c : Char} (hgap : (isBlank c || isBreak c) = false) :
    Spells '\'' (singleQuotedChar c) c := by
  intro fuel cursor t hrest text after hrun
  rw [singleQuotedChar] at hrest hrun
  split at hrest
  case isTrue hquote =>
    subst hquote
    rw [if_pos rfl] at hrun
    rw [readQuotedRun, hrest]
    simp [isBlank, isBreak]
    exact hrun
  case isFalse hquote =>
    rw [if_neg hquote] at hrun
    rw [readQuotedRun, hrest]
    simp [hgap, hquote]
    exact hrun

private theorem singleQuotedChar_ne_nil (c : Char) : singleQuotedChar c ≠ [] := by
  rw [singleQuotedChar]
  split <;> simp

theorem length_le_singleQuotedChars (indent : Nat) (lineStart : Bool) (s : List Char) :
    s.length ≤ (singleQuotedChars indent lineStart s).length := by
  induction s generalizing lineStart with
  | nil => exact Nat.zero_le _
  | cons c s ih =>
    have hrest := ih false
    have hpos : 0 < (singleQuotedChar c).length := List.length_pos_iff.mpr (singleQuotedChar_ne_nil c)
    rw [singleQuotedChar] at hpos
    rw [singleQuotedChars]
    split
    · exact Nat.succ_le_succ (ih true)
    · simp only [List.length_append, List.length_cons]
      omega

end SingleQuotes

/-- A text is a word, spaces or breaks behind it, and a rest that does not go on with them. -/
private theorem exists_piece (s : List Char) :
    ∃ word gap tail, s = word ++ gap ++ tail ∧ (∀ c ∈ word, c ≠ ' ' ∧ isBreak c = false) ∧
      ((gap = [] ∧ tail = []) ∨
        ((∃ k, gap = List.replicate (k + 1) ' ') ∧ ∀ c, tail.head? = some c → c ≠ ' ') ∨
        (gap ≠ [] ∧ (∀ c ∈ gap, isBreak c = true) ∧ ∀ c, tail.head? = some c → isBreak c = false)) := by
  obtain ⟨word, rest, rfl, hword, hstop⟩ := exists_span (fun c => c != ' ' && !isBreak c) s
  have hchars : ∀ c ∈ word, c ≠ ' ' ∧ isBreak c = false := fun c hc => by simpa using hword c hc
  cases rest with
  | nil => exact ⟨word, [], [], by simp, hchars, .inl ⟨rfl, rfl⟩⟩
  | cons c rest =>
    by_cases hspace : c = ' '
    · obtain ⟨spaces, tail, rfl, hspaces, htail⟩ := exists_span (· == ' ') rest
      have hreplicate : spaces = List.replicate spaces.length ' ' :=
        List.eq_replicate_of_mem fun d hd => by simpa using hspaces d hd
      refine ⟨word, c :: spaces, tail, by simp, hchars, .inr (.inl ⟨⟨spaces.length, ?_⟩, fun d hd => ?_⟩)⟩
      · rw [hspace, hreplicate, List.length_replicate, List.replicate_succ]
      · simpa using htail d hd
    · have hbreak : isBreak c = true := by simpa [hspace] using hstop c rfl
      obtain ⟨breaks, tail, rfl, hbreaks, htail⟩ := exists_span isBreak rest
      exact ⟨word, c :: breaks, tail, by simp, hchars,
        .inr (.inr ⟨List.cons_ne_nil c breaks, List.forall_mem_cons.mpr ⟨hbreak, hbreaks⟩, htail⟩)⟩

/-- A text that reads back from between single quotes. -/
structure IsSingleQuotable (s : List Char) : Prop where
  chars : ∀ c ∈ s, isWritable c = true ∧ c ≠ '\n'
  inside : anyNeighbours (fun a b => (a == ' ' && isBreak b) || (isBreak a && b == ' ')) s = false

namespace IsSingleQuotable

variable {word gap tail : List Char}

theorem of_tail (h : IsSingleQuotable (word ++ gap ++ tail)) : IsSingleQuotable tail :=
  ⟨fun c hc => h.chars c (List.mem_append_right _ hc), anyNeighbours_append_right h.inside⟩

/-- Behind spaces stands no break, and behind breaks no space. -/
theorem startsWord_tail (h : IsSingleQuotable (word ++ gap ++ tail)) (hgap : gap ≠ [])
    (hcase : (∀ c ∈ gap, c = ' ') ∧ (∀ c, tail.head? = some c → c ≠ ' ') ∨
      (∀ c ∈ gap, isBreak c = true) ∧ ∀ c, tail.head? = some c → isBreak c = false) :
    ∀ c, tail.head? = some c → isBlank c = false ∧ isBreak c = false := by
  intro c hc
  obtain ⟨rest, rfl⟩ := List.head?_eq_some_iff.mp hc
  obtain ⟨init, last, rfl⟩ := (List.eq_nil_or_concat gap).resolve_left hgap
  have hwritable := (h.chars c (by simp)).1
  have hinside := h.inside
  rw [List.concat_eq_append, ← List.append_assoc, List.append_assoc, List.singleton_append] at hinside
  have hneighbours := not_test_of_anyNeighbours hinside
  rw [isBlank_of_isWritable hwritable]
  obtain ⟨hspaces, htail⟩ | ⟨hbreaks, htail⟩ := hcase
  · have hlast : last = ' ' := hspaces last (by simp)
    have hc := htail c rfl
    simp [hlast] at hneighbours
    simp [hc, hneighbours]
  · have hlast : isBreak last = true := hbreaks last (by simp)
    have hc := htail c rfl
    simp [hlast] at hneighbours
    simp [hc, hneighbours]

end IsSingleQuotable

/-- A text is read back from between single quotes. -/
theorem readQuoted_single {t : List Char} (ht : t.head? ≠ some '\'') {margin : Nat} (hmargin : 0 < margin)
    (fuel : Nat) :
    ∀ (s : List Char) (cursor : Cursor), s.length < fuel → IsSingleQuotable s →
      cursor.rest = singleQuotedChars margin false s ++ '\'' :: t → 0 < cursor.column →
      ∃ after, readQuoted '\'' fuel cursor = some (s, after) ∧ after.rest = t ∧ cursor.line ≤ after.line := by
  induction fuel with
  | zero =>
    intro s cursor hfuel
    exact absurd hfuel (Nat.not_lt_zero _)
  | succ fuel ih =>
    intro s cursor hfuel hs htext hpos
    obtain ⟨word, gap, tail, rfl, hword, hcase⟩ := exists_piece s
    have hspells : ∀ c ∈ word, Spells '\'' (singleQuotedChar c) c := by
      intro c hc
      refine spells_singleQuotedChar ?_
      rw [isBlank_of_isWritable (hs.chars c (by simp [hc])).1, (hword c hc).2,
        beq_eq_false_iff_ne.mpr (hword c hc).1]
      rfl
    rw [List.append_assoc, singleQuotedChars_append fun c hc => (hword c hc).2, List.append_assoc] at htext
    -- What is left is shorter, since a gap has at least one character.
    have hcontinue : ∀ next : Cursor, gap ≠ [] →
        next.rest = singleQuotedChars margin false tail ++ '\'' :: t → 0 < next.column →
        cursor.line ≤ next.line →
        readQuoted '\'' (fuel + 1) cursor =
          ((readQuoted '\'' fuel next).map fun more => (word ++ gap ++ more.1, more.2)) →
        ∃ after, readQuoted '\'' (fuel + 1) cursor = some (word ++ gap ++ tail, after) ∧ after.rest = t ∧
          cursor.line ≤ after.line := by
      intro next hgap hrest hposNext hline hread
      have hlong : 0 < gap.length := List.length_pos_iff.mpr hgap
      have hshorter : tail.length < fuel := by
        simp only [List.length_append] at hfuel
        omega
      obtain ⟨after, hmore, hrestAfter, hlineAfter⟩ := ih tail next hshorter hs.of_tail hrest hposNext
      refine ⟨after, ?_, hrestAfter, Nat.le_trans hline hlineAfter⟩
      rw [hread, hmore, Option.map_some]
    obtain ⟨rfl, rfl⟩ | ⟨⟨k, rfl⟩, htail⟩ | ⟨hgap, hbreaks, htail⟩ := hcase
    · -- The closing quote follows.
      obtain ⟨after, hread, hrest, hline⟩ :=
        readQuoted_closes singleQuotedChar_ne_nil hspells (by decide) hpos ht htext fuel
      rw [List.append_nil, List.append_nil]
      exact ⟨after, hread, hrest, Nat.le_of_eq hline.symm⟩
    · -- Spaces follow.
      have hspaces : (List.replicate (k + 1) ' ').flatMap singleQuotedChar = List.replicate (k + 1) ' ' := by
        rw [List.flatMap_replicate, show singleQuotedChar ' ' = [' '] from rfl,
          List.flatten_replicate_singleton]
      have hstart := hs.startsWord_tail (List.cons_ne_nil _ _)
        (.inl ⟨fun c hc => List.eq_of_mem_replicate hc, htail⟩)
      rw [singleQuotedChars_append fun c hc => by rw [List.eq_of_mem_replicate hc]; rfl, hspaces,
        List.append_assoc] at htext
      obtain ⟨next, hrest, hposNext, hline, hread⟩ := readQuoted_spaces singleQuotedChar_ne_nil hspells
        (by decide) hpos (startsWord_singleQuoted hstart) htext fuel
      exact hcontinue next (List.cons_ne_nil _ _) hrest hposNext (Nat.le_of_eq hline.symm) hread
    · -- Breaks follow, and the margin that the printer puts behind them.
      obtain ⟨first, breaks, rfl⟩ := List.exists_cons_of_ne_nil hgap
      have hstart := hs.startsWord_tail hgap (.inr ⟨hbreaks, htail⟩)
      have hgapChars : ∀ c ∈ first :: breaks, c ∈ word ++ (first :: breaks) ++ tail :=
        fun c hc => List.mem_append_left _ (List.mem_append_right _ hc)
      have hkept : ∀ c ∈ first :: breaks, isWritable c = true ∧ isBreak c = true :=
        fun c hc => ⟨(hs.chars c (hgapChars c hc)).1, hbreaks c hc⟩
      have hfeed : first ≠ '\n' := (hs.chars first (hgapChars first List.mem_cons_self)).2
      have hwritten : singleQuotedChars margin false (first :: breaks ++ tail) =
          first :: breaks ++ List.replicate margin ' ' ++ singleQuotedChars margin false tail := by
        rw [List.cons_append, singleQuotedChars, hbreaks first List.mem_cons_self, if_pos rfl,
          singleQuotedChars_breaks (fun c hc => hbreaks c (List.mem_cons_of_mem _ hc)) htail]
        rfl
      rw [hwritten, List.append_assoc] at htext
      obtain ⟨next, hrest, hposNext, hline, hread⟩ := readQuoted_breaks singleQuotedChar_ne_nil hspells
        (by decide) hpos (startsWord_singleQuoted hstart) hmargin hfeed hkept htext fuel
      exact hcontinue next hgap hrest hposNext hline hread

end Kitchen.Yaml
