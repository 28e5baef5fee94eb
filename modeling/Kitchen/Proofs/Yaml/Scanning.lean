import Kitchen.Proofs.Yaml.Literal
import Kitchen.Proofs.Yaml.Quoted
import Kitchen.Proofs.Yaml.Scanner

/-!
# Scanning written nodes

A written node is read as its tokens. The scalars, the keys and the hyphens take a turn or two each;
the nodes are put together from them.
-/

namespace Kitchen.Yaml

open Text

/-! ## Scalars and names -/

/-- A text that keeps its characters in a style. -/
inductive IsFaithful : Style → String → Prop where
  | plain {text : String} (h : allowsPlain text.toList = true) (hne : text.toList ≠ []) : IsFaithful .plain text
  | singleQuoted {text : String} (h : IsSingleQuotable text.toList) : IsFaithful .singleQuoted text
  | doubleQuoted (text : String) : IsFaithful .doubleQuoted text
  | literal {text : String} (h : ∀ c ∈ text.toList, isWritable c = true) (hne : text.toList ≠ []) :
      IsFaithful .literal text

/-- The name of a field: a short word of letters, digits and underscores. -/
structure IsName (name : String) : Prop where
  nonempty : name.toList ≠ []
  short : name.toList.length ≤ Scanner.keyLimit
  chars : ∀ c ∈ name.toList, (c.isAlphanum || c == '_') = true

theorem isPlainTail_of_allowsPlain {s : List Char} (h : allowsPlain s = true) : IsPlainTail s := by
  simp only [allowsPlain, hasIndicatorInside, Bool.and_eq_true, Bool.not_eq_true', Bool.or_eq_false_iff,
    List.all_eq_true, Bool.and_eq_true, Bool.not_eq_true'] at h
  obtain ⟨⟨⟨⟨⟨hchars, hhead⟩, hlast⟩, -⟩, hfirst⟩, hcolon, hinside⟩ := h
  refine ⟨hchars, ⟨?_, ?_⟩, ⟨?_, ?_⟩, hinside⟩
  · intro hspace
    simp [hspace] at hhead
  · intro hhash
    obtain ⟨rest, rfl⟩ := List.head?_eq_some_iff.mp hhash
    simp [hasIndicatorFirst] at hfirst
  · intro hspace
    simp [hspace] at hlast
  · exact beq_eq_false_iff_ne.mp hcolon

/-! ## First characters -/

theorem Cursor.atIndicator_of_column {cursor : Cursor} (h : 0 < cursor.column) (c : Char) :
    cursor.atIndicator c = false := by
  have hcolumn : (cursor.column == 0) = false := beq_eq_false_iff_ne.mpr (Nat.ne_of_gt h)
  simp [atIndicator, hcolumn]

namespace Scanner

variable {s : Scanner}

theorem scanToken_plain {c : Char} {text rest : List Char} (hrest : s.cursor.rest = c :: text ++ rest)
    (hfirst : hasIndicatorFirst (c :: text) = false) (hblank : isBlank c = false) (hflow : s.inFlow = false)
    (hdash : s.cursor.atIndicator '-' = false) (hdot : s.cursor.atIndicator '.' = false) :
    s.scanToken c = s.plain := by
  simp [hasIndicatorFirst] at hfirst
  obtain ⟨hmarks, halone⟩ := hfirst
  have hsecond : c = '?' ∨ c = ':' ∨ c = '-' → isBoundary (s.cursor.peekAt? 1) = false := by
    intro hc
    have htext : isBoundary text.head? = false := halone (by tauto)
    cases text with
    | nil => cases htext
    | cons d text => simpa [Cursor.peekAt?, hrest] using htext
  by_cases hc : c = '?' ∨ c = ':' ∨ c = '-'
  · have hboundary := hsecond hc
    have hblankSecond : (s.cursor.peekAt? 1).any isBlank = false := by
      cases hpeek : s.cursor.peekAt? 1 with
      | none => rfl
      | some d => 
        simp [isBoundary, hpeek] at hboundary
        simp [hboundary]
    rcases hc with rfl | rfl | rfl <;>
      simp [scanToken, startsPlain, isIndicator, hdash, hdot, hflow, hboundary, hblankSecond]
  · simp only [not_or] at hc
    simp [scanToken, startsPlain, isIndicator, hdash, hdot, hflow, hblank, hmarks, hc]

end Scanner

/-! ## Names -/

section Names

variable {name : String} {text : List Char} {cursor : Cursor}

theorem ne_of_isNamePart {c d : Char} (hc : (c.isAlphanum || c == '_') = true)
    (hd : (d.isAlphanum || d == '_') = false) : c ≠ d := by
  rintro rfl
  exact Bool.noConfusion (hc.symm.trans hd)

theorem IsName.exists_cons (h : IsName name) :
    ∃ c s, name.toList = c :: s ∧ (c.isAlphanum || c == '_') = true := by
  obtain ⟨c, s, hname⟩ := List.exists_cons_of_ne_nil h.nonempty
  exact ⟨c, s, hname, h.chars c (hname ▸ List.mem_cons_self)⟩

theorem IsName.hasIndicatorFirst (h : IsName name) : hasIndicatorFirst name.toList = false := by
  obtain ⟨c, s, hname, hc⟩ := h.exists_cons
  have hmarks : ∀ d ∈ "#,[]\x7b\x7d&*!|>'\"%@`?:-".toList, (d.isAlphanum || d == '_') = false :=
    List.all_iff_forall_prop.mp (by decide)
  have hne := fun d hd => ne_of_isNamePart hc (hmarks d hd)
  rw [hname]
  simp at hne
  simp [Yaml.hasIndicatorFirst, hne]

theorem IsName.startsToken (h : IsName name) (text : List Char) : StartsToken (name.toList ++ text) := by
  obtain ⟨c, s, hname, hc⟩ := h.exists_cons
  have hne := fun d => ne_of_isNamePart (d := d) hc
  rw [hname]
  apply startsToken_cons
  · simp [isBlank, hne ' ' (by decide), hne '\t' (by decide)]
  · simp [isBreak, hne '\n' (by decide), hne '\r' (by decide), hne '\x85' (by decide),
      hne '\u2028' (by decide), hne '\u2029' (by decide)]
  · exact hne '#' (by decide)

/-- Three hyphens or points do not begin a name. -/
theorem IsName.atIndicator (h : IsName name) (hrest : cursor.rest = name.toList ++ text) :
    cursor.atIndicator '-' = false ∧ cursor.atIndicator '.' = false := by
  obtain ⟨c, s, hname, hc⟩ := h.exists_cons
  have hne := fun d => ne_of_isNamePart (d := d) hc
  simp [Cursor.atIndicator, hrest, hname, hne '-' (by decide), hne '.' (by decide)]

/-- A name is read up to its colon. -/
theorem IsName.readPlain (h : IsName name) (hrest : cursor.rest = name.toList ++ ':' :: text)
    (htext : isBoundary text.head? = true) (indent fuel : Nat) :
    readPlain false indent (fuel + 1) .empty cursor =
      some (name.toList, false, cursor.skip name.toList.length) := by
  obtain ⟨hdash, hdot⟩ := h.atIndicator hrest
  have hparts : ∀ c ∈ name.toList, isBlank c = false ∧ isBreak c = false := by
    intro c hmem
    have hne := fun d => ne_of_isNamePart (d := d) (h.chars c hmem)
    simp [isBlank, isBreak, hne ' ' (by decide), hne '\t' (by decide), hne '\n' (by decide),
      hne '\r' (by decide), hne '\x85' (by decide), hne '\u2028' (by decide), hne '\u2029' (by decide)]
  have hcolon : name.toList.getLast? ≠ some ':' := by
    intro hlast
    exact ne_of_isNamePart (h.chars ':' (List.mem_of_getLast? hlast)) (by decide) rfl
  have hrun := readPlainRun_append hparts hcolon (endsRun_of_colon htext) (cursor.rest.length + 1) cursor hrest
    (by rw [hrest, List.length_append]; omega)
  have hhash : cursor.peek? ≠ some '#' := by
    intro hpeek
    rw [Cursor.peek?, hrest] at hpeek
    exact (h.startsToken _ '#' hpeek).2.2 rfl
  have hempty : name.toList.isEmpty = false := List.isEmpty_eq_false_iff.mpr h.nonempty
  have hpeek : (cursor.skip name.toList.length).peek? = some ':' := by
    rw [Cursor.peek?, Cursor.rest_skip, hrest, List.drop_left]
    rfl
  rw [Yaml.readPlain, hrun]
  simp [Cursor.atDocumentIndicator, hdash, hdot, hhash, hempty, hpeek, isBlank, isBreak, Gap.text, Gap.empty]

end Names

namespace Scanner

variable {cursor : Cursor} {tokens out : List Token} {indents : List Nat} {keyAllowed : Bool}

/-! ## Keys -/

/-- A key at a column stands in the innermost block, or opens a mapping there. -/
inductive Opens : List Nat → Nat → List Token → List Nat → Prop where
  | within (column : Nat) (outer : List Nat) : Opens (column :: outer) column [] (column :: outer)
  | first {indents : List Nat} {column : Nat} (h : ∀ indent, indents.head? = some indent → indent < column) :
      Opens indents column [.blockMapping] (column :: indents)

theorem insert_toArray (front back : List Token) (token : Token) :
    (front ++ back).toArray.insertIdxIfInBounds front.length token = (front ++ token :: back).toArray := by
  rw [List.insertIdxIfInBounds_toArray]
  congr 1
  induction front with
  | nil => rfl
  | cons first front ih => exact congrArg (first :: ·) ih

/-- A token at a place is announced as a key, and the mapping that it opens before it. -/
theorem valueIndicator_of_opens {key : KeyPlace} {announced : List Token} {within : List Nat}
    (h : Opens indents key.column announced within) (hkey : key.token = tokens.length) (token : Token) :
    (inBlocks cursor (tokens ++ [token]) indents (some key) keyAllowed).valueIndicator =
      some (inBlocks cursor.next (tokens ++ announced ++ [.key, token, .value]) within none false) := by
  have hinsert := insert_toArray tokens [token] .key
  cases h with
  | within column outer =>
    have hroll : ∀ s : Scanner, s.indents = key.column :: outer → s.roll key.column tokens.length .blockMapping = s := by
      intro s hs
      simp [roll, hs]
    simp [inBlocks, valueIndicator, hkey, hinsert, hroll, push, goTo]
  | first hless =>
    have hopen : indents.head?.any (key.column ≤ ·) = false := by
      cases hhead : indents.head? with
      | none => rfl
      | some indent => exact decide_eq_false (Nat.not_le_of_lt (hless indent hhead))
    have hinsert' := insert_toArray tokens [.key, token] .blockMapping
    simp [inBlocks, valueIndicator, hkey, hinsert, hinsert', hopen, roll, inFlow, push, goTo]

theorem Opens.le {column : Nat} {announced : List Token} {within : List Nat}
    (h : Opens indents column announced within) : ∀ indent, indents.head? = some indent → indent ≤ column := by
  intro indent hindent
  cases h with
  | within _ outer => exact Nat.le_of_eq (Option.some.inj hindent).symm
  | first hless => exact Nat.le_of_lt (hless indent hindent)

theorem scanToken_colon {s : Scanner} {text : List Char} (hrest : s.cursor.rest = ':' :: text)
    (htext : isBoundary text.head? = true) : s.scanToken ':' = s.valueIndicator := by
  simp [scanToken, Cursor.atIndicator, Cursor.peekAt?, hrest, htext]

section Key

variable {name : String} {text : List Char}

/-- A name is read as a scalar that may be a key. -/
theorem scanToken_name (hname : IsName name) (htext : isBoundary text.head? = true)
    (hrest : cursor.rest = name.toList ++ ':' :: text) {c : Char} (hc : name.toList.head? = some c) :
    (inBlocks cursor tokens indents none true).scanToken c =
      some (inBlocks (cursor.skip name.toList.length) (tokens ++ [.scalar .plain name]) indents
        (some (keyAt cursor tokens indents)) false) := by
  obtain ⟨s, hs⟩ := List.head?_eq_some_iff.mp hc
  obtain ⟨hdash, hdot⟩ := hname.atIndicator hrest
  have hblank : isBlank c = false := (hname.startsToken [] c (by simpa using hc)).1
  have hread := hname.readPlain hrest htext
  rw [scanToken_plain (by rw [← hs]; exact hrest) (hs ▸ hname.hasIndicatorFirst) hblank rfl hdash hdot, plain,
    savePlace_inBlocks]
  simp [inBlocks, inFlow, hread, allow, push, goTo]

/-- A key and its colon take two turns. -/
theorem scans_key (hname : IsName name) (htext : isBoundary text.head? = true) {announced : List Token}
    {within : List Nat} (hopens : Opens indents cursor.column announced within)
    (hrest : cursor.rest = name.toList ++ ':' :: text)
    (h : (inBlocks (cursor.skip (name.toList.length + 1))
      (tokens ++ announced ++ [.key, .scalar .plain name, .value]) within none false).Scans out) :
    (inBlocks cursor tokens indents none true).Scans out := by
  obtain ⟨c, s, hcons, -⟩ := hname.exists_cons
  obtain ⟨stop, hstop⟩ : ∃ stop, stop = cursor.skip name.toList.length := ⟨_, rfl⟩
  have hcolon : stop.rest = ':' :: text := by rw [hstop, Cursor.rest_skip, hrest, List.drop_left]
  have hscan : (inBlocks cursor tokens indents none true).scanToken c =
      some (inBlocks stop (tokens ++ [.scalar .plain name]) indents (some (keyAt cursor tokens indents)) false) := by
    rw [hstop]
    exact scanToken_name hname htext hrest (by rw [hcons]; rfl)
  have hvalue : (inBlocks stop (tokens ++ [.scalar .plain name]) indents
      (some (keyAt cursor tokens indents)) false).scanToken ':' =
        some (inBlocks stop.next (tokens ++ announced ++ [.key, .scalar .plain name, .value]) within none false) :=
    (scanToken_colon hcolon htext).trans (valueIndicator_of_opens hopens rfl _)
  have hkept : isStale stop (keyAt cursor tokens indents) = false := by
    simp [isStale, keyAt, hstop, Cursor.skip, hname.short]
  have hcolumn : ∀ indent, indents.head? = some indent → indent ≤ stop.column := by
    intro indent hindent
    exact hstop ▸ Nat.le_trans (hopens.le indent hindent) (Nat.le_add_right _ _)
  apply Scans.turn (settle_word (hrest ▸ hname.startsToken _) (isBehind_none _))
    (by simp [Cursor.peek?, hrest, hcons]) hopens.le hscan
  · have hlong : 0 < name.toList.length := List.length_pos_iff.mpr hname.nonempty
    simp [inBlocks, hcolon, hrest]
    omega
  apply Scans.turn (settle_key (hcolon ▸ startsToken_cons (by decide) (by decide) (by decide) text) hkept)
    (by rw [Cursor.peek?, hcolon]; rfl) hcolumn hvalue
  · simp [inBlocks, hcolon]
  · rwa [hstop, Cursor.next, Cursor.skip_skip]

end Key

/-! ## Items -/

/-- The hyphen of an item that stands at the column of the mapping around it. -/
theorem scans_entry {outer : List Nat} {text : List Char} (hrest : cursor.rest = '-' :: ' ' :: text)
    (h : (inBlocks cursor.next (tokens ++ [.blockEntry]) (cursor.column :: outer) none true).Scans out) :
    (inBlocks cursor tokens (cursor.column :: outer) none true).Scans out := by
  have hword : StartsToken cursor.rest := hrest ▸ startsToken_cons (by decide) (by decide) (by decide) _
  have hblank : isBlank ' ' = true := rfl
  have hscan : (inBlocks cursor tokens (cursor.column :: outer) none true).scanToken '-' =
      some (inBlocks cursor.next (tokens ++ [.blockEntry]) (cursor.column :: outer) none true) := by
    simp [inBlocks, scanToken, Cursor.atIndicator, Cursor.peekAt?, hrest, isBoundary, hblank, entry, inFlow, roll,
      structural, dropPlace, allow, push, goTo, Cursor.next]
  apply Scans.turn (settle_word hword (isBehind_none _)) (by rw [Cursor.peek?, hrest]; rfl) _ hscan _ h
  · intro indent hindent
    exact Nat.le_of_eq (Option.some.inj hindent).symm
  · simp [inBlocks, hrest]

section Brackets

variable {column : Nat} {text : List Char}

theorem scans_close (hrest : cursor.rest = ']' :: '\n' :: text)
    (h : Lines out column text (tokens ++ [.flowSequenceEnd]) indents) :
    (Scanner.mk cursor tokens.toArray indents [none, none] true).Scans out := by
  obtain ⟨s, hs⟩ : ∃ s, s = Scanner.mk cursor tokens.toArray indents [none, none] true := ⟨_, rfl⟩
  have hskip : skipBlanks s.inFlow (s.cursor.rest.length + 1) s.keyAllowed s.cursor = (true, cursor) := by
    rw [hs]
    exact skipBlanks_margin true (startsToken_cons (by decide) (by decide) (by decide) _) 0 hrest
  have hstay : s.settle = some s := by
    rw [settle, hskip, hs]
    rfl
  have hclose : (s.unroll s.cursor.column).scanToken ']' =
      some (inBlocks cursor.next (tokens ++ [.flowSequenceEnd]) indents none false) := by
    simp [hs, unroll, inFlow, inBlocks, scanToken, Cursor.atIndicator, hrest, closeFlow, dropPlace, allow, push]
  rw [← hs]
  apply Scans.step hstay (by rw [hs, Cursor.peek?, hrest]; rfl) hclose
  · simp [hs, inBlocks, hrest]
  · exact h.scans (by rw [Cursor.rest_next, hrest]; rfl) (isBehind_none _)

/-- A sequence without items takes two turns. -/
theorem scans_emptySequence (hrest : cursor.rest = " []\n".toList ++ text)
    (hcolumn : ∀ indent, indents.head? = some indent → indent ≤ cursor.column)
    (h : Lines out column text (tokens ++ [.flowSequence, .flowSequenceEnd]) indents) :
    (inBlocks cursor tokens indents none false).Scans out := by
  obtain ⟨start, hstart⟩ : ∃ start, start = cursor.skip 1 := ⟨_, rfl⟩
  have hopened : start.rest = '[' :: ']' :: '\n' :: text := by rw [hstart, Cursor.rest_skip, hrest]; rfl
  have hopen : (inBlocks start tokens indents none false).scanToken '[' =
      some (Scanner.mk start.next (tokens ++ [Token.flowSequence]).toArray indents [none, none] true) := by
    simp [inBlocks, scanToken, Cursor.atIndicator, hopened, openFlow, savePlace, allow, push]
  have hsettle : (inBlocks cursor tokens indents none false).settle = some (inBlocks start tokens indents none false) :=
    hstart ▸ settle_margin (startsToken_cons (by decide) (by decide) (by decide) _) 1 hrest (isBehind_none _)
  apply Scans.turn hsettle (by rw [Cursor.peek?, hopened]; rfl) _ hopen
  · simp [inBlocks, hopened, hrest]
  · apply scans_close (by rw [Cursor.rest_next, hopened]; rfl)
    rwa [List.append_assoc]
  · intro indent hindent
    exact hstart ▸ Nat.le_succ_of_le (hcolumn indent hindent)

end Brackets

/-! ## Scalars -/

section Scalars

variable {indent : Nat} {outer : List Nat} {text : String} {lines : List Char}

/-- Where no key has to follow, the place of one is forgotten on the next line. -/
theorem exists_savePlace (h : indents.head? ≠ some cursor.column) (tokens : List Token) (keyAllowed : Bool) :
    ∃ place, (inBlocks cursor tokens indents none keyAllowed).savePlace =
        some (inBlocks cursor tokens indents place keyAllowed) ∧
      ∀ line, cursor.line < line → IsBehind place line := by
  cases keyAllowed with
  | false => exact ⟨none, rfl, fun line _ => isBehind_none line⟩
  | true =>
    refine ⟨some (keyAt cursor tokens indents), savePlace_inBlocks, fun line hline key hkey => ?_⟩
    obtain rfl := Option.some.inj hkey
    exact ⟨decide_eq_false h, hline⟩

/-- A token is read at the cursor, and the rest behind it. -/
def Turns (s : Scanner) (out : List Token) : Prop :=
  ∃ c next, s.cursor.peek? = some c ∧ s.scanToken c = some next ∧
    next.cursor.rest.length < s.cursor.rest.length ∧ next.Scans out

theorem Turns.scans (h : (inBlocks cursor tokens indents none keyAllowed).Turns out) {s : Scanner}
    (hs : s.settle = some (inBlocks cursor tokens indents none keyAllowed))
    (hle : ∀ indent, indents.head? = some indent → indent ≤ cursor.column)
    (hlength : cursor.rest.length ≤ s.cursor.rest.length) : s.Scans out := by
  obtain ⟨c, next, hpeek, hscan, hless, hnext⟩ := h
  exact Scans.turn hs hpeek hle hscan (Nat.lt_of_lt_of_le hless hlength) hnext

private theorem turns_plain (h : allowsPlain text.toList = true) (hne : text.toList ≠ [])
    (hrest : cursor.rest = text.toList ++ '\n' :: lines) (hcolumn : indent < cursor.column)
    (hlines : Lines out indent lines (tokens ++ [.scalar .plain text]) (indent :: outer)) :
    (inBlocks cursor tokens (indent :: outer) none keyAllowed).Turns out := by
  obtain ⟨k, word, rfl, hk, hword, hresumes⟩ := hlines
  obtain ⟨c, s, hcons⟩ := List.exists_cons_of_ne_nil hne
  have hplain := isPlainTail_of_allowsPlain h
  have hpos : 0 < cursor.column := by omega
  have hne' : (indent :: outer).head? ≠ some cursor.column := by simp; omega
  obtain ⟨place, hsave, hbehind⟩ := exists_savePlace hne' tokens keyAllowed
  have hfirst : hasIndicatorFirst (c :: s) = false := by
    rw [← hcons]
    simp only [allowsPlain, Bool.and_eq_true, Bool.not_eq_true'] at h
    exact h.1.2
  have hblank : isBlank c = false := (hplain.startsWord hne [] c (by simp [hcons])).1
  obtain ⟨after, hread, hrestAfter, hline, hcolumnAfter⟩ :
      ∃ after, readPlain false (indent + 1) (cursor.rest.length + 1) .empty cursor = some (text.toList, true, after) ∧
        after.rest = word ∧ cursor.line < after.line ∧ after.column = k :=
    readPlain_tail (Nat.lt_succ_of_le hk) hword.startsWord (cursor.rest.length + 1) text.toList .empty cursor hne
      (by rw [hrest, List.length_append]; omega) hplain (by rw [hrest, margin]; simp) hpos hcolumn
  refine ⟨c, inBlocks after (tokens ++ [.scalar .plain text]) (indent :: outer) place true, ?_, ?_, ?_, ?_⟩
  · simp [inBlocks, Cursor.peek?, hrest, hcons]
  · rw [scanToken_plain (by rw [← hcons]; exact hrest) hfirst hblank rfl (Cursor.atIndicator_of_column hpos _)
      (Cursor.atIndicator_of_column hpos _), plain, hsave]
    simp [inBlocks, inFlow, hread, allow, push, goTo]
  · simp [inBlocks, hrest, hrestAfter]
    omega
  · exact hresumes.scans hword hrestAfter hcolumnAfter (hbehind _ hline)

/-- A scalar in quotes, up to the end of its line. -/
private theorem turns_quoted {quote : Char} {style : Style} {body : List Char}
    (hscan : ∀ s : Scanner, 0 < s.cursor.column → s.scanToken quote = s.quoted quote style)
    (hrest : cursor.rest = quote :: (body ++ '\n' :: lines)) (hcolumn : indent < cursor.column)
    (hread : ∃ after, readQuoted quote (cursor.rest.length + 1) cursor.next = some (text.toList, after) ∧
      after.rest = '\n' :: lines ∧ cursor.line ≤ after.line)
    (hlines : Lines out indent lines (tokens ++ [.scalar style text]) (indent :: outer)) :
    (inBlocks cursor tokens (indent :: outer) none keyAllowed).Turns out := by
  have hne : (indent :: outer).head? ≠ some cursor.column := by simp; omega
  obtain ⟨place, hsave, hbehind⟩ := exists_savePlace hne tokens keyAllowed
  obtain ⟨after, hread, hrestAfter, hline⟩ := hread
  refine ⟨quote, inBlocks after (tokens ++ [.scalar style text]) (indent :: outer) place false, ?_, ?_, ?_, ?_⟩
  · simp [inBlocks, Cursor.peek?, hrest]
  · rw [hscan _ (Nat.zero_lt_of_lt hcolumn), quoted, hsave]
    simp [inBlocks, hread, allow, push, goTo]
  · simp only [inBlocks, hrest, hrestAfter, List.length_cons, List.length_append]
    omega
  · exact hlines.scans hrestAfter (hbehind _ (Nat.lt_succ_of_le hline))

private theorem turns_literal {s : List Char} (hrest : cursor.rest = '|' :: s) (hcolumn : 0 < cursor.column)
    {k : Nat} {word : List Char} (hword : StartsToken word) (hlength : word.length ≤ s.length)
    (hread : ∃ after, readBlock true (some indent) cursor.next = some (text.toList, after) ∧
      after.rest = word ∧ after.column = k)
    (hresumes : Resumes out k word (tokens ++ [.scalar .literal text]) (indent :: outer)) :
    (inBlocks cursor tokens (indent :: outer) none keyAllowed).Turns out := by
  obtain ⟨after, hread, hrestAfter, hcolumnAfter⟩ := hread
  refine ⟨'|', inBlocks after (tokens ++ [.scalar .literal text]) (indent :: outer) none true, ?_, ?_, ?_, ?_⟩
  · simp [inBlocks, Cursor.peek?, hrest]
  · have hmark := fun c => Cursor.atIndicator_of_column hcolumn c
    simp [inBlocks, scanToken, hmark, inFlow, block, dropPlace, hread, allow, push, goTo]
  · simp [inBlocks, hrest, hrestAfter]
    omega
  · exact hresumes.scans hword hrestAfter hcolumnAfter (isBehind_none _)

theorem startsToken_scalar {style : Style} (h : IsFaithful style text) (indent : Nat) (s : List Char) :
    StartsToken (scalarChars indent style text ++ s) := by
  cases h with
  | plain hallowed hne =>
    have hplain := isPlainTail_of_allowsPlain hallowed
    intro c hc
    have hhead : text.toList.head? = some c := by
      simpa [scalarChars, List.head?_append, Option.or_of_isSome (List.isSome_head?.mpr hne)] using hc
    obtain ⟨hblank, hbreak⟩ := hplain.startsWord hne [] c (by simpa using hhead)
    refine ⟨hblank, hbreak, ?_⟩
    rintro rfl
    exact hplain.head.2 hhead
  | singleQuoted _ => exact startsToken_cons (by decide) (by decide) (by decide) _
  | doubleQuoted _ => exact startsToken_cons (by decide) (by decide) (by decide) _
  | literal _ _ =>
    rw [scalarChars_literal]
    exact startsToken_cons (by decide) (by decide) (by decide) _

/-- A faithful scalar is read as its text, up to the margin of the next line. -/
theorem turns_scalar {style : Style} (h : IsFaithful style text)
    (hrest : cursor.rest = scalarChars (indent + step) style text ++ lines) (hcolumn : indent < cursor.column)
    (hlines : Lines out indent lines (tokens ++ [.scalar style text]) (indent :: outer)) :
    (inBlocks cursor tokens (indent :: outer) none keyAllowed).Turns out := by
  have hnext : 0 < cursor.next.column := Nat.succ_pos _
  cases h with
  | plain hallowed hne =>
    apply turns_plain hallowed hne _ hcolumn hlines
    simpa [scalarChars] using hrest
  | singleQuoted hquotable =>
    have hrest' : cursor.rest =
        '\'' :: (singleQuotedChars (indent + step) false text.toList ++ ['\''] ++ '\n' :: lines) := by
      simpa [scalarChars] using hrest
    have hlength := length_le_singleQuotedChars (indent + step) false text.toList
    apply turns_quoted (fun s hpos => by simp [scanToken, Cursor.atIndicator_of_column hpos]) hrest' hcolumn _ hlines
    have hmargin : 0 < indent + step := Nat.add_pos_right indent (by decide)
    exact readQuoted_single (t := '\n' :: lines) (by simp) hmargin (cursor.rest.length + 1) text.toList cursor.next
      (by rw [hrest', List.length_cons, List.length_append, List.length_append]; omega) hquotable
      (by rw [Cursor.rest_next, hrest', List.tail_cons, List.append_assoc]; rfl) hnext
  | doubleQuoted _ =>
    have hrest' : cursor.rest = '"' :: (text.toList.flatMap doubleQuotedChar ++ ['"'] ++ '\n' :: lines) := by
      simpa [scalarChars] using hrest
    have hlength := length_le_flatMap doubleQuotedChar_ne_nil text.toList
    apply turns_quoted (fun s hpos => by simp [scanToken, Cursor.atIndicator_of_column hpos]) hrest' hcolumn _ hlines
    obtain ⟨after, hread, hrestAfter, hline⟩ :=
      readQuoted_double (t := '\n' :: lines) (by simp) (cursor.rest.length + 1) text.toList cursor.next
        (by rw [hrest', List.length_cons, List.length_append, List.length_append]; omega)
        (by rw [Cursor.rest_next, hrest', List.tail_cons, List.append_assoc]; rfl) hnext
    exact ⟨after, hread, hrestAfter, Nat.le_of_eq hline.symm⟩
  | literal hwritable hne =>
    obtain ⟨k, word, rfl, hk, hword, hresumes⟩ := hlines
    rw [scalarChars_literal, List.cons_append] at hrest
    obtain ⟨after, hread, hrestAfter, hcolumnAfter, -⟩ :=
      readBlock_literal hk hword.startsWord hwritable hne
        (by rw [Cursor.rest_next, hrest, List.tail_cons, margin]; simp only [List.append_assoc, List.cons_append])
    apply turns_literal hrest (Nat.zero_lt_of_lt hcolumn) hword _ ⟨after, hread, hrestAfter, hcolumnAfter⟩ hresumes
    simp only [List.length_append, List.length_cons]
    omega

/-- A scalar behind a space. -/
theorem scans_scalar {style : Style} (h : IsFaithful style text)
    (hrest : cursor.rest = ' ' :: (scalarChars (indent + step) style text ++ lines)) (hcolumn : indent ≤ cursor.column)
    (hlines : Lines out indent lines (tokens ++ [.scalar style text]) (indent :: outer)) :
    (inBlocks cursor tokens (indent :: outer) none keyAllowed).Scans out := by
  have hbehind : (cursor.skip 1).rest = scalarChars (indent + step) style text ++ lines := by
    rw [Cursor.rest_skip, hrest]
    rfl
  have hturns : (inBlocks (cursor.skip 1) tokens (indent :: outer) none keyAllowed).Turns out :=
    turns_scalar h hbehind (Nat.lt_succ_of_le hcolumn) hlines
  apply hturns.scans (settle_margin (startsToken_scalar h _ lines) 1 hrest (isBehind_none _))
  · intro i hi
    obtain rfl := Option.some.inj hi
    exact Nat.le_succ_of_le hcolumn
  · simp [inBlocks]

end Scalars

end Scanner

end Kitchen.Yaml
