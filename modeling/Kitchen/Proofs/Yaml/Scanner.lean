import Kitchen.Proofs.Yaml.Gap

/-!
# Turns of the scanner

Before each token the scanner settles: it passes blanks and forgets the keys that are out of reach.
States that settle alike read the same tokens. A block that ends at a line is closed before the first
token of the line, so that it may as well be closed by the state before.
-/

namespace Kitchen.Yaml

/-- A text that is empty or begins with what may be part of a token. -/
def StartsToken (s : List Char) : Prop :=
  ∀ c, s.head? = some c → isBlank c = false ∧ isBreak c = false ∧ c ≠ '#'

theorem StartsToken.startsWord {s : List Char} (h : StartsToken s) : StartsWord s := by
  intro c hc
  obtain ⟨hblank, hbreak, _⟩ := h c hc
  exact ⟨hblank, hbreak⟩

theorem startsToken_nil : StartsToken [] := by
  intro c hc
  cases hc

theorem startsToken_cons {c : Char} (hblank : isBlank c = false) (hbreak : isBreak c = false) (hc : c ≠ '#')
    (s : List Char) : StartsToken (c :: s) := by
  intro d hd
  obtain rfl := Option.some.inj hd
  exact ⟨hblank, hbreak, hc⟩

namespace Scanner

/-! ## Blanks -/

section Blanks

variable {s : List Char} {cursor : Cursor} {keyAllowed : Bool} {fuel : Nat}

private theorem takeWhile_margin (inFlow keyAllowed : Bool) (hs : StartsToken s) (k : Nat) :
    (margin k ++ s).takeWhile (fun c => c == ' ' || ((inFlow || !keyAllowed) && c == '\t')) = margin k := by
  rw [List.takeWhile_append_of_pos fun c hc => by rw [List.eq_of_mem_replicate hc]; rfl]
  cases s with
  | nil => simp
  | cons c s =>
    obtain ⟨hblank, -, -⟩ := hs c rfl
    rw [isBlank, Bool.or_eq_false_iff] at hblank
    simp [hblank]

/-- Spaces before a token are passed. -/
theorem skipBlanks_margin (inFlow : Bool) (hs : StartsToken s) (k : Nat) (hrest : cursor.rest = margin k ++ s) :
    skipBlanks inFlow (fuel + 1) keyAllowed cursor = (keyAllowed, cursor.skip k) := by
  have hskip : cursor.skipWhile (fun c => c == ' ' || ((inFlow || !keyAllowed) && c == '\t')) =
      cursor.skip k := by
    rw [Cursor.skipWhile, Cursor.takeWhile, hrest, takeWhile_margin inFlow keyAllowed hs, margin,
      List.length_replicate]
  have hafter : (cursor.skip k).rest = s := by simp [hrest, margin]
  have hpeek : (cursor.skip k).peek? = s.head? := by rw [Cursor.peek?, hafter]
  rw [skipBlanks, hskip]
  cases hhead : s.head? with
  | none => simp [hpeek, hhead]
  | some c =>
    obtain ⟨-, hbreak, hc⟩ := hs c hhead
    simp [hpeek, hhead, hbreak, hc]

/-- A line feed and a margin before a token are passed, and a key may follow. -/
theorem skipBlanks_line (hs : StartsToken s) (k : Nat) (hrest : cursor.rest = '\n' :: (margin k ++ s)) :
    skipBlanks false (fuel + 2) keyAllowed cursor = (true, (cursor.newLine 1).skip k) := by
  have hskip : cursor.skipWhile (fun c => c == ' ' || ((false || !keyAllowed) && c == '\t')) = cursor := by
    rw [Cursor.skipWhile, Cursor.takeWhile, hrest, List.takeWhile_cons_of_neg (by simp)]
    rfl
  have hpeek : cursor.peek? = some '\n' := by rw [Cursor.peek?, hrest]; rfl
  have hbreak : isBreak '\n' = true := rfl
  have hread : cursor.skipBreak = cursor.newLine 1 := by
    rw [Cursor.skipBreak, cursor.readBreak_eq hrest rfl rfl]
  rw [skipBlanks, hskip]
  simp only [hpeek, Option.some.injEq, Char.reduceEq, if_false, Option.any_some, hbreak, if_true, hread,
    Bool.not_false, Bool.or_true]
  exact skipBlanks_margin false hs k (by rw [Cursor.rest_newLine, hrest]; rfl)

end Blanks

/-! ## Settled states -/

/-- The state at the next token, behind blanks and the places of keys that are out of reach. -/
def settle (s : Scanner) : Option Scanner :=
  ((s.allow (skipBlanks s.inFlow (s.cursor.rest.length + 1) s.keyAllowed s.cursor).1).goTo
    (skipBlanks s.inFlow (s.cursor.rest.length + 1) s.keyAllowed s.cursor).2).dropStale

theorem run_settle (fuel : Nat) (s : Scanner) :
    run (fuel + 1) s = s.settle.bind fun s =>
      s.cursor.peek?.elim s.finish fun c =>
        ((s.unroll s.cursor.column).scanToken c).bind (run fuel) := by
  rw [run, settle]
  cases skipBlanks s.inFlow (s.cursor.rest.length + 1) s.keyAllowed s.cursor with
  | mk keyAllowed cursor =>
    dsimp only
    cases ((s.allow keyAllowed).goTo cursor).dropStale with
    | none => rfl
    | some t =>
      dsimp only [Option.bind_some]
      cases t.cursor.peek? with
      | none => rfl
      | some c =>
        dsimp only [Option.elim_some]
        cases (t.unroll t.cursor.column).scanToken c with
        | none => rfl
        | some next => rfl

/-- From a state some tokens are read, as long as a turn is left for each character. -/
def Scans (s : Scanner) (tokens : List Token) : Prop :=
  ∀ fuel, s.cursor.rest.length < fuel → s.run fuel = some tokens.toArray

variable {s t next : Scanner} {out : List Token}

theorem Scans.of_settle (h : s.settle = t.settle) (hlength : t.cursor.rest.length ≤ s.cursor.rest.length)
    (ht : t.Scans out) : s.Scans out := by
  intro fuel hfuel
  obtain ⟨fuel, rfl⟩ : ∃ less, fuel = less + 1 := ⟨fuel - 1, by omega⟩
  rw [run_settle, h, ← run_settle]
  apply ht
  omega

/-- A turn reads one token and what it announces. -/
theorem Scans.step (hs : s.settle = some t) {c : Char} (hpeek : t.cursor.peek? = some c)
    (hscan : (t.unroll t.cursor.column).scanToken c = some next)
    (hlength : next.cursor.rest.length < s.cursor.rest.length) (hnext : next.Scans out) : s.Scans out := by
  intro fuel hfuel
  obtain ⟨fuel, rfl⟩ : ∃ less, fuel = less + 1 := ⟨fuel - 1, by omega⟩
  rw [run_settle, hs, Option.bind_some, hpeek, Option.elim_some, hscan, Option.bind_some]
  apply hnext
  omega

/-! ## Blocks -/

variable {cursor : Cursor} {tokens : List Token} {indents : List Nat} {place : Option KeyPlace} {keyAllowed : Bool}
variable {text word : List Char} {column : Nat}

/-- A state outside of flow collections where a key may have begun. -/
def inBlocks (cursor : Cursor) (tokens : List Token) (indents : List Nat) (place : Option KeyPlace)
    (keyAllowed : Bool) : Scanner :=
  ⟨cursor, tokens.toArray, indents, [place], keyAllowed⟩

/-- The place of a key that may begin at a cursor. -/
def keyAt (cursor : Cursor) (tokens : List Token) (indents : List Nat) : KeyPlace :=
  ⟨indents.head? = some cursor.column, tokens.length, cursor.index, cursor.line, cursor.column⟩

theorem savePlace_inBlocks : (inBlocks cursor tokens indents none true).savePlace =
    some (inBlocks cursor tokens indents (some (keyAt cursor tokens indents)) true) := by
  simp [inBlocks, keyAt, savePlace, dropPlace, inFlow]

/-- A key may have begun on a line before, but need not have. -/
def IsBehind (place : Option KeyPlace) (line : Nat) : Prop :=
  ∀ key, place = some key → key.required = false ∧ key.line < line

theorem isBehind_none (line : Nat) : IsBehind none line := by
  intro key hkey
  cases hkey

theorem dropStale_of_isBehind (h : IsBehind place cursor.line) :
    (inBlocks cursor tokens indents place keyAllowed).dropStale =
      some (inBlocks cursor tokens indents none keyAllowed) := by
  cases place with
  | none => rfl
  | some key =>
    obtain ⟨hrequired, hline⟩ := h key rfl
    have hstale : isStale cursor key = true := by simp [isStale, hline]
    simp [inBlocks, dropStale, Option.filter, hstale, hrequired]

theorem settle_of_skipBlanks {after : Cursor} {allowed : Bool}
    (hskip : skipBlanks false (cursor.rest.length + 1) keyAllowed cursor = (allowed, after)) :
    (inBlocks cursor tokens indents place keyAllowed).settle =
      (inBlocks after tokens indents place allowed).dropStale := by
  have hblanks : skipBlanks (inBlocks cursor tokens indents place keyAllowed).inFlow (cursor.rest.length + 1)
      keyAllowed cursor = (allowed, after) := hskip
  rw [settle]
  dsimp only [inBlocks] at hblanks ⊢
  rw [hblanks]
  rfl

theorem settle_margin (hword : StartsToken word) (k : Nat) (hrest : cursor.rest = margin k ++ word)
    (hplace : IsBehind place cursor.line) :
    (inBlocks cursor tokens indents place keyAllowed).settle =
      some (inBlocks (cursor.skip k) tokens indents none keyAllowed) :=
  (settle_of_skipBlanks (skipBlanks_margin false hword k hrest)).trans (dropStale_of_isBehind hplace)

theorem settle_word (hword : StartsToken cursor.rest) (hplace : IsBehind place cursor.line) :
    (inBlocks cursor tokens indents place keyAllowed).settle =
      some (inBlocks cursor tokens indents none keyAllowed) :=
  settle_margin hword 0 rfl hplace

/-- A key within reach is not forgotten. -/
theorem settle_key (hword : StartsToken cursor.rest) {key : KeyPlace} (hkey : isStale cursor key = false) :
    (inBlocks cursor tokens indents (some key) keyAllowed).settle =
      some (inBlocks cursor tokens indents (some key) keyAllowed) := by
  have hdrop : (inBlocks cursor tokens indents (some key) keyAllowed).dropStale =
      some (inBlocks cursor tokens indents (some key) keyAllowed) := by
    simp [inBlocks, dropStale, Option.filter, hkey]
  exact (settle_of_skipBlanks (skipBlanks_margin false hword 0 rfl)).trans hdrop

theorem settle_line (hword : StartsToken word) (k : Nat) (hrest : cursor.rest = '\n' :: (margin k ++ word))
    (hplace : IsBehind place (cursor.line + 1)) :
    (inBlocks cursor tokens indents place keyAllowed).settle =
      some (inBlocks ((cursor.newLine 1).skip k) tokens indents none true) := by
  obtain ⟨fuel, hfuel⟩ : ∃ fuel, cursor.rest.length = fuel + 1 := ⟨cursor.rest.length - 1, by simp [hrest]⟩
  have hskip : skipBlanks false (cursor.rest.length + 1) keyAllowed cursor = (true, (cursor.newLine 1).skip k) := by
    rw [hfuel]
    exact skipBlanks_line hword k hrest
  exact (settle_of_skipBlanks hskip).trans (dropStale_of_isBehind hplace)

theorem unroll_of_le (h : ∀ indent, indents.head? = some indent → indent ≤ cursor.column) (place : Option KeyPlace) :
    (inBlocks cursor tokens indents place keyAllowed).unroll cursor.column =
      inBlocks cursor tokens indents place keyAllowed := by
  have hopen : indents.takeWhile (cursor.column < ·) = [] ∧ indents.dropWhile (cursor.column < ·) = indents := by
    cases indents with
    | nil => exact ⟨rfl, rfl⟩
    | cons indent outer =>
      have hle := h indent rfl
      simp [hle]
  simp [inBlocks, unroll, inFlow, hopen]

/-- A turn in which no block ends. -/
theorem Scans.turn (hs : s.settle = some (inBlocks cursor tokens indents place keyAllowed)) {c : Char}
    (hpeek : cursor.peek? = some c) (hle : ∀ indent, indents.head? = some indent → indent ≤ cursor.column)
    (hscan : (inBlocks cursor tokens indents place keyAllowed).scanToken c = some next)
    (hlength : next.cursor.rest.length < s.cursor.rest.length) (hnext : next.Scans out) : s.Scans out := by
  have hopen : (inBlocks cursor tokens indents place keyAllowed).unroll cursor.column =
      inBlocks cursor tokens indents place keyAllowed := unroll_of_le hle place
  apply Scans.step hs hpeek _ hlength hnext
  exact (congrArg (·.scanToken c) hopen).trans hscan

/-- At a column of a line the reading goes on, wherever the line stands. -/
def Resumes (out : List Token) (column : Nat) (word : List Char) (tokens : List Token) (indents : List Nat) : Prop :=
  ∀ cursor : Cursor, cursor.rest = word → cursor.column = column →
    (inBlocks cursor tokens indents none true).Scans out

theorem Resumes.scans (hword : StartsToken word) (h : Resumes out column word tokens indents)
    (hrest : cursor.rest = word) (hcolumn : cursor.column = column) (hplace : IsBehind place cursor.line) :
    (inBlocks cursor tokens indents place true).Scans out := by
  refine Scans.of_settle (t := inBlocks cursor tokens indents none true) ?_ (Nat.le_refl _) (h cursor hrest hcolumn)
  rw [← hrest] at hword
  rw [settle_word hword hplace, settle_word hword (isBehind_none _)]

theorem unroll_close {i : Nat} (h : cursor.column < i) :
    (inBlocks cursor tokens (i :: indents) none keyAllowed).unroll cursor.column =
      (inBlocks cursor (tokens ++ [.blockEnd]) indents none keyAllowed).unroll cursor.column := by
  simp [inBlocks, unroll, inFlow, h]

theorem finish_close {i : Nat} :
    (inBlocks cursor tokens (i :: indents) none keyAllowed).finish =
      (inBlocks cursor (tokens ++ [.blockEnd]) indents none keyAllowed).finish := by
  have hunroll : (inBlocks cursor tokens (i :: indents) none keyAllowed).unrollAll =
      (inBlocks cursor (tokens ++ [.blockEnd]) indents none keyAllowed).unrollAll := by
    simp only [inBlocks, unrollAll, inFlow, List.map_cons, List.append_toArray, List.append_assoc,
      List.singleton_append, List.length_singleton, Nat.lt_irrefl, decide_false, Bool.false_eq_true, if_false]
  rw [finish, finish, hunroll]

/-- A block ends before the first line that stands to the left of it. -/
theorem Resumes.close (hword : StartsToken word) {i : Nat} (hcolumn : column < i)
    (h : Resumes out column word (tokens ++ [.blockEnd]) indents) :
    Resumes out column word tokens (i :: indents) := by
  intro cursor hrest hcursor fuel hfuel
  obtain ⟨fuel, rfl⟩ : ∃ less, fuel = less + 1 := ⟨fuel - 1, by omega⟩
  have hread := h cursor hrest hcursor (fuel + 1) hfuel
  rw [← hrest] at hword
  rw [run_settle, settle_word hword (isBehind_none _), Option.bind_some] at hread ⊢
  have hfinish : (inBlocks cursor tokens (i :: indents) none true).finish = _ := finish_close
  have hunroll : (inBlocks cursor tokens (i :: indents) none true).unroll cursor.column = _ :=
    unroll_close (hcursor ▸ hcolumn)
  dsimp only [inBlocks] at hread hfinish hunroll ⊢
  rw [hfinish, hunroll]
  exact hread

/-- Lines of which the first stands no further to the right than a column. -/
def Lines (out : List Token) (column : Nat) (text : List Char) (tokens : List Token) (indents : List Nat) : Prop :=
  ∃ k word, text = margin k ++ word ∧ k ≤ column ∧ StartsToken word ∧ Resumes out k word tokens indents

/-- Behind the end of a line the next one is read. -/
theorem Lines.scans (h : Lines out column text tokens indents) (hrest : cursor.rest = '\n' :: text)
    (hplace : IsBehind place (cursor.line + 1)) :
    (inBlocks cursor tokens indents place keyAllowed).Scans out := by
  obtain ⟨k, word, rfl, hk, hword, hresumes⟩ := h
  have hword' : ((cursor.newLine 1).skip k).rest = word := by simp [hrest, margin]
  refine Scans.of_settle ?_ ?_ (hresumes ((cursor.newLine 1).skip k) hword' (Nat.zero_add k))
  · rw [← hword'] at hword
    rw [settle_line (hword' ▸ hword) k hrest hplace, settle_word hword (isBehind_none _)]
  · simp [inBlocks, hrest]
    omega

theorem Lines.close {inner : Nat} (hcolumn : column < inner)
    (h : Lines out column text (tokens ++ [.blockEnd]) indents) :
    Lines out inner text tokens (inner :: indents) := by
  obtain ⟨k, word, rfl, hk, hword, hresumes⟩ := h
  refine ⟨k, word, rfl, by omega, hword, hresumes.close hword (by omega)⟩

end Scanner
end Kitchen.Yaml
