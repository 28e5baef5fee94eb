import Kitchen.Operation.LetterCase
import Kitchen.Proofs.Regex.LiteralSearch
import Kitchen.Proofs.Regex.Search
import Kitchen.Proofs.Text.CodeRange
import Mathlib.Data.List.DropRight

/-!
# Upper case at starts

Upper case in a scope changes the word characters at its starts and no others. The patterns of starts
come to programs whose runs pass what may lead to a start, an opening and the blanks behind it, and
take the character at the start as their group. Whether a start may stand somewhere depends on the
text before it alone. A search that goes on behind a start misses none of the later ones, for no word
character stands between a start and what leads to it.
-/

namespace Kitchen.LetterCase

open Regex Regex.Run Text

/-! ## Programs -/

/-- The group of every pattern: a word character at a word boundary. -/
def startExpr : Expr := .capture 1 none (.concat [.look (.wordBoundary true), .set wordRanges])

/-- A character or an assertion, and blanks. -/
def leadExpr (opening : Char) (kind : Look) : List Expr :=
  [.group (.alternate [.set (.single opening), .look kind]), .repeated (.set blankRanges) 0 none true]

def startCode : Code := [.save 2, .look (.wordBoundary true), .take wordRanges, .save 3]

def leadCode (opening : Char) (kind : Look) : Code :=
  [.fork 1 3, .take (.single opening), .jump 2, .look kind, .fork 1 3, .take blankRanges, .jump (-2)]

namespace Scope

def expr : Scope → Expr
  | word => startExpr
  | sentence => .concat (leadExpr '.' .textStart ++ [startExpr])
  | paragraph => .concat (.empty :: leadExpr '\n' .lineStart ++ [startExpr])

/-- The instructions before those of the start. -/
def lead : Scope → Code
  | word => []
  | sentence => leadCode '.' .textStart
  | paragraph => leadCode '\n' .lineStart

/-- The program of a scope. -/
abbrev program (scope : Scope) : Array Instruction := (scope.lead ++ startCode).toArray

theorem ofPattern_pattern (scope : Scope) :
    Expr.ofPattern .default scope.pattern.toList = .ok scope.expr := by
  cases scope with
  | word => rfl
  | sentence =>
    have hchars : sentence.pattern.toList = ['(', '?', ':', '\\', '.', '|', '^', ')', '\\', 's', '*',
      '(', '\\', 'b', '\\', 'w', ')'] := by rfl
    rw [hchars]
    rfl
  | paragraph =>
    have hchars : paragraph.pattern.toList = ['(', '?', 'm', ')', '(', '?', ':', '\\', 'n', '|', '^',
      ')', '\\', 's', '*', '(', '\\', 'b', '\\', 'w', ')'] := by rfl
    rw [hchars]
    rfl

theorem code_expr (scope : Scope) : scope.expr.code = scope.lead ++ startCode := by
  cases scope <;> rfl

theorem groupNames_expr (scope : Scope) : scope.expr.groupNames = [none] := by
  cases scope <;> rfl

theorem bytes_expr_le (scope : Scope) :
    scope.expr.bytes + Matcher.frameBytes ≤ Matcher.sizeLimit := by
  cases scope <;> decide +kernel

/-- Every pattern has a matcher. -/
theorem compile_pattern (scope : Scope) :
    Matcher.compile .default scope.pattern = .ok ⟨scope.program, [none]⟩ := by
  rw [Matcher.compile, ofPattern_pattern]
  dsimp only
  rw [if_neg (Nat.not_lt.mpr scope.bytes_expr_le), code_expr, groupNames_expr]

end Scope

/-! ## Runs that finish -/

variable {text : Array Char} {run : Run} {saved : List (Nat × Nat)} {p q : Nat}

/-- A position runs through blanks to another one. -/
def Blanks (text : Array Char) : Nat → Nat → Prop :=
  Relation.ReflTransGen fun i j => (text[i]?).any isBlank = true ∧ j = i + 1

/-- A lead opens at `p` and its blanks start at `q`. -/
inductive Opening (opening : Char) (kind : Look) (text : Array Char) (p : Nat) : Nat → Prop
  | taken : text[p]? = some opening → Opening opening kind text p (p + 1)
  | looked : kind.holds (charBefore text p) text[p]? = true → Opening opening kind text p p

/-- An opening and blanks stand from `p` to `q`. -/
def Lead (opening : Char) (kind : Look) (text : Array Char) (p q : Nat) : Prop :=
  ∃ i, Opening opening kind text p i ∧ Blanks text i q

/-- What stands from `p` to `q` leads to a start. -/
def Scope.Leads : Scope → Array Char → Nat → Nat → Prop
  | word, _, p, q => p = q
  | sentence, text, p, q => Lead '.' .textStart text p q
  | paragraph, text, p, q => Lead '\n' .lineStart text p q

/-- A word character that follows no word character. -/
structure BeginsWord (text : Array Char) (q : Nat) : Prop where
  isWord : (text[q]?).any isWord = true
  before : (charBefore text q).any Text.isWord = false

theorem holds_wordBoundary_and :
    ((Look.wordBoundary true).holds (charBefore text q) text[q]? = true ∧
      (text[q]?).any wordRanges.has = true) ↔ BeginsWord text q := by
  change ((charBefore text q).any isWord != (text[q]?).any isWord) = true ∧
    (text[q]?).any isWord = true ↔ _
  constructor
  · rintro ⟨hboundary, hword⟩
    rw [hword] at hboundary
    exact ⟨hword, by simpa using hboundary⟩
  · rintro ⟨hword, hbefore⟩
    rw [hword, hbefore]
    exact ⟨rfl, rfl⟩

theorem getElem?_startCode (lead : Code) (i : Nat) :
    (lead ++ startCode).toArray[lead.length + i]? = startCode[i]? := by
  rw [List.getElem?_toArray, List.getElem?_append_right (Nat.le_add_right _ _),
    Nat.add_sub_cancel_left]

/-- The instructions of the start take one character and save where it stands. -/
theorem finishes_startCode (lead : Code) :
    Finishes (lead ++ startCode).toArray text ⟨lead.length, q, saved⟩ run ↔
      BeginsWord text q ∧
        run = ⟨lead.length + 4, q + 1, (3, q + 1) :: (2, q) :: saved⟩ := by
  have hend : lead.length + 4 = (lead ++ startCode).toArray.size := by simp [startCode]
  have hfirst := getElem?_startCode lead 0
  rw [Nat.add_zero] at hfirst
  rw [finishes_save hfirst, finishes_look (getElem?_startCode lead 1),
    finishes_take (getElem?_startCode lead 2), finishes_save (getElem?_startCode lead 3),
    finishes_of_pc_eq hend, ← and_assoc, holds_wordBoundary_and]

/-- The program behind a lead that takes a character or makes an assertion. -/
abbrev openedProgram (opening : Char) (kind : Look) : Array Instruction :=
  (leadCode opening kind ++ startCode).toArray

variable {opening : Char} {kind : Look}

theorem finishes_blank : Finishes (openedProgram opening kind) text ⟨4, p, saved⟩ run ↔
    ((text[p]?).any isBlank = true ∧
      Finishes (openedProgram opening kind) text ⟨4, p + 1, saved⟩ run) ∨
    Finishes (openedProgram opening kind) text ⟨7, p, saved⟩ run := by
  have hfork : (openedProgram opening kind)[4]? = some (.fork 1 3) := rfl
  have htake : (openedProgram opening kind)[5]? = some (.take blankRanges) := rfl
  have hjump : (openedProgram opening kind)[6]? = some (.jump (-2)) := rfl
  refine (finishes_fork hfork).trans (or_congr_left ?_)
  exact (finishes_take htake).trans (and_congr_right fun _ => finishes_jump hjump)

/-- The instructions of the blanks pass any number of them. -/
theorem finishes_blanks : Finishes (openedProgram opening kind) text ⟨4, p, saved⟩ run ↔
    ∃ q, Blanks text p q ∧ Finishes (openedProgram opening kind) text ⟨7, q, saved⟩ run := by
  constructor
  · intro h
    -- Every blank that is passed leaves less of the text.
    induction hleft : text.size - p generalizing p with
    | zero =>
      rcases finishes_blank.mp h with ⟨hblank, -⟩ | h
      · rw [Array.getElem?_eq_none (Nat.le_of_sub_eq_zero hleft)] at hblank
        cases hblank
      · exact ⟨p, .refl, h⟩
    | succ left ih =>
      rcases finishes_blank.mp h with ⟨hblank, h⟩ | h
      · obtain ⟨q, hblanks, hq⟩ := ih h (by omega)
        exact ⟨q, .head ⟨hblank, rfl⟩ hblanks, hq⟩
      · exact ⟨p, .refl, h⟩
  · rintro ⟨q, hblanks, h⟩
    induction hblanks using Relation.ReflTransGen.head_induction_on with
    | refl => exact finishes_blank.mpr (.inr h)
    | head hstep _ ih =>
      obtain ⟨hblank, rfl⟩ := hstep
      exact finishes_blank.mpr (.inl ⟨hblank, ih⟩)

/-- The instructions of the opening take its character or make its assertion. -/
theorem finishes_opening : Finishes (openedProgram opening kind) text (startAt p) run ↔
    ∃ i, Opening opening kind text p i ∧
      Finishes (openedProgram opening kind) text ⟨4, i, [(0, p)]⟩ run := by
  have hfork : (openedProgram opening kind)[0]? = some (.fork 1 3) := rfl
  have htake : (openedProgram opening kind)[1]? = some (.take (.single opening)) := rfl
  have hjump : (openedProgram opening kind)[2]? = some (.jump 2) := rfl
  have hlook : (openedProgram opening kind)[3]? = some (.look kind) := rfl
  have hsingle : (text[p]?).any (CharSet.single opening).has = true ↔ text[p]? = some opening := by
    cases text[p]? with
    | none => simp
    | some c => rw [Option.any_some, CharSet.has_single, Option.some_inj]
  have hways : Finishes (openedProgram opening kind) text (startAt p) run ↔
      (text[p]? = some opening ∧
        Finishes (openedProgram opening kind) text ⟨4, p + 1, [(0, p)]⟩ run) ∨
      (kind.holds (charBefore text p) text[p]? = true ∧
        Finishes (openedProgram opening kind) text ⟨4, p, [(0, p)]⟩ run) := by
    refine (finishes_fork hfork).trans (or_congr ?_ (finishes_look hlook))
    exact (finishes_take htake).trans (and_congr hsingle (finishes_jump hjump))
  rw [hways]
  constructor
  · rintro (⟨htaken, h⟩ | ⟨hlooked, h⟩)
    · exact ⟨p + 1, .taken htaken, h⟩
    · exact ⟨p, .looked hlooked, h⟩
  · rintro ⟨i, hopening, h⟩
    cases hopening with
    | taken htaken => exact .inl ⟨htaken, h⟩
    | looked hlooked => exact .inr ⟨hlooked, h⟩

theorem finishes_opened : Finishes (openedProgram opening kind) text (startAt p) run ↔
    ∃ q, Lead opening kind text p q ∧ BeginsWord text q ∧
      run = ⟨11, q + 1, [(3, q + 1), (2, q), (0, p)]⟩ := by
  have hstart (q : Nat) : Finishes (openedProgram opening kind) text ⟨7, q, [(0, p)]⟩ run ↔
      BeginsWord text q ∧ run = ⟨11, q + 1, [(3, q + 1), (2, q), (0, p)]⟩ :=
    finishes_startCode (leadCode opening kind)
  simp only [finishes_opening, finishes_blanks, hstart]
  constructor
  · rintro ⟨i, hopening, q, hblanks, h⟩
    exact ⟨q, ⟨i, hopening, hblanks⟩, h⟩
  · rintro ⟨q, ⟨i, hopening, hblanks⟩, h⟩
    exact ⟨i, hopening, q, hblanks, h⟩

/-- A run from a position finishes if the position leads to a word that begins, and takes the first
character of the word as its group. -/
theorem Scope.finishes_iff (scope : Scope) :
    Finishes scope.program text (startAt p) run ↔
      ∃ q, scope.Leads text p q ∧ BeginsWord text q ∧
        run = ⟨scope.lead.length + 4, q + 1, [(3, q + 1), (2, q), (0, p)]⟩ := by
  cases scope with
  | word =>
    refine (finishes_startCode []).trans ?_
    constructor
    · rintro ⟨hbegins, hrun⟩
      exact ⟨p, rfl, hbegins, hrun⟩
    · rintro ⟨q, rfl, hbegins, hrun⟩
      exact ⟨hbegins, hrun⟩
  | sentence => exact finishes_opened
  | paragraph => exact finishes_opened

/-! ## Starts -/

namespace Scope

/-- The name of a scope as an argument. -/
def label : Scope → String
  | word => "Word"
  | sentence => "Sentence"
  | paragraph => "Paragraph"

/-- Whether a word character is a start depends on the text before it. A word starts at the beginning
and behind every character that is no word character. The blanks right before a sentence start at the
beginning or right behind a period; those right before a paragraph start at the beginning or have a
line feed among them. -/
def Opens : Scope → List Char → Prop
  | word, before => ∀ c ∈ before.getLast?, isWord c = false
  | sentence, before => ∀ c ∈ (before.rdropWhile isBlank).getLast?, c = '.'
  | paragraph, before => before.rdropWhile isBlank = [] ∨ '\n' ∈ before.rtakeWhile isBlank

instance (scope : Scope) (before : List Char) : Decidable (scope.Opens before) :=
  match scope with
  | word => Option.decidableForallMem before.getLast?
  | sentence => Option.decidableForallMem (before.rdropWhile isBlank).getLast?
  | paragraph => instDecidableOr

variable {scope : Scope} {before : List Char} {c : Char}

theorem opens_nil (scope : Scope) : scope.Opens [] := by
  cases scope <;> simp [Opens]

theorem word_opens_concat : word.Opens (before ++ [c]) ↔ isWord c = false := by
  simp [Opens]

theorem sentence_opens_concat :
    sentence.Opens (before ++ [c]) ↔ c = '.' ∨ isBlank c = true ∧ sentence.Opens before := by
  rw [Opens, Opens]
  by_cases hblank : isBlank c = true
  · have hperiod : c ≠ '.' := by
      rintro rfl
      exact absurd hblank (by decide)
    rw [List.rdropWhile_concat_pos _ _ _ hblank]
    simp [hblank, hperiod]
  · rw [List.rdropWhile_concat_neg _ _ _ hblank]
    simp [hblank]

theorem paragraph_opens_concat :
    paragraph.Opens (before ++ [c]) ↔ isBlank c = true ∧ (c = '\n' ∨ paragraph.Opens before) := by
  rw [Opens, Opens]
  by_cases hblank : isBlank c = true
  · rw [List.rdropWhile_concat_pos _ _ _ hblank, List.rtakeWhile_concat_pos _ _ _ hblank]
    simp only [hblank, List.mem_append, List.mem_singleton]
    tauto
  · rw [List.rdropWhile_concat_neg _ _ _ hblank, List.rtakeWhile_concat_neg _ _ _ hblank]
    simp [hblank]

-- A line feed before the blanks of a line lets a paragraph start behind them, but no sentence.
example : paragraph.Opens ['a', '\n', ' '] ∧ ¬ sentence.Opens ['a', '\n', ' '] := by decide

/-- No start follows a word character. -/
theorem Opens.isWord_eq_false (h : scope.Opens (before ++ [c])) : isWord c = false := by
  cases scope with
  | word => exact word_opens_concat.mp h
  | sentence =>
    rcases sentence_opens_concat.mp h with rfl | ⟨hblank, -⟩
    · decide +kernel
    · exact isWord_of_isBlank hblank
  | paragraph => exact isWord_of_isBlank (paragraph_opens_concat.mp h).1

/-- The starts of a scope are those behind an opening and blanks, where the opening is a character or
the place of an assertion. -/
structure OpenedBy (scope : Scope) (opening : Char) (kind : Look) : Prop where
  isWord_eq_false : isWord opening = false
  begins : ∀ after, kind.holds none after = true
  taken : ∀ before, scope.Opens (before ++ [opening])
  looked : ∀ before after, kind.holds before.getLast? after = true → scope.Opens before
  blank : ∀ before c, isBlank c = true → scope.Opens before → scope.Opens (before ++ [c])
  concat : ∀ before c, scope.Opens (before ++ [c]) →
    c = opening ∨ isBlank c = true ∧ scope.Opens before

theorem openedBy_sentence : sentence.OpenedBy '.' .textStart where
  isWord_eq_false := by decide +kernel
  begins _ := rfl
  taken _ := sentence_opens_concat.mpr (.inl rfl)
  looked before _ h := by
    rw [List.getLast?_eq_none_iff.mp (Option.isNone_iff_eq_none.mp h)]
    exact opens_nil _
  blank _ _ hblank h := sentence_opens_concat.mpr (.inr ⟨hblank, h⟩)
  concat _ _ h := sentence_opens_concat.mp h

theorem openedBy_paragraph : paragraph.OpenedBy '\n' .lineStart where
  isWord_eq_false := by decide +kernel
  begins _ := rfl
  taken _ := paragraph_opens_concat.mpr ⟨by decide, .inl rfl⟩
  looked before _ h := by
    rcases List.eq_nil_or_concat' before with rfl | ⟨before, c, rfl⟩
    · exact opens_nil _
    · change (before ++ [c]).getLast?.all (· == '\n') = true at h
      rw [List.getLast?_concat, Option.all_some, beq_iff_eq] at h
      rw [h]
      exact paragraph_opens_concat.mpr ⟨by decide, .inl rfl⟩
  blank _ _ hblank h := paragraph_opens_concat.mpr ⟨hblank, .inr h⟩
  concat _ _ h := by
    obtain ⟨hblank, hfeed | h⟩ := paragraph_opens_concat.mp h
    · exact .inl hfeed
    · exact .inr ⟨hblank, h⟩

end Scope

/-! ## What leads to a start -/

section Leads

variable {scope : Scope} {opening c : Char} {kind : Look} {text : Array Char} {s : List Char}
  {p q i : Nat}

theorem charBefore_toArray (h : q ≤ s.length) : charBefore s.toArray q = (s.take q).getLast? := by
  cases q with
  | zero => rfl
  | succ q =>
    rw [charBefore, if_neg (Nat.succ_ne_zero q), Nat.add_sub_cancel, List.getElem?_toArray,
      List.getLast?_take, if_neg (Nat.succ_ne_zero q), Nat.add_sub_cancel,
      List.getElem?_eq_getElem h, Option.some_or]

theorem take_succ_of_getElem? (h : s[q]? = some c) : s.take (q + 1) = s.take q ++ [c] := by
  rw [List.take_add_one, h, Option.toList_some]

theorem Blanks.le (h : Blanks text p q) : p ≤ q := by
  induction h with
  | refl => exact Nat.le_refl p
  | tail _ hstep ih => exact hstep.2 ▸ Nat.le_succ_of_le ih

theorem Opening.le (h : Opening opening kind text p i) : p ≤ i := by
  cases h with
  | taken => exact Nat.le_succ p
  | looked => exact Nat.le_refl p

theorem Lead.le (h : Lead opening kind text p q) : p ≤ q := by
  obtain ⟨i, hopening, hblanks⟩ := h
  exact Nat.le_trans hopening.le hblanks.le

theorem Scope.Leads.le (h : scope.Leads text p q) : p ≤ q := by
  cases scope with
  | word => exact Nat.le_of_eq h
  | sentence => exact Lead.le h
  | paragraph => exact Lead.le h

theorem Blanks.any_isWord (h : Blanks text p q) {j : Nat} (hp : p ≤ j) (hq : j < q) :
    (text[j]?).any isWord = false := by
  induction h with
  | refl => omega
  | tail _ hstep ih =>
    obtain ⟨hblank, rfl⟩ := hstep
    rcases Nat.lt_succ_iff_lt_or_eq.mp hq with hlt | rfl
    · exact ih hlt
    · obtain ⟨c, hc, hblank⟩ := (Option.any_eq_true ..).mp hblank
      rw [hc, Option.any_some, isWord_of_isBlank hblank]

theorem Lead.any_isWord (hscope : scope.OpenedBy opening kind) (h : Lead opening kind text p q)
    {j : Nat} (hp : p ≤ j) (hq : j < q) : (text[j]?).any isWord = false := by
  obtain ⟨i, hopens, hblanks⟩ := h
  cases hopens with
  | taken htaken =>
    rcases Nat.eq_or_lt_of_le hp with rfl | hlt
    · rw [htaken, Option.any_some, hscope.isWord_eq_false]
    · exact hblanks.any_isWord hlt hq
  | looked => exact hblanks.any_isWord hp hq

/-- No word character stands in what leads to a start. -/
theorem Scope.Leads.any_isWord (h : scope.Leads text p q) {j : Nat} (hp : p ≤ j) (hq : j < q) :
    (text[j]?).any isWord = false := by
  cases scope with
  | word =>
    obtain rfl : p = q := h
    omega
  | sentence => exact Lead.any_isWord openedBy_sentence h hp hq
  | paragraph => exact Lead.any_isWord openedBy_paragraph h hp hq

theorem Lead.opens_take (hscope : scope.OpenedBy opening kind)
    (h : Lead opening kind s.toArray p q) (hp : p ≤ s.length) : scope.Opens (s.take q) := by
  obtain ⟨i, hopening, hblanks⟩ := h
  induction hblanks with
  | refl =>
    cases hopening with
    | taken htaken =>
      rw [List.getElem?_toArray] at htaken
      rw [take_succ_of_getElem? htaken]
      exact hscope.taken _
    | looked hlooked =>
      rw [charBefore_toArray hp] at hlooked
      exact hscope.looked _ _ hlooked
  | tail _ hstep ih =>
    obtain ⟨hblank, rfl⟩ := hstep
    obtain ⟨c, hc, hblank⟩ := (Option.any_eq_true ..).mp hblank
    rw [List.getElem?_toArray] at hc
    rw [take_succ_of_getElem? hc]
    exact hscope.blank _ _ hblank ih

/-- A start may stand behind what leads to one. -/
theorem Scope.Leads.opens_take (h : scope.Leads s.toArray p q) (hbegins : BeginsWord s.toArray q)
    (hq : q ≤ s.length) : scope.Opens (s.take q) := by
  have hp := Nat.le_trans h.le hq
  cases scope with
  | word =>
    intro c hc
    have hbefore := hbegins.before
    rwa [charBefore_toArray hq, hc, Option.any_some] at hbefore
  | sentence => exact Lead.opens_take openedBy_sentence h hp
  | paragraph => exact Lead.opens_take openedBy_paragraph h hp

/-- The induction goes back from the start to the opening, through the blanks. -/
theorem Scope.OpenedBy.exists_lead (hscope : scope.OpenedBy opening kind) (hq : q ≤ s.length)
    (h : scope.Opens (s.take q)) : ∃ p, Lead opening kind s.toArray p q := by
  induction q with
  | zero => exact ⟨0, 0, .looked (hscope.begins _), .refl⟩
  | succ q ih =>
    have hc : s.toArray[q]? = some s[q] := by
      rw [List.getElem?_toArray, List.getElem?_eq_getElem hq]
    rw [take_succ_of_getElem? (List.getElem?_eq_getElem hq)] at h
    rcases hscope.concat _ _ h with hopening | ⟨hblank, h⟩
    · exact ⟨q, q + 1, .taken (hopening ▸ hc), .refl⟩
    · obtain ⟨p, i, hopening, hblanks⟩ := ih (Nat.le_of_succ_le hq) h
      refine ⟨p, i, hopening, hblanks.tail ⟨?_, rfl⟩⟩
      rw [hc, Option.any_some, hblank]

/-- Something leads to every place where a start may stand. -/
theorem Scope.Opens.exists_leads (hq : q ≤ s.length) (h : scope.Opens (s.take q)) :
    ∃ p, scope.Leads s.toArray p q := by
  cases scope with
  | word => exact ⟨q, rfl⟩
  | sentence => exact openedBy_sentence.exists_lead hq h
  | paragraph => exact openedBy_paragraph.exists_lead hq h

end Leads

/-! ## Searching for starts -/

section Searching

variable {scope : Scope} {s : List Char} {start q : Nat}

/-- A word character at a place where a start may stand. -/
structure IsStart (scope : Scope) (s : List Char) (q : Nat) : Prop where
  isWord : (s[q]?).any isWord = true
  opens : scope.Opens (s.take q)

theorem lt_of_any {f : Char → Bool} (h : (s[q]?).any f = true) : q < s.length := by
  obtain ⟨c, hc, -⟩ := (Option.any_eq_true ..).mp h
  exact (List.getElem?_eq_some_iff.mp hc).1

theorem IsStart.lt (h : IsStart scope s q) : q < s.length := lt_of_any h.isWord

theorem IsStart.beginsWord (h : IsStart scope s q) : BeginsWord s.toArray q where
  isWord := by
    rw [List.getElem?_toArray]
    exact h.isWord
  before := by
    rw [charBefore_toArray (Nat.le_of_lt h.lt)]
    have hopens := h.opens
    rcases List.eq_nil_or_concat' (s.take q) with hnil | ⟨before, c, hconcat⟩
    · rw [hnil]
      rfl
    · rw [hconcat] at hopens ⊢
      rw [List.getLast?_concat, Option.any_some, hopens.isWord_eq_false]

/-- A search from the beginning of the text or behind a word character finds the next start, and
what leads to it. -/
theorem findFrom?_start (scope : Scope)
    (h : start = 0 ∨ (charBefore s.toArray start).any isWord = true) :
    (findFrom? scope.program 1 s.toArray start = none ∧ ∀ q, start ≤ q → ¬ IsStart scope s q) ∨
    ∃ p q, findFrom? scope.program 1 s.toArray start = some ⟨p, q + 1, [some (q, q + 1)]⟩ ∧
      start ≤ p ∧ p ≤ q ∧ IsStart scope s q ∧
      ∀ i, start ≤ i → i < q → ¬ IsStart scope s i := by
  -- What leads to a start lies behind the place where the search goes on.
  have hlead {q : Nat} (hle : start ≤ q) (hq : IsStart scope s q) :
      ∃ p, start ≤ p ∧ p ≤ q ∧ ∃ run, Finishes scope.program s.toArray (startAt p) run := by
    obtain ⟨p, hp⟩ := Scope.Opens.exists_leads (Nat.le_of_lt hq.lt) hq.opens
    refine ⟨p, ?_, hp.le, _, (scope.finishes_iff).mpr ⟨q, hp, hq.beginsWord, rfl⟩⟩
    rcases h with rfl | hword
    · exact Nat.zero_le p
    · by_contra hlt
      rw [charBefore, if_neg (by omega), hp.any_isWord (by omega) (by omega)] at hword
      cases hword
  rcases findFrom?_spec scope.program 1 s.toArray start with
    ⟨hfind, hno⟩ | ⟨run, p, hfind, hle, hfinishes, hno⟩
  · refine .inl ⟨hfind, fun q hle hq => ?_⟩
    obtain ⟨p, hstart, hp, run, hfinishes⟩ := hlead hle hq
    exact hno p hstart (Nat.le_trans hp (Nat.le_of_lt hq.lt)) run hfinishes
  · obtain ⟨q, hleads, hbegins, rfl⟩ := scope.finishes_iff.mp hfinishes
    have hword : (s[q]?).any isWord = true := by
      rw [← List.getElem?_toArray]
      exact hbegins.isWord
    have hstart : IsStart scope s q :=
      ⟨hword, hleads.opens_take hbegins (Nat.le_of_lt (lt_of_any hword))⟩
    refine .inr ⟨p, q, hfind, hle, hleads.le, hstart, fun i hi hiq hearlier => ?_⟩
    -- An earlier start would be led to from `p` on, and stand in what leads to `q`.
    obtain ⟨p', hstart', hp', run, hfinishes'⟩ := hlead hi hearlier
    have hpp' : p ≤ p' := Nat.le_of_not_lt fun hlt => hno p' hstart' hlt run hfinishes'
    have hearlier := hearlier.isWord
    rw [← List.getElem?_toArray, hleads.any_isWord (Nat.le_trans hpp' hp') hiq] at hearlier
    cases hearlier

end Searching

/-! ## Replacing starts -/

/-- What upper case in a scope makes of a character of a text and its place. -/
def Scope.upperAt (scope : Scope) (s : List Char) (place : Char × Nat) : List Char :=
  if isWord place.1 ∧ scope.Opens (s.take place.2) then upperChar place.1 else [place.1]

section Replacing

variable {scope : Scope} {s before passed after rest : List Char} {c : Char} {p q : Nat}

theorem upperAt_of_isStart (hc : s[q]? = some c) (h : IsStart scope s q) :
    scope.upperAt s (c, q) = upperChar c := by
  have hword := h.isWord
  rw [hc, Option.any_some] at hword
  exact if_pos ⟨hword, h.opens⟩

theorem upperAt_of_not_isStart (hc : s[q]? = some c) (h : ¬ IsStart scope s q) :
    scope.upperAt s (c, q) = [c] := by
  refine if_neg fun ⟨hword, hopens⟩ => h ⟨?_, hopens⟩
  rwa [hc, Option.any_some]

/-- A part of the text without starts stays as it is. -/
theorem flatMap_upperAt_of_not_isStart (hs : s = before ++ (passed ++ after))
    (h : ∀ i, before.length ≤ i → i < before.length + passed.length → ¬ IsStart scope s i) :
    (passed.zipIdx before.length).flatMap (scope.upperAt s) = passed := by
  have hsame : ∀ place ∈ passed.zipIdx before.length, scope.upperAt s place = [place.1] := by
    rintro ⟨c, i⟩ hmem
    obtain ⟨hle, hc⟩ := List.mk_mem_zipIdx_iff_le_and_getElem?_sub.mp hmem
    have hlt : i - before.length < passed.length := (List.getElem?_eq_some_iff.mp hc).1
    refine upperAt_of_not_isStart ?_ (h i hle (by omega))
    rw [hs, List.getElem?_append_right hle, List.getElem?_append_left hlt, hc]
  rw [List.flatMap_congr hsame, ← List.map_eq_flatMap, List.zipIdx_map_fst]

theorem slice_trans {text : Array Char} {i j k : Nat} (hij : i ≤ j) (hjk : j ≤ k) :
    slice text i j ++ slice text j k = slice text i k := by
  rw [slice, slice, slice, ← Array.toList_append, Array.extract_append_extract, Nat.min_eq_left hij,
    Nat.max_eq_right hjk]

/-- A start splits the text behind a position. -/
theorem IsStart.exists_split (h : IsStart scope (before ++ rest) q) (hle : before.length ≤ q) :
    ∃ passed c after, rest = passed ++ c :: after ∧ before.length + passed.length = q := by
  have hlt := h.lt
  rw [List.length_append] at hlt
  have hin : q - before.length < rest.length := by omega
  refine ⟨rest.take (q - before.length), rest[q - before.length], rest.drop (q - before.length + 1),
    ?_, ?_⟩
  · rw [← List.drop_eq_getElem_cons hin, List.take_append_drop]
  · rw [List.length_take_of_le (Nat.le_of_lt hin)]
    omega

/-- The match of a start and what is left before it keep all characters but the start. -/
theorem slice_append_upperMatch (hs : s = before ++ (passed ++ c :: after))
    (hbefore : before.length ≤ p) (hp : p ≤ before.length + passed.length) :
    slice s.toArray before.length p ++ upperMatch s.toArray
      ⟨p, before.length + passed.length + 1,
        [some (before.length + passed.length, before.length + passed.length + 1)]⟩ =
      passed ++ upperChar c := by
  have hpassed := slice_append before passed (c :: after)
  have hletter := slice_append (before ++ passed) [c] after
  rw [List.append_assoc, List.singleton_append, List.length_append, List.length_singleton] at hletter
  rw [← hs] at hpassed hletter
  change _ ++ (slice s.toArray p (before.length + passed.length) ++ upperChars (slice s.toArray
    (before.length + passed.length) (before.length + passed.length + 1))) = _
  rw [← List.append_assoc, slice_trans hbefore hp, hpassed, hletter, upperChars,
    List.flatMap_singleton]

/-- From the beginning of the text or behind a word character on, the matches of a pattern are
replaced as its starts are. -/
theorem replaceMatches_starts (scope : Scope) (before rest : List Char) {fuel : Nat}
    (hfuel : rest.length < fuel) (lastStop : Option Nat)
    (h : before = [] ∨ before.getLast?.any isWord = true) :
    Matcher.replaceMatches (before ++ rest).toArray (upperMatch (before ++ rest).toArray)
        before.length (findAllFrom scope.program 1 (before ++ rest).toArray fuel before.length
          lastStop) =
      (rest.zipIdx before.length).flatMap (scope.upperAt (before ++ rest)) := by
  induction fuel generalizing before rest lastStop with
  | zero => omega
  | succ fuel ih =>
    have hclean : before.length = 0 ∨
        (charBefore (before ++ rest).toArray before.length).any isWord = true := by
      rw [charBefore_toArray (by simp), List.take_left]
      exact h.imp_left List.length_eq_zero_iff.mpr
    rcases findFrom?_start scope hclean with ⟨hfind, hno⟩ | ⟨p, q, hfind, hstart, hpq, hq, hno⟩
    · have hsplit : before ++ rest = before ++ (rest ++ []) := by rw [List.append_nil]
      rw [findAllFrom, hfind, flatMap_upperAt_of_not_isStart hsplit fun i hle _ => hno i hle]
      exact slice_end before rest
    · obtain ⟨passed, c, after, rfl, rfl⟩ := hq.exists_split (Nat.le_trans hstart hpq)
      have hc : (before ++ (passed ++ c :: after))[before.length + passed.length]? = some c := by
        simp
      have hword : isWord c = true := by
        have hword := hq.isWord
        rwa [hc, Option.any_some] at hword
      have hleft : after.length < fuel := by
        simp only [List.length_append, List.length_cons] at hfuel
        omega
      have htext : before ++ passed ++ [c] ++ after = before ++ (passed ++ c :: after) := by simp
      have hlength : (before ++ passed ++ [c]).length = before.length + passed.length + 1 := by
        simp [Nat.add_assoc]
      have hafter := ih (before ++ passed ++ [c]) after hleft
        (some (before.length + passed.length + 1)) (.inr (by simp [hword]))
      rw [htext, hlength] at hafter
      rw [findAllFrom_of_lt hfind (Nat.lt_succ_of_le hpq), Matcher.replaceMatches, hafter,
        slice_append_upperMatch rfl hstart hpq, List.zipIdx_append, List.zipIdx_cons,
        List.flatMap_append, List.flatMap_cons, flatMap_upperAt_of_not_isStart rfl hno,
        upperAt_of_isStart hc hq, List.append_assoc]

/-- Upper case in a scope changes the starts of the scope alone. -/
theorem upperStarts_eq (scope : Scope) (text : String) :
    upperStarts scope text =
      .ok (String.ofList (text.toList.zipIdx.flatMap (scope.upperAt text.toList))) := by
  have hfuel : text.toList.length < 2 * text.toList.length + 3 := by omega
  have hall := replaceMatches_starts scope [] text.toList hfuel none (.inl rfl)
  rw [upperStarts, scope.compile_pattern]
  exact congrArg (fun s => Except.ok (String.ofList s)) hall

end Replacing

/-- Upper case in a scope puts the word characters at its starts into upper case, and keeps all other
characters where they are. -/
theorem toUpper_scope (scope : Scope) (args : List Argument) (text : String) :
    toUpper (.text scope.label :: args) (.string text) =
      .ok (.string (String.ofList (text.toList.zipIdx.flatMap fun (c, i) =>
        if isWord c ∧ scope.Opens (text.toList.take i) then upperChar c else [c]))) := by
  have htext : (Dish.string text).asText.mapError Fault.dish = .ok text := rfl
  have hlabel : textAt (.text scope.label :: args) 0 = scope.label := rfl
  have hscope : toUpper (.text scope.label :: args) (.string text) =
      (return .string (← upperStarts scope text)) := by
    rw [toUpper, htext, hlabel]
    cases scope <;> simp [Scope.label, bind, Except.bind]
  rw [hscope, upperStarts_eq]
  rfl

end Kitchen.LetterCase
