import Kitchen.Metrics.Exposition
import Kitchen.Number.Reading
import Kitchen.Proofs.Number.Digits
import Kitchen.Proofs.Text.Search
import Mathlib.Data.List.TakeWhile

/-!
# Reading an exposition

The text of metrics as a collector reads it. Every line is ended, and it is blank, a comment or one
sample: a name, labels between braces, a value and perhaps a time. In the value of a label a backslash
escapes itself, the quote and, as the letter n, the line feed.
-/

namespace Kitchen

open Text

/-- A sample as it is read from a line. Its value is kept as it is written. -/
structure Reading where
  name : String
  labels : List (String × String)
  value : String
  deriving DecidableEq, Repr

namespace Scrape

/-! ## Tokens -/

/-- A character that may stand between tokens. -/
def isGap (c : Char) : Bool := c == ' ' || c == '\t'

def skipGap (s : List Char) : List Char := s.dropWhile isGap

/-- The characters up to the next gap, and those from it on. -/
def readToken (s : List Char) : List Char × List Char :=
  ((skipGap s).takeWhile (!isGap ·), skipGap ((skipGap s).dropWhile (!isGap ·)))

/-- Names of samples may have colons, those of labels have none. -/
def isNameChar (colons : Bool) (c : Char) : Bool := c.isAlphanum || c == '_' || (colons && c == ':')

/-- The name at the front, which does not begin with a digit, and the rest. -/
def readName (colons : Bool) (s : List Char) : Option (String × List Char) :=
  match s.takeWhile (isNameChar colons) with
  | [] => none
  | c :: name =>
    if c.isDigit then none else some (String.ofList (c :: name), s.dropWhile (isNameChar colons))

/-- The rest behind a character that has to be next. -/
def expect (c : Char) (s : List Char) : Option (List Char) :=
  match skipGap s with
  | [] => none
  | d :: s => if d = c then some s else none

/-! ## Labels -/

/-- What a character stands for behind a backslash. -/
def escapeMeaning? (c : Char) : Option Char :=
  if c = '\\' then some '\\' else if c = '"' then some '"' else if c = 'n' then some '\n' else none

/-- A character read before the others. -/
def push (c : Char) (read : List Char × List Char) : List Char × List Char := (c :: read.1, read.2)

/-- The characters up to the closing quote, and the rest behind it. -/
def readQuoted : List Char → Option (List Char × List Char)
  | [] => none
  | c :: s =>
    if c = '"' then some ([], s)
    else if c = '\\' then
      match s with
      | [] => none
      | d :: s => (escapeMeaning? d).bind fun e => (readQuoted s).map (push e)
    else (readQuoted s).map (push c)

/-- A label with its value, and the rest behind them. -/
def readLabel (s : List Char) : Option ((String × String) × List Char) := do
  let (key, s) ← readName false (skipGap s)
  let s ← expect '=' s
  let s ← expect '"' s
  let (value, s) ← readQuoted s
  return ((key, String.ofList value), s)

/-- At most so many labels up to the closing brace, with commas between them; one may stand behind the
last. -/
def readLabels : Nat → List Char → Option (List (String × String) × List Char)
  | 0, _ => none
  | count + 1, s =>
    match skipGap s with
    | '}' :: s => some ([], s)
    | s =>
      (readLabel s).bind fun (label, s) =>
        match skipGap s with
        | '}' :: s => some ([label], s)
        | ',' :: s => (readLabels count s).map fun (labels, s) => (label :: labels, s)
        | _ => none

/-- The labels behind a name. Without any, a gap has to follow the name. -/
def readLabelSet (s : List Char) : Option (List (String × String) × List Char) :=
  match skipGap s with
  | '{' :: s => readLabels (s.length + 1) s
  | _ => if s.head?.any isGap then some ([], s) else none

/-! ## Lines -/

/-- A number, with nothing but a time in whole milliseconds behind it. -/
def readValue (s : List Char) : Option String :=
  let (value, rest) := readToken s
  let (time, rest) := readToken rest
  if (Binary64.ofChars? value).isNone then none
  else if rest.isEmpty && (time.isEmpty || (readInteger? time).isSome) then some (String.ofList value)
  else none

def readSample (s : List Char) : Option Reading := do
  let (name, s) ← readName true s
  let (labels, s) ← readLabelSet s
  return ⟨name, labels, ← readValue s⟩

/-- The samples of a line, at most one; nothing if the line has no meaning. -/
def readLine (line : List Char) : Option (List Reading) :=
  match skipGap line with
  | [] => some []
  | '#' :: _ => some []
  | s => (readSample s).map fun reading => [reading]

def readLines : List (List Char) → Option (List Reading)
  | [] => some []
  | line :: rest => do return (← readLine line) ++ (← readLines rest)

/-- The samples of a text, if its last line is ended and every line has a meaning. -/
def read (text : String) : Option (List Reading) :=
  let lines := splitAt (· == '\n') text.toList
  if lines.getLast? = some [] then readLines lines.dropLast else none

end Scrape

/-- Everything that a line may have. -/
example : Scrape.read "# HELP a b\n\n a:b \x7b c = \"d\\n\\\"\\\\e\" , f=\"\", \x7d +Inf -17 \n" =
    some [⟨"a:b", [("c", "d\n\"\\e"), ("f", "")], "+Inf"⟩] := by
  decide +kernel

/-! ## Reading what was written -/

namespace Scrape

variable {name key value : List Char} {colons : Bool}

theorem skipGap_cons {c : Char} (h : isGap c = false) (s : List Char) : skipGap (c :: s) = c :: s := by
  rw [skipGap, List.dropWhile_cons_of_neg (by simp [h])]

theorem isGap_of_isNameChar {c : Char} (h : isNameChar colons c = true) :
    isGap c = false := by
  by_contra hgap
  rw [Bool.not_eq_false, isGap, Bool.or_eq_true, beq_iff_eq, beq_iff_eq] at hgap
  rcases hgap with rfl | rfl
  · cases colons <;> exact absurd h (by decide)
  · cases colons <;> exact absurd h (by decide)

/-- A name as it has to be written. -/
structure IsName (colons : Bool) (s : List Char) : Prop where
  head : s.head?.any (!·.isDigit) = true
  chars : ∀ c ∈ s, isNameChar colons c = true

-- As a statement about characters this could be decided by going through all that there are; the test of
-- the list is short.
instance (colons : Bool) (s : List Char) : Decidable (IsName colons s) :=
  decidable_of_iff (s.head?.any (!·.isDigit) = true ∧ s.all (isNameChar colons) = true)
    ⟨fun ⟨head, chars⟩ => ⟨head, List.all_eq_true.mp chars⟩, fun h => ⟨h.head, List.all_eq_true.mpr h.chars⟩⟩

theorem IsName.exists_cons (h : IsName colons name) : ∃ c rest, name = c :: rest ∧ c.isDigit = false := by
  have hhead := h.head
  cases name with
  | nil => cases hhead
  | cons c rest =>
    rw [List.head?_cons, Option.any_some, Bool.not_eq_true'] at hhead
    exact ⟨c, rest, rfl, hhead⟩

theorem readName_append (h : IsName colons name) {c : Char}
    (hc : isNameChar colons c = false) (s : List Char) :
    readName colons (name ++ c :: s) = some (String.ofList name, c :: s) := by
  have htake : (name ++ c :: s).takeWhile (isNameChar colons) = name := by
    rw [List.takeWhile_append_of_pos h.chars, List.takeWhile_cons_of_neg (by simp [hc]), List.append_nil]
  have hdrop : (name ++ c :: s).dropWhile (isNameChar colons) = c :: s := by
    rw [List.dropWhile_append_of_pos h.chars, List.dropWhile_cons_of_neg (by simp [hc])]
  obtain ⟨d, rest, rfl, hdigit⟩ := h.exists_cons
  rw [readName, htake, hdrop]
  simp only [hdigit, Bool.false_eq_true, if_false]

/-! ### Labels -/

/-- A character that was escaped is read as one. -/
theorem readQuoted_escapedChar (c : Char) (s : List Char) :
    readQuoted (Exposition.escapedChar c ++ s) = (readQuoted s).map (push c) := by
  rw [Exposition.escapedChar]
  by_cases hslash : c = '\\'
  · subst hslash
    simp [readQuoted, escapeMeaning?]
  · by_cases hquote : c = '"'
    · subst hquote
      simp [readQuoted, escapeMeaning?]
    · rw [if_neg hslash, if_neg hquote, List.singleton_append, readQuoted.eq_def]
      simp only [hslash, hquote, if_false]

theorem readQuoted_escaped (label s : List Char) :
    readQuoted (label.flatMap Exposition.escapedChar ++ s) =
      (readQuoted s).map fun read => (label ++ read.1, read.2) := by
  induction label with
  | nil => simp
  | cons c label ih =>
    rw [List.flatMap_cons, List.append_assoc, readQuoted_escapedChar, ih, Option.map_map]
    rfl

theorem skipGap_append (h : IsName colons name) (s : List Char) : skipGap (name ++ s) = name ++ s := by
  obtain ⟨c, rest, rfl, -⟩ := h.exists_cons
  exact skipGap_cons (isGap_of_isNameChar (h.chars c List.mem_cons_self)) _

theorem readLabel_append (hkey : IsName false key) (s : List Char) :
    readLabel (key ++ '=' :: '"' :: s) =
      (readQuoted s).map fun read => ((String.ofList key, String.ofList read.1), read.2) := by
  rw [readLabel, skipGap_append hkey, readName_append hkey (by decide)]
  cases hread : readQuoted s with
  | none => simp [expect, skipGap, isGap, hread]
  | some read => simp [expect, skipGap, isGap, hread]

/-- Behind the brace a label is read first. -/
theorem readLabels_append (hkey : IsName false key) (count : Nat) (s : List Char) :
    readLabels (count + 1) (key ++ '=' :: '"' :: s) =
      (readLabel (key ++ '=' :: '"' :: s)).bind fun (label, s) =>
        match skipGap s with
        | '}' :: s => some ([label], s)
        | ',' :: s => (readLabels count s).map fun (labels, s) => (label :: labels, s)
        | _ => none := by
  obtain ⟨c, rest, rfl, hdigit⟩ := hkey.exists_cons
  have hbrace : c ≠ '}' := by
    rintro rfl
    exact absurd (hkey.chars _ List.mem_cons_self) (by decide)
  rw [readLabels, skipGap_append hkey]
  split
  · rename_i heq
    exact absurd (List.cons.inj heq).1 hbrace
  · rfl

/-- The label of a sample, between braces. -/
theorem readLabelSet_written (hkey : IsName false key) (label s : List Char) :
    readLabelSet ('{' :: (key ++ '=' :: '"' ::
      (label.flatMap Exposition.escapedChar ++ '"' :: '}' :: s))) =
        some ([(String.ofList key, String.ofList label)], s) := by
  have hquoted : readQuoted (label.flatMap Exposition.escapedChar ++ '"' :: '}' :: s) =
      some (label, '}' :: s) := by
    rw [readQuoted_escaped, readQuoted, if_pos rfl, Option.map_some, List.append_nil]
  rw [readLabelSet, skipGap_cons (by decide)]
  simp only [readLabels_append hkey, readLabel_append hkey, hquoted]
  rfl

/-- A label whose line ends before its value does. -/
theorem readLabelSet_unclosed (hkey : IsName false key) (label : List Char) :
    readLabelSet ('{' :: (key ++ '=' :: '"' :: label.flatMap Exposition.escapedChar)) = none := by
  have hquoted : readQuoted (label.flatMap Exposition.escapedChar) = none := by
    have hend := readQuoted_escaped label []
    rwa [List.append_nil, readQuoted, Option.map_none] at hend
  rw [readLabelSet, skipGap_cons (by decide)]
  simp only [readLabels_append hkey, readLabel_append hkey, hquoted]
  rfl

/-! ### Values and lines -/

/-- The characters that end a value, or what might be taken for one. -/
def delimiters : List Char := [' ', '\t', '\n', '{']

/-- A number as it has to be written. -/
structure IsNumber (s : List Char) : Prop where
  reads : (Binary64.ofChars? s).isSome = true
  chars : ∀ c ∈ s, c ∉ delimiters

theorem isNumber_of_all {s : List Char} (hreads : (Binary64.ofChars? s).isSome = true)
    (hall : s.all (!delimiters.contains ·) = true) : IsNumber s where
  reads := hreads
  chars c hc hmem := by
    have hnone := List.all_eq_true.mp hall c hc
    rw [List.contains_iff_mem.mpr hmem] at hnone
    cases hnone

theorem IsNumber.isGap (h : IsNumber value) {c : Char} (hc : c ∈ value) : isGap c = false := by
  have hnone := h.chars c hc
  simp only [delimiters, List.mem_cons, List.not_mem_nil, or_false, not_or] at hnone
  rw [Scrape.isGap, beq_false_of_ne hnone.1, beq_false_of_ne hnone.2.1, Bool.or_false]

theorem IsNumber.skipGap (h : IsNumber value) : skipGap (' ' :: value) = value := by
  cases value with
  | nil => rfl
  | cons c rest => exact skipGap_cons (h.isGap List.mem_cons_self) rest

theorem readValue_written (h : IsNumber value) : readValue (' ' :: value) = some (String.ofList value) := by
  have hall : ∀ c ∈ value, (!isGap c) = true := by
    intro c hc
    rw [h.isGap hc, Bool.not_false]
  have htoken : readToken (' ' :: value) = (value, []) := by
    rw [readToken, h.skipGap, List.takeWhile_eq_self_iff.mpr hall, List.dropWhile_eq_nil_iff.mpr hall]
    rfl
  have hnumber : (Binary64.ofChars? value).isNone = false := by
    rw [← Option.not_isSome, h.reads]
    rfl
  rw [readValue, htoken]
  simp only [hnumber]
  rfl

theorem readLine_sample (hname : IsName true name) (s : List Char) :
    readLine (name ++ s) = (readSample (name ++ s)).map fun reading => [reading] := by
  obtain ⟨c, rest, rfl, hdigit⟩ := hname.exists_cons
  have hmark : c ≠ '#' := by
    rintro rfl
    exact absurd (hname.chars _ List.mem_cons_self) (by decide)
  rw [readLine, skipGap_append hname]
  split
  · rename_i heq
    cases heq
  · rename_i heq
    exact absurd (List.cons.inj heq).1 hmark
  · rfl

theorem readLine_labelled (hname : IsName true name) (hkey : IsName false key) (hvalue : IsNumber value)
    (label : List Char) :
    readLine (name ++ '{' :: (key ++ '=' :: '"' ::
      (label.flatMap Exposition.escapedChar ++ '"' :: '}' :: ' ' :: value))) =
        some [⟨String.ofList name, [(String.ofList key, String.ofList label)], String.ofList value⟩] := by
  rw [readLine_sample hname, readSample, readName_append hname (by decide)]
  simp only [Option.bind_eq_bind, Option.bind_some, readLabelSet_written hkey, readValue_written hvalue]
  rfl

theorem readLine_unclosed (hname : IsName true name) (hkey : IsName false key) (label : List Char) :
    readLine (name ++ '{' :: (key ++ '=' :: '"' :: label.flatMap Exposition.escapedChar)) = none := by
  rw [readLine_sample hname, readSample, readName_append hname (by decide)]
  simp only [Option.bind_eq_bind, Option.bind_some, readLabelSet_unclosed hkey]
  rfl

theorem readLine_bare (hname : IsName true name) (hvalue : IsNumber value) :
    readLine (name ++ ' ' :: value) = some [⟨String.ofList name, [], String.ofList value⟩] := by
  have hnone : readLabelSet (' ' :: value) = some ([], ' ' :: value) := by
    rw [readLabelSet, hvalue.skipGap]
    split
    · exact absurd (by decide) (hvalue.chars '{' List.mem_cons_self)
    · rfl
  rw [readLine_sample hname, readSample, readName_append hname (by decide)]
  simp only [Option.bind_eq_bind, Option.bind_some, hnone, readValue_written hvalue]
  rfl

end Scrape

end Kitchen
