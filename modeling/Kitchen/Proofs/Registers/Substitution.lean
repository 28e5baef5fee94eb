import Kitchen.Proofs.Text.CodeRange
import Kitchen.Registers
import Mathlib.Data.List.Chain
import Mathlib.Data.List.Infix
import Mathlib.Data.List.TakeWhile

/-!
# Substitution

A text is a row of segments: literal parts, references to registers, and references behind a
backslash. Substitution is one pass over that row. It puts the text of a register in the place of
each reference to it, takes the backslash from an escaped one, and leaves all else as it is; what it
has put in is not looked at again.
-/

namespace Kitchen

open Text

/-! ## References -/

/-- A reference to a register: its name in braces, or a number. -/
inductive Reference where
  | braced (name : List Char)
  | numbered (digits : List Char)
  deriving DecidableEq, Repr

namespace Reference

def name : Reference → List Char
  | braced name => name
  | numbered digits => digits

/-- The reference as it is written. -/
def chars : Reference → List Char
  | braced name => '$' :: 'R' :: '{' :: name ++ ['}']
  | numbered digits => '$' :: 'R' :: digits

/-- A name in braces consists of word characters, a number of decimal digits. -/
def IsWellFormed : Reference → Prop
  | braced name => name ≠ [] ∧ ∀ c ∈ name, isWord c = true
  | numbered digits => digits ≠ [] ∧ ∀ c ∈ digits, isDecimalDigit c = true

instance : DecidablePred IsWellFormed
  | braced name => @instDecidableAnd _ _ inferInstance (name.decidableBAll _)
  | numbered digits => @instDecidableAnd _ _ inferInstance (digits.decidableBAll _)

theorem not_within (reference : Reference) {s : List Char} (h : ¬ ['$', 'R'] <:+: s) :
    ¬ reference.chars <:+: s := by
  intro hwithin
  refine h (List.IsInfix.trans ?_ hwithin)
  cases reference with
  | braced name => exact ⟨[], _, rfl⟩
  | numbered digits => exact ⟨[], digits, rfl⟩

theorem IsWellFormed.isWord {reference : Reference} (h : reference.IsWellFormed) :
    ∀ c ∈ reference.name, isWord c = true := by
  cases reference with
  | braced name => exact h.2
  | numbered digits => exact fun c hc => isWord_of_isDecimalDigit (h.2 c hc)

end Reference

/-! ## Reading a reference -/

section Reading

private theorem isWord_brace : isWord '}' = false := by decide +kernel

private theorem ne_of_isDecimalDigit {c other : Char} (h : isDecimalDigit c = true)
    (hother : isDecimalDigit other = false) : c ≠ other := by
  rintro rfl
  rw [h] at hother
  cases hother

namespace Placeholder

theorem readName?_braced {name : List Char} (hne : name ≠ []) (h : ∀ c ∈ name, isWord c = true)
    (rest : List Char) :
    readName? ('{' :: name ++ '}' :: rest) = some (name, '{' :: name ++ ['}'], rest) := by
  have htake : (name ++ '}' :: rest).takeWhile isWord = name := by
    rw [List.takeWhile_append_of_pos h, List.takeWhile_cons_of_neg (by simp [isWord_brace]),
      List.append_nil]
  have hdrop : (name ++ '}' :: rest).dropWhile isWord = '}' :: rest := by
    rw [List.dropWhile_append_of_pos h, List.dropWhile_cons_of_neg (by simp [isWord_brace])]
  rw [List.cons_append, readName?]
  simp only [htake, hdrop, List.isEmpty_iff, if_neg hne]

/-- A number is read to its last digit. -/
theorem readName?_numbered {digits : List Char} (hne : digits ≠ [])
    (h : ∀ c ∈ digits, isDecimalDigit c = true) (rest : List Char) :
    readName? (digits ++ rest) =
      some (digits ++ rest.takeWhile isDecimalDigit, digits ++ rest.takeWhile isDecimalDigit,
        rest.dropWhile isDecimalDigit) := by
  have htake : (digits ++ rest).takeWhile isDecimalDigit =
      digits ++ rest.takeWhile isDecimalDigit := List.takeWhile_append_of_pos h
  have hdrop : (digits ++ rest).dropWhile isDecimalDigit = rest.dropWhile isDecimalDigit :=
    List.dropWhile_append_of_pos h
  cases digits with
  | nil => exact absurd rfl hne
  | cons c digits =>
    have hc : c ≠ '{' := ne_of_isDecimalDigit (h c List.mem_cons_self) (by decide)
    rw [List.cons_append] at htake hdrop ⊢
    rw [readName?.eq_def]
    split
    · rename_i heq
      exact absurd (List.cons.inj heq).1 hc
    · simp only [htake, hdrop]
      rfl

/-- What is read is a reference, as it is written. -/
theorem exists_reference_of_readName? {s name written rest : List Char}
    (h : readName? s = some (name, written, rest)) :
    ∃ reference : Reference, reference.IsWellFormed ∧ reference.name = name ∧
      reference.chars = '$' :: 'R' :: written ∧ s = written ++ rest := by
  rw [readName?.eq_def] at h
  split at h
  · rename_i s
    split at h
    · rename_i tail htail
      dsimp only at h
      split at h
      · simp at h
      · rename_i hne
        obtain ⟨rfl, rfl, rfl⟩ : s.takeWhile isWord = name ∧ _ = written ∧ tail = rest := by
          simpa using h
        refine ⟨.braced (s.takeWhile isWord), ⟨?_, ?_⟩, rfl, rfl, ?_⟩
        · simpa using hne
        · exact fun c hc => List.mem_takeWhile_imp hc
        · have hs : s = s.takeWhile isWord ++ '}' :: tail := by
            rw [← htail, List.takeWhile_append_dropWhile]
          simpa using hs
    · simp at h
  · dsimp only at h
    split at h
    · simp at h
    · rename_i hne
      obtain ⟨rfl, rfl, rfl⟩ : _ = name ∧ _ = written ∧ _ = rest := by simpa using h
      refine ⟨.numbered (s.takeWhile isDecimalDigit), ⟨?_, ?_⟩, rfl, rfl, ?_⟩
      · simpa using hne
      · exact fun c hc => List.mem_takeWhile_imp hc
      · exact List.takeWhile_append_dropWhile.symm

theorem exists_reference_of_read? {s rest : List Char} {p : Placeholder}
    (h : read? s = some (p, rest)) :
    ∃ reference : Reference, reference.IsWellFormed ∧ reference.name = p.name ∧
      reference.chars = p.written ∧
      s = if p.escaped then '\\' :: p.written ++ rest else p.written ++ rest := by
  rw [read?.eq_def] at h
  split at h
  · obtain ⟨⟨name, written, tail⟩, hname, heq⟩ := Option.map_eq_some_iff.mp h
    obtain ⟨rfl, rfl⟩ : _ = p ∧ tail = rest := by simpa using heq
    obtain ⟨reference, hwell, rfl, hchars, rfl⟩ := exists_reference_of_readName? hname
    exact ⟨reference, hwell, rfl, hchars, rfl⟩
  · obtain ⟨⟨name, written, tail⟩, hname, heq⟩ := Option.map_eq_some_iff.mp h
    obtain ⟨rfl, rfl⟩ : _ = p ∧ tail = rest := by simpa using heq
    obtain ⟨reference, hwell, rfl, hchars, rfl⟩ := exists_reference_of_readName? hname
    exact ⟨reference, hwell, rfl, hchars, rfl⟩
  · simp at h

theorem read?_eq_none {s : List Char} (h : ¬ ['$', 'R'] <+: s) (h' : ¬ ['\\', '$', 'R'] <+: s) :
    read? s = none := by
  rw [read?.eq_def]
  split
  · exact absurd (List.prefix_append ['\\', '$', 'R'] _) h'
  · exact absurd (List.prefix_append ['$', 'R'] _) h
  · rfl

end Placeholder
end Reading

/-! ## The pass -/

namespace Registers

variable (registers : Registers)

theorem substituteChars_nil : registers.substituteChars [] = [] := by
  rw [substituteChars.eq_def]
  rfl

theorem substituteChars_of_read? {s rest : List Char} {p : Placeholder}
    (h : Placeholder.read? s = some (p, rest)) :
    registers.substituteChars s = registers.expand p ++ registers.substituteChars rest := by
  rw [substituteChars.eq_def]
  split
  · rename_i heq
    obtain ⟨rfl, rfl⟩ := Prod.mk.inj (Option.some.inj (h.symm.trans heq))
    rfl
  · rename_i heq
    rw [h] at heq
    cases heq

theorem substituteChars_cons {c : Char} {s : List Char} (h : Placeholder.read? (c :: s) = none) :
    registers.substituteChars (c :: s) = c :: registers.substituteChars s := by
  rw [substituteChars.eq_def]
  split
  · rename_i heq
    rw [h] at heq
    cases heq
  · rfl

theorem substituteChars_of_unread {s : List Char}
    (h : ∀ rest, rest <:+ s → Placeholder.read? rest = none) : registers.substituteChars s = s := by
  induction s with
  | nil => exact registers.substituteChars_nil
  | cons c s ih =>
    rw [registers.substituteChars_cons (h _ List.suffix_rfl)]
    rw [ih fun rest hrest => h rest (hrest.trans (List.suffix_cons c s))]

/-- Text without references stays as it is. -/
theorem substitute_of_unreferenced {text : String}
    (h : ∀ reference : Reference, reference.IsWellFormed → ¬ reference.chars <:+: text.toList) :
    registers.substitute text = text := by
  have hself : registers.substituteChars text.toList = text.toList := by
    refine registers.substituteChars_of_unread fun rest hrest => ?_
    cases hread : Placeholder.read? rest with
    | none => rfl
    | some found =>
      obtain ⟨p, after⟩ := found
      obtain ⟨reference, hwell, -, hchars, hsplit⟩ := Placeholder.exists_reference_of_read? hread
      refine absurd (List.IsInfix.trans ?_ hrest.isInfix) (h reference hwell)
      rw [hsplit, hchars]
      split
      · exact ⟨['\\'], after, rfl⟩
      · exact ⟨[], after, rfl⟩
  rw [substitute, hself, String.ofList_toList]

theorem substitute_eq_self {text : String} (h : ¬ ['$', 'R'] <:+: text.toList) :
    registers.substitute text = text :=
  registers.substitute_of_unreferenced fun reference _ => reference.not_within h

/-- Substitution asks for the registers alone that a reference can name. -/
theorem substitute_congr {registers other : Registers} (text : String)
    (h : ∀ name : List Char, (∀ c ∈ name, isWord c = true) →
      registers.get? (String.ofList name) = other.get? (String.ofList name)) :
    registers.substitute text = other.substitute text := by
  have hchars (s : List Char) : registers.substituteChars s = other.substituteChars s := by
    fun_induction registers.substituteChars s with
    | case1 s p rest hread ih =>
      obtain ⟨reference, hwell, hname, -, -⟩ := Placeholder.exists_reference_of_read? hread
      have hget := h p.name (by rw [← hname]; exact hwell.isWord)
      rw [other.substituteChars_of_read? hread, ih, expand, expand, hget]
    | case2 hread => rw [other.substituteChars_nil]
    | case3 c rest hread ih => rw [other.substituteChars_cons hread, ih]
  rw [substitute, substitute, hchars]

private theorem substituteChars_digits {digits : List Char}
    (h : ∀ c ∈ digits, isDecimalDigit c = true) (rest : List Char) :
    registers.substituteChars (digits ++ rest) = digits ++ registers.substituteChars rest := by
  induction digits with
  | nil => rfl
  | cons c digits ih =>
    have hdollar : c ≠ '$' := ne_of_isDecimalDigit (h c List.mem_cons_self) (by decide)
    have hbackslash : c ≠ '\\' := ne_of_isDecimalDigit (h c List.mem_cons_self) (by decide)
    have hnone : Placeholder.read? (c :: (digits ++ rest)) = none := by
      refine Placeholder.read?_eq_none ?_ ?_
      · intro hbegins
        exact hdollar (List.cons_prefix_cons.mp hbegins).1.symm
      · intro hbegins
        exact hbackslash (List.cons_prefix_cons.mp hbegins).1.symm
    rw [List.cons_append, registers.substituteChars_cons hnone,
      ih fun other hother => h other (List.mem_cons_of_mem c hother), List.cons_append]

end Registers

/-! ## Segments -/

/-- A part of a text, as substitution sees it. -/
inductive Segment where
  | literal (s : List Char)
  | reference (reference : Reference)
  /-- A reference behind a backslash. -/
  | escaped (reference : Reference)
  deriving DecidableEq, Repr

namespace Segment

def chars : Segment → List Char
  | literal s => s
  | reference r => r.chars
  | escaped r => '\\' :: r.chars

/-- A literal part has no beginning of a reference in it, and no backslash at its end. -/
def IsWellFormed : Segment → Prop
  | literal s => ¬ ['$', 'R'] <:+: s ∧ s.getLast? ≠ some '\\'
  | reference r => r.IsWellFormed
  | escaped r => r.IsWellFormed

instance : DecidablePred IsWellFormed
  | literal s => inferInstanceAs (Decidable (¬ ['$', 'R'] <:+: s ∧ s.getLast? ≠ some '\\'))
  | reference r => inferInstanceAs (Decidable r.IsWellFormed)
  | escaped r => inferInstanceAs (Decidable r.IsWellFormed)

/-- Two literal parts are one, and a digit behind a number is one of its own. -/
def MayPrecede : Segment → Segment → Prop
  | literal _, literal _ => False
  | reference (.numbered _), literal s => ∀ c ∈ s.head?, isDecimalDigit c = false
  | _, _ => True

instance : DecidableRel MayPrecede
  | literal _, literal _ => inferInstanceAs (Decidable False)
  | reference (.numbered _), literal s =>
    Option.decidableForallMem s.head?
  | literal _, reference _ | literal _, escaped _ | escaped _, _
  | reference (.braced _), _ | reference (.numbered _), reference _
  | reference (.numbered _), escaped _ => inferInstanceAs (Decidable True)

structure IsRow (segments : List Segment) : Prop where
  wellFormed : ∀ segment ∈ segments, segment.IsWellFormed
  apart : segments.IsChain MayPrecede

theorem IsRow.tail {segment : Segment} {rest : List Segment} (h : IsRow (segment :: rest)) :
    IsRow rest :=
  ⟨fun other hother => h.wellFormed other (List.mem_cons_of_mem segment hother),
    (List.isChain_cons.mp h.apart).2⟩

/-- A row begins with the mark of a reference or with its first literal part. -/
theorem IsRow.head?_chars {segments : List Segment} (h : IsRow segments) {c : Char}
    (hc : c ∈ (segments.flatMap chars).head?) :
    c = '$' ∨ c = '\\' ∨ ∃ s, segments.head? = some (literal s) ∧ c ∈ s.head? := by
  have marked (segment : Segment) (rest : List Segment) (hmarked : ∀ s, segment ≠ literal s)
      (hc : c ∈ ((segment :: rest).flatMap chars).head?) : c = '$' ∨ c = '\\' := by
    cases segment with
    | literal s => exact absurd rfl (hmarked s)
    | reference r => cases r <;> exact .inl (by simpa [chars, Reference.chars, eq_comm] using hc)
    | escaped r => exact .inr (by simpa [chars, eq_comm] using hc)
  cases segments with
  | nil => simp at hc
  | cons segment rest =>
    cases segment with
    | reference r => exact (marked _ rest (by simp) hc).imp_right .inl
    | escaped r => exact (marked _ rest (by simp) hc).imp_right .inl
    | literal s =>
      cases s with
      | cons d s => exact .inr (.inr ⟨d :: s, rfl, by simpa [chars] using hc⟩)
      | nil =>
        -- An empty literal part leaves the beginning to the segment behind it, which is marked.
        cases rest with
        | nil => simp [chars] at hc
        | cons next rest =>
          have hnext := (List.isChain_cons_cons.mp h.apart).1
          refine (marked next rest ?_ hc).imp_right .inl
          rintro s rfl
          exact hnext

end Segment

namespace Registers

variable (registers : Registers)

def expansion : Segment → List Char
  | .literal s => s
  | .reference r => match registers.get? (String.ofList r.name) with
    | some value => value.toList
    | none => r.chars
  | .escaped r => r.chars

/-- A literal part is passed over, where what follows does not complete a reference. -/
theorem substituteChars_literal {s rest : List Char} (h : (Segment.literal s).IsWellFormed)
    (hrest : rest.head? ≠ some 'R') :
    registers.substituteChars (s ++ rest) = s ++ registers.substituteChars rest := by
  induction s with
  | nil => rfl
  | cons c s ih =>
    obtain ⟨hfree, hlast⟩ := h
    -- No placeholder begins in the part, and none begins at its end, where the next letter is missing.
    have hplain : ¬ ['$', 'R'] <+: c :: (s ++ rest) := by
      intro hdollar
      obtain ⟨rfl, hletter⟩ := List.cons_prefix_cons.mp hdollar
      cases s with
      | nil =>
        obtain ⟨after, rfl⟩ := hletter
        exact hrest rfl
      | cons d s =>
        obtain ⟨rfl, -⟩ := List.cons_prefix_cons.mp hletter
        exact hfree ⟨[], s, rfl⟩
    -- A backslash is not the last character, so the dollar sign behind it is in the literal part.
    have hescaped : ¬ ['\\', '$', 'R'] <+: c :: (s ++ rest) := by
      intro hbackslash
      obtain ⟨rfl, hdollar⟩ := List.cons_prefix_cons.mp hbackslash
      cases s with
      | nil => exact hlast rfl
      | cons d s =>
        obtain ⟨rfl, hletter⟩ := List.cons_prefix_cons.mp hdollar
        cases s with
        | nil =>
          obtain ⟨after, rfl⟩ := hletter
          exact hrest rfl
        | cons e s =>
          obtain ⟨rfl, -⟩ := List.cons_prefix_cons.mp hletter
          exact hfree ⟨['\\'], s, rfl⟩
    have hnone := Placeholder.read?_eq_none hplain hescaped
    have htail : (Segment.literal s).IsWellFormed := by
      refine ⟨fun hwithin => hfree (hwithin.trans (List.suffix_cons c s).isInfix), ?_⟩
      cases s with
      | nil => simp
      | cons d s => simpa using hlast
    rw [List.cons_append, registers.substituteChars_cons hnone, ih htail, List.cons_append]

/-- The text of a register comes in the place of a reference to it. -/
theorem substituteChars_reference {r : Reference} {rest : List Char} (h : r.IsWellFormed)
    (hrest : ∀ digits, r = .numbered digits → ∀ c ∈ rest.head?, isDecimalDigit c = false) :
    registers.substituteChars (r.chars ++ rest) =
      registers.expansion (.reference r) ++ registers.substituteChars rest := by
  have hread : Placeholder.read? (r.chars ++ rest) = some (⟨false, r.name, r.chars⟩, rest) := by
    cases r with
    | braced name =>
      have hname := Placeholder.readName?_braced h.1 h.2 rest
      simp only [Reference.chars, List.append_assoc, List.cons_append, List.nil_append] at hname ⊢
      rw [Placeholder.read?, hname]
      rfl
    | numbered digits =>
      have hname := Placeholder.readName?_numbered h.1 h.2 rest
      have hstop : rest.takeWhile isDecimalDigit = [] ∧ rest.dropWhile isDecimalDigit = rest := by
        cases rest with
        | nil => exact ⟨rfl, rfl⟩
        | cons c rest =>
          have hc : ¬ isDecimalDigit c = true := by simp [hrest digits rfl c rfl]
          exact ⟨List.takeWhile_cons_of_neg hc, List.dropWhile_cons_of_neg hc⟩
      rw [hstop.1, hstop.2, List.append_nil] at hname
      simp only [Reference.chars, List.cons_append]
      rw [Placeholder.read?, hname]
      rfl
  rw [registers.substituteChars_of_read? hread]
  rfl

/-- An escaped reference loses its backslash, and digits behind it are passed over like all text. -/
theorem substituteChars_escaped {r : Reference} (h : r.IsWellFormed) (rest : List Char) :
    registers.substituteChars ('\\' :: r.chars ++ rest) =
      r.chars ++ registers.substituteChars rest := by
  cases r with
  | braced name =>
    have hname := Placeholder.readName?_braced h.1 h.2 rest
    have hread : Placeholder.read? ('\\' :: (Reference.braced name).chars ++ rest) =
        some (⟨true, name, (Reference.braced name).chars⟩, rest) := by
      simp only [Reference.chars, List.append_assoc, List.cons_append, List.nil_append] at hname ⊢
      rw [Placeholder.read?, hname]
      rfl
    rw [registers.substituteChars_of_read? hread]
    rfl
  | numbered digits =>
    have hname := Placeholder.readName?_numbered h.1 h.2 rest
    -- The number is read into the text behind it; what was read there stays as it was all the same.
    have hread : Placeholder.read? ('\\' :: (Reference.numbered digits).chars ++ rest) =
        some (⟨true, digits ++ rest.takeWhile isDecimalDigit,
          (Reference.numbered digits).chars ++ rest.takeWhile isDecimalDigit⟩,
          rest.dropWhile isDecimalDigit) := by
      simp only [Reference.chars, List.cons_append]
      rw [Placeholder.read?, hname]
      rfl
    have hdigits := registers.substituteChars_digits
      (fun c hc => List.mem_takeWhile_imp (p := isDecimalDigit) (l := rest) hc)
      (rest.dropWhile isDecimalDigit)
    rw [List.takeWhile_append_dropWhile] at hdigits
    rw [registers.substituteChars_of_read? hread, expand, if_pos rfl, List.append_assoc, ← hdigits]

/-- A reference alone becomes the text of the register that it names. -/
theorem substitute_reference {r : Reference} (h : r.IsWellFormed) {value : String}
    (hvalue : registers.get? (String.ofList r.name) = some value) :
    registers.substitute (String.ofList r.chars) = value := by
  have hchars := @substituteChars_reference registers r [] h (by simp)
  rw [List.append_nil, substituteChars_nil, List.append_nil, expansion, hvalue] at hchars
  rw [substitute, String.toList_ofList, hchars, String.ofList_toList]

theorem substituteChars_row {segments : List Segment} (h : Segment.IsRow segments) :
    registers.substituteChars (segments.flatMap Segment.chars) =
      segments.flatMap registers.expansion := by
  induction segments with
  | nil => exact registers.substituteChars_nil
  | cons segment rest ih =>
    have hwell := h.wellFormed segment List.mem_cons_self
    have hnext := (List.isChain_cons.mp h.apart).1
    rw [List.flatMap_cons, List.flatMap_cons, ← ih h.tail]
    cases segment with
    | literal s =>
      -- What follows is marked, so it does not begin with the letter of a reference.
      refine registers.substituteChars_literal hwell fun hhead => ?_
      rcases h.tail.head?_chars hhead with hc | hc | ⟨next, hliteral, -⟩
      · exact absurd hc (by decide)
      · exact absurd hc (by decide)
      · exact hnext _ hliteral
    | reference r =>
      refine registers.substituteChars_reference hwell ?_
      rintro digits rfl c hc
      rcases h.tail.head?_chars hc with rfl | rfl | ⟨next, hliteral, hc⟩
      · decide
      · decide
      · exact hnext _ hliteral c hc
    | escaped r => exact registers.substituteChars_escaped hwell _

/-- Substitution is one pass: it goes over the segments of a text from left to right, each on its
own, and leaves a text alone in which no reference begins. -/
theorem substitute_one_pass :
    (∀ segments, Segment.IsRow segments →
      registers.substitute (String.ofList (segments.flatMap Segment.chars)) =
        String.ofList (segments.flatMap registers.expansion)) ∧
    ∀ text : String, ¬ ['$', 'R'] <:+: text.toList → registers.substitute text = text := by
  refine ⟨fun segments h => ?_, fun text h => registers.substitute_eq_self h⟩
  rw [substitute, String.toList_ofList, registers.substituteChars_row h]

theorem substitute_names_and_numbers :
    let registers := (empty.bind "name" "$R0").bindNumbered "zero"
    let segments := [.literal "of ".toList, .reference (.braced "name".toList),
      .reference (.numbered "0".toList), .escaped (.numbered "0".toList), .literal "1, ".toList,
      .reference (.braced "other".toList)]
    Segment.IsRow segments ∧
      registers.substitute "of $R\x7bname\x7d$R0\\$R01, $R\x7bother\x7d" =
        "of $R0zero$R01, $R\x7bother\x7d" ∧
      ¬ ['$', 'R'] <:+: "a $ sign".toList ∧ registers.substitute "a $ sign" = "a $ sign" := by
  intro registers segments
  have hname : (Reference.braced "name".toList).IsWellFormed := by decide +kernel
  have hother : (Reference.braced "other".toList).IsWellFormed := by decide +kernel
  have hzero : (Reference.numbered "0".toList).IsWellFormed := by decide +kernel
  have hrow : Segment.IsRow segments := by
    refine ⟨?_, by decide⟩
    simp only [segments, List.forall_mem_cons]
    exact ⟨by decide, hname, hzero, hzero, by decide, hother, by simp⟩
  have hplain : ¬ ['$', 'R'] <:+: "a $ sign".toList := by decide +kernel
  have hpass := (substitute_one_pass registers).1 segments hrow
  have hexpansion : String.ofList (segments.flatMap registers.expansion) =
      "of $R0zero$R01, $R\x7bother\x7d" := by decide +kernel
  exact ⟨hrow, hpass.trans hexpansion, hplain, (substitute_one_pass registers).2 _ hplain⟩

end Registers
end Kitchen
