import Kitchen.Proofs.Yaml.Block
import Kitchen.Proofs.Yaml.Meaning

/-!
# Styles that keep their texts

Every string is written in a style in which it reads back, and numbers and truth values read back as
they are. A text that a plain scalar would not stand for has one line only, so that quoting it keeps
its characters.
-/

namespace Kitchen.Yaml

open Text

/-! ## Texts of several lines -/

section LineFeeds

variable {s : List Char} (h : '\n' ∈ s)

include h

theorem digits?_of_lineFeed (base : Nat) : digits? base s = none := by
  have hall : s.all (fun c => isHexDigit c && decide (hexValue c < base)) = false :=
    List.all_eq_false.mpr ⟨'\n', h, by simp [show isHexDigit '\n' = false from rfl]⟩
  rw [digits?, hall, Bool.and_false]
  rfl

theorem based?_of_lineFeed : based? s = none := by
  unfold based?
  split
  case h_4 => rfl
  all_goals
    apply digits?_of_lineFeed
    simpa using h

theorem lineFeed_mem_dropSign : '\n' ∈ dropSign s := by
  unfold dropSign
  split
  case h_3 => exact h
  all_goals simpa using h

theorem hasLeadingZero_of_lineFeed : hasLeadingZero s = false := by
  have hmem := lineFeed_mem_dropSign h
  rw [hasLeadingZero]
  split
  · next c rest hsign =>
    rw [hsign] at hmem
    have hrest : '\n' ∈ c :: rest := by simpa using hmem
    exact List.all_eq_false.mpr ⟨'\n', hrest, by decide⟩
  · rfl

theorem natural?_of_lineFeed : natural? s = none := by
  unfold natural?
  split
  · next body =>
    have hmem : '\n' ∈ body := by simpa using h
    simp [based?_of_lineFeed hmem, digits?_of_lineFeed hmem]
  · simp [based?_of_lineFeed h, digits?_of_lineFeed h]

theorem negative?_of_lineFeed : negative? s = none := by
  unfold negative?
  split
  · next body =>
    have hmem : '\n' ∈ body := by simpa using h
    rw [based?_of_lineFeed hmem, digits?_of_lineFeed hmem]
    simp
  · rfl

theorem integer?_of_lineFeed : integer? s = none := by
  rw [integer?, natural?_of_lineFeed h, negative?_of_lineFeed h]
  rfl

theorem isWordInAnyCase_of_lineFeed {word : String} (hword : '\n' ∉ word.toList) : isWordInAnyCase word s = false := by
  rw [isWordInAnyCase, beq_eq_false_iff_ne]
  intro heq
  apply hword
  rw [← heq]
  exact List.mem_map.mpr ⟨'\n', h, rfl⟩

theorem readExponent?_of_lineFeed : readExponent? s = none := by
  have hmem : '\n' ∈ (splitSign s).2 := by
    unfold splitSign
    split
    case h_3 => exact h
    all_goals simpa using h
  have hall : (splitSign s).2.all isAsciiDigit = false := List.all_eq_false.mpr ⟨'\n', hmem, by decide⟩
  rw [readExponent?]
  simp [hall]

theorem lineFeed_mem_dropWhile : '\n' ∈ s.dropWhile isAsciiDigit := by
  have hmem := h
  rw [← List.takeWhile_append_dropWhile (p := isAsciiDigit) (l := s), List.mem_append] at hmem
  rcases hmem with hmem | hmem
  · exact absurd (List.mem_takeWhile_imp hmem) (by decide)
  · exact hmem

theorem readDecimal?_of_lineFeed : readDecimal? s = none := by
  have hrest := lineFeed_mem_dropWhile h
  have hexponent : ∀ c more, '\n' ∈ c :: more → c = 'e' ∨ c = 'E' → readExponent? more = none := by
    rintro c more hmem (rfl | rfl) <;> exact readExponent?_of_lineFeed (by simpa using hmem)
  unfold readDecimal?
  dsimp only
  split
  · next whole behind hpoint =>
    have hmem : '\n' ∈ behind.dropWhile isAsciiDigit := by
      apply lineFeed_mem_dropWhile
      simpa [hpoint] using hrest
    obtain ⟨c, more, hmore⟩ := List.exists_cons_of_ne_nil (List.ne_nil_of_mem hmem)
    rw [hmore] at hmem ⊢
    split
    · rfl
    · dsimp only
      split
      · next hmark =>
        rw [hexponent c more hmem (by simpa using hmark)]
        rfl
      · rfl
  · obtain ⟨c, more, hmore⟩ := List.exists_cons_of_ne_nil (List.ne_nil_of_mem hrest)
    rw [hmore] at hrest ⊢
    split
    · rfl
    · dsimp only
      split
      · next hmark =>
        rw [hexponent c more hrest (by simpa using hmark)]
        rfl
      · rfl

theorem ofChars?_of_lineFeed : Binary64.ofChars? s = none := by
  have hbody : '\n' ∈ (splitSign s).2 := by
    unfold splitSign
    split
    case h_3 => exact h
    all_goals simpa using h
  rw [Binary64.ofChars?]
  simp [isWordInAnyCase_of_lineFeed hbody, readDecimal?_of_lineFeed hbody]

theorem not_contains_of_lineFeed (words : List String) (hwords : words.all (!·.toList.contains '\n') = true) :
    words.contains (String.ofList s) = false := by
  rw [List.contains_eq_mem, decide_eq_false_iff_not]
  intro hmem
  have hword := List.all_eq_true.mp hwords _ hmem
  rw [String.toList_ofList, List.contains_iff_mem.mpr h] at hword
  cases hword

theorem float?_of_lineFeed : float? s = none := by
  have hinfinite := not_contains_of_lineFeed h ["-.inf", "-.Inf", "-.INF"] (by decide)
  have hmissing := not_contains_of_lineFeed h [".nan", ".NaN", ".NAN"] (by decide)
  have hnone : ∀ body, '\n' ∈ body →
      [".inf", ".Inf", ".INF"].contains (String.ofList body) = false ∧ Binary64.ofChars? body = none :=
    fun body hmem => ⟨not_contains_of_lineFeed hmem _ (by decide), ofChars?_of_lineFeed hmem⟩
  unfold float?
  split
  · next body =>
    obtain ⟨hword, hread⟩ := hnone body (by simpa using h)
    simp only [hword, hinfinite, hmissing, hread, Bool.false_eq_true, if_false]
    split <;> rfl
  · obtain ⟨hword, hread⟩ := hnone s h
    simp only [hword, hinfinite, hmissing, hread, Bool.false_eq_true, if_false]
    split <;> rfl

theorem meaning_of_lineFeed : meaning (String.ofList s) = .text := by
  have hempty : s.isEmpty = false := List.isEmpty_eq_false_iff.mpr (List.ne_nil_of_mem h)
  have hnull : isNull (String.ofList s) = false := not_contains_of_lineFeed h _ (by decide)
  have hbool : bool? (String.ofList s) = none := by
    rw [bool?, not_contains_of_lineFeed h _ (by decide), not_contains_of_lineFeed h _ (by decide)]
    rfl
  simp only [meaning, String.toList_ofList, hempty, hnull, hbool, integer?_of_lineFeed h, hasLeadingZero_of_lineFeed h,
    float?_of_lineFeed h, Bool.or_false, Bool.false_eq_true, if_false]

end LineFeeds

/-- A text that plain scalars do not stand for, or not for all readers, has one line. -/
theorem not_lineFeed_of_isAmbiguous {text : String} (h : isAmbiguous text = true) : '\n' ∉ text.toList := by
  intro hmem
  have hwords := not_contains_of_lineFeed hmem booleanWords (by decide)
  have hmeaning := meaning_of_lineFeed hmem
  rw [String.ofList_toList] at hwords hmeaning
  rw [isAmbiguous, hwords, hmeaning, hasLeadingZero_of_lineFeed hmem] at h
  cases h

/-! ## Styles of strings -/

theorem isSingleQuotable_of_allowsSingleQuotes {s : List Char} (h : allowsSingleQuotes s = true) (hline : '\n' ∉ s) :
    IsSingleQuotable s := by
  simp only [allowsSingleQuotes, Bool.and_eq_true, List.all_eq_true, Bool.not_eq_true'] at h
  exact ⟨fun c hc => ⟨h.1 c hc, ne_of_mem_of_not_mem hc hline⟩, h.2⟩

/-- Every string is written in a style that keeps it. -/
theorem isFaithful_stringStyle (text : String) : IsFaithful (stringStyle text) text := by
  have hquoted : '\n' ∉ text.toList →
      IsFaithful (if allowsSingleQuotes text.toList then .singleQuoted else .doubleQuoted) text := by
    intro hline
    split
    · next hallowed => exact .singleQuoted (isSingleQuotable_of_allowsSingleQuotes hallowed hline)
    · exact .doubleQuoted text
  rw [stringStyle]
  dsimp only
  split
  · next hambiguous => exact hquoted (not_lineFeed_of_isAmbiguous hambiguous)
  · next hplain =>
    split
    · next hline =>
      split
      · next hallowed =>
        simp only [allowsLiteral, Bool.and_eq_true, List.all_eq_true] at hallowed
        apply IsFaithful.literal hallowed.1.1
        exact List.ne_nil_of_mem (List.contains_iff_mem.mp hline)
      · exact .doubleQuoted text
    · next hline =>
      split
      · next hallowed =>
        apply IsFaithful.plain hallowed
        intro hempty
        rw [String.toList_eq_nil_iff.mp hempty] at hplain
        exact hplain (by decide +kernel)
      · exact hquoted (mt List.contains_iff_mem.mpr hline)

/-! ## Numbers and truth values -/

theorem anyNeighbours_eq_false {test : Char → Char → Bool} {s : List Char}
    (h : ∀ a ∈ s, ∀ b ∈ s, test a b = false) : anyNeighbours test s = false := by
  induction s with
  | nil => rfl
  | cons a s ih =>
    cases s with
    | nil => rfl
    | cons b s =>
      rw [anyNeighbours, h a (by simp) b (by simp), Bool.false_or]
      exact ih fun c hc d hd => h c (List.mem_cons_of_mem a hc) d (List.mem_cons_of_mem a hd)

/-- Digits, signs, points and marks of exponents, of which a number is made up. -/
def isNumberChar (c : Char) : Bool := isAsciiDigit c || ['.', 'e', '+', '-'].contains c

theorem ne_of_isNumberChar {c d : Char} (hc : isNumberChar c = true) (hd : isNumberChar d = false) : c ≠ d := by
  rintro rfl
  exact Bool.noConfusion (hc.symm.trans hd)

/-- No character of a number ends a word. -/
theorem word_of_isNumberChar {c : Char} (h : isNumberChar c = true) :
    isWritable c = true ∧ Yaml.isBlank c = false ∧ isBreak c = false := by
  have hne := fun d => ne_of_isNumberChar (d := d) h
  refine ⟨?_, ?_, ?_⟩
  · simp only [isNumberChar, isAsciiDigit, Bool.or_eq_true, Bool.and_eq_true, decide_eq_true_eq, List.contains_iff_mem] at h
    rcases h with ⟨hlow, hhigh⟩ | h
    · exact isWritable_of_range '0' '9' hlow hhigh (by decide) (by decide)
    · have hmarks : ∀ d ∈ ['.', 'e', '+', '-'], isWritable d = true := List.all_iff_forall_prop.mp (by decide)
      exact hmarks c h
  · simp [Yaml.isBlank, hne ' ' rfl, hne '\t' rfl]
  · simp [isBreak, hne '\n' rfl, hne '\r' rfl, hne '\x85' rfl, hne '\u2028' rfl, hne '\u2029' rfl]

theorem startsNumber_cases {s : List Char} (h : startsNumber s = true) :
    ∃ sign digit rest, s = sign ++ digit :: rest ∧ (sign = [] ∨ sign = ['+'] ∨ sign = ['-']) ∧
      isAsciiDigit digit = true := by
  rw [startsNumber] at h
  unfold dropSign at h
  split at h
  · next rest =>
    cases rest with
    | nil => cases h
    | cons digit rest => exact ⟨['+'], digit, rest, rfl, .inr (.inl rfl), h⟩
  · next rest =>
    cases rest with
    | nil => cases h
    | cons digit rest => exact ⟨['-'], digit, rest, rfl, .inr (.inr rfl), h⟩
  · cases s with
    | nil => cases h
    | cons digit rest => exact ⟨[], digit, rest, rfl, .inl rfl, h⟩

/-- A number can be written plain. -/
theorem allowsPlain_of_number {s : List Char} (hchars : ∀ c ∈ s, isNumberChar c = true) (hs : startsNumber s = true) :
    allowsPlain s = true := by
  have hne : ∀ c ∈ s, ∀ d, isNumberChar d = false → c ≠ d := fun c hc d => ne_of_isNumberChar (hchars c hc)
  have hall : (s.all fun c => isWritable c && !isBreak c) = true := by
    apply List.all_eq_true.mpr
    intro c hc
    obtain ⟨hwritable, -, hbreak⟩ := word_of_isNumberChar (hchars c hc)
    rw [hwritable, hbreak]
    rfl
  have hedge : ∀ c : Option Char, (∀ d, c = some d → d ∈ s) → (c.any fun c => c == ' ' || isBreak c) = false := by
    intro c hc
    cases c with
    | none => rfl
    | some d =>
      obtain ⟨-, -, hbreak⟩ := word_of_isNumberChar (hchars d (hc d rfl))
      simp [hbreak, hne d (hc d rfl) ' ' rfl]
  have hinside : hasIndicatorInside s = false := by
    have hlast : s.getLast? ≠ some ':' := fun hlast => hne ':' (List.mem_of_getLast? hlast) ':' rfl rfl
    rw [hasIndicatorInside, beq_eq_false_iff_ne.mpr hlast, Bool.false_or]
    apply anyNeighbours_eq_false
    intro a ha b hb
    simp [hne a ha ':' rfl, hne b hb '#' rfl]
  obtain ⟨sign, digit, rest, rfl, hsign, hdigit⟩ := startsNumber_cases hs
  have hdigitNe : ∀ d, isAsciiDigit d = false → digit ≠ d := fun d hd => ne_of_isAsciiDigit hdigit hd
  have hboundary : isBoundary (some digit) = false := by
    obtain ⟨-, hblank, hbreak⟩ := word_of_isNumberChar (hchars digit (by simp))
    simp [isBoundary, hblank, hbreak]
  have hdash : '-' ≠ digit := (hdigitNe '-' rfl).symm
  have hdot : '.' ≠ digit := (hdigitNe '.' rfl).symm
  have hmarks : ∀ d ∈ "#,[]\x7b\x7d&*!|>'\"%@`?:-".toList, isAsciiDigit d = false :=
    List.all_iff_forall_prop.mp (by decide)
  have hdigitMarks := fun d hd => hdigitNe d (hmarks d hd)
  have hfirst : startsLikeIndicator (sign ++ digit :: rest) = false ∧ hasIndicatorFirst (sign ++ digit :: rest) = false := by
    simp at hdigitMarks
    rcases hsign with rfl | rfl | rfl <;> 

      simp [startsLikeIndicator, List.isPrefixOf_cons_cons, hasIndicatorFirst, hboundary, hdigitMarks, hdash, hdot]
  rw [allowsPlain, hall, hinside, hfirst.1, hfirst.2]
  simp only [hedge _ fun d hd => List.mem_of_mem_head? hd, hedge _ fun d hd => List.mem_of_getLast? hd]
  rfl

theorem isFaithful_of_number {s : List Char} (hchars : ∀ c ∈ s, isNumberChar c = true) (hs : startsNumber s = true) :
    IsFaithful .plain (String.ofList s) := by
  apply IsFaithful.plain
  · rw [String.toList_ofList]
    exact allowsPlain_of_number hchars hs
  · rw [String.toList_ofList]
    rintro rfl
    cases hs

theorem isFaithful_float {x : Binary64} (hfinite : x.isFinite = true) : IsFaithful .plain (Binary64.yaml.text x) := by
  cases x with
  | nan => cases hfinite
  | infinite negative => cases hfinite
  | finite negative rank =>
    have hfraction : Binary64.IsFraction (Binary64.yaml.magnitude rank) :=
      (Binary64.writes_magnitude rfl rank.val).isFraction
    apply isFaithful_of_number _ (startsNumber_signed hfraction negative)
    intro c hc
    rcases List.mem_append.mp hc with hc | hc
    · cases negative with
      | true => rw [List.mem_singleton.mp hc]; rfl
      | false => cases hc
    · rcases hfraction.chars c hc with hdigit | rfl | rfl | rfl | rfl
      · simp [isNumberChar, hdigit]
      all_goals rfl

theorem isFaithful_natural (n : Nat) : IsFaithful .plain (toString n) := by
  have hdigits := allDigits_toDigits n
  obtain ⟨c, rest, hcons⟩ := List.exists_cons_of_ne_nil (Nat.toDigits_ne_nil (b := 10) (n := n))
  have hfaithful : IsFaithful .plain (String.ofList (Nat.toDigits 10 n)) := by
    apply isFaithful_of_number
    · intro c hc
      simp [isNumberChar, hdigits c hc]
    · exact startsNumber_of_digit (by rw [hcons]; rfl) (hdigits c (hcons ▸ List.mem_cons_self))
  rwa [← toList_natToString, String.ofList_toList] at hfaithful

theorem isFaithful_bool (b : Bool) : IsFaithful .plain (if b then "true" else "false") := by
  cases b <;> exact .plain (by decide +kernel) (by decide)

end Kitchen.Yaml
