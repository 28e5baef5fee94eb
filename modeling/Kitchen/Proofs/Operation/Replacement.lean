import Kitchen.Operation.Replacement
import Kitchen.Proofs.Regex.LiteralSearch

/-!
# Replacing literal texts

In the modes of literal texts, replacing through the matcher of a pattern is replacing occurrences:
no character of the text that is looked for, and none of the text that takes its place, has a meaning
of its own. A text that is longer than matchers may be is refused.
-/

namespace Kitchen.Replacement

open Text Regex

/-- A text with the occurrences of another text replaced, or the first one alone. -/
def replaced (find new text : String) (everywhere : Bool) : String :=
  String.ofList <|
    if everywhere then replaceAll find.toList new.toList text.toList
    else replaceFirst find.toList new.toList text.toList

/-- The arguments of a step that makes no difference of case. -/
def exactArgs (find mode new : String) (everywhere multiLine dotAll : Bool) : List Argument :=
  [.toggle find mode, .text new, .bool everywhere, .bool false, .bool multiLine, .bool dotAll]

/-- The message for a text that is longer than matchers may be. -/
def tooLongMessage (find : String) : String :=
  s!"Invalid pattern '{find}': {(PatternError.tooLarge Matcher.sizeLimit).message}"

/-- What a mode of literal texts comes to once its text is known. -/
theorem findReplace_literal {find mode new text literal : String} (hmode : mode ≠ regexMode)
    (hpattern : patternOf mode find = .ok (String.ofList (literalPattern literal.toList)))
    (everywhere multiLine dotAll : Bool) :
    findReplace (exactArgs find mode new everywhere multiLine dotAll) (.string text) =
      if (utf8Encode literal).length ≤ Matcher.literalLimit then
        .ok (.string (replaced literal new text everywhere))
      else .error (.invalid (tooLongMessage find)) := by
  let flags : Flags := { Flags.default with caseInsensitive := false, multiLine, dotAll }
  have hcompile : Matcher.compile flags (String.ofList (literalPattern literal.toList)) =
      if (utf8Encode literal).length ≤ Matcher.literalLimit then .ok (.literal literal.toList)
      else .error (.tooLarge Matcher.sizeLimit) :=
    Matcher.compile_literalPattern ⟨rfl, rfl, rfl⟩ literal.toList
  have htext : (Dish.string text).asText = .ok text := rfl
  have htoggle : toggleAt (exactArgs find mode new everywhere multiLine dotAll) 0 = (find, mode) := rfl
  have hflags : { Flags.default with
      caseInsensitive := boolAt (exactArgs find mode new everywhere multiLine dotAll) 3
      multiLine := boolAt (exactArgs find mode new everywhere multiLine dotAll) 4
      dotAll := boolAt (exactArgs find mode new everywhere multiLine dotAll) 5 } = flags := rfl
  rw [findReplace, htext]
  simp only [Except.mapError, bind, Except.bind, htoggle, hpattern, hcompile, hflags]
  by_cases hfits : (utf8Encode literal).length ≤ Matcher.literalLimit
  · simp only [if_pos hfits, if_neg hmode, replaceVerbatim_literal]
    rfl
  · simp only [if_neg hfits]
    rfl

/-- Replacing in the modes of literal texts is replacing occurrences, up to the length that matchers
admit. -/
theorem findReplace_plain (find new text : String) (everywhere multiLine dotAll : Bool) :
    findReplace (exactArgs find simpleMode new everywhere multiLine dotAll) (.string text) =
      (if (utf8Encode find).length ≤ Matcher.literalLimit then
        .ok (.string (replaced find new text everywhere))
      else .error (.invalid (tooLongMessage find))) ∧
    findReplace (exactArgs find extendedMode new everywhere multiLine dotAll) (.string text) =
      ((unescape find).mapError fun fault => Fault.invalid (fault.message find)).bind fun decoded =>
        if (utf8Encode decoded).length ≤ Matcher.literalLimit then
          .ok (.string (replaced decoded new text everywhere))
        else .error (.invalid (tooLongMessage find)) := by
  refine ⟨findReplace_literal (by decide) rfl everywhere multiLine dotAll, ?_⟩
  cases hdecoded : unescape find with
  | ok decoded =>
    have hpattern : patternOf extendedMode find =
        .ok (String.ofList (literalPattern decoded.toList)) := by
      rw [patternOf, if_neg (by decide), if_neg (by decide), hdecoded]
    exact findReplace_literal (by decide) hpattern everywhere multiLine dotAll
  | error fault =>
    have hpattern : patternOf extendedMode find = .error (.invalid (fault.message find)) := by
      rw [patternOf, if_neg (by decide), if_neg (by decide), hdecoded]
    change (patternOf extendedMode find).bind _ = _
    rw [hpattern]
    rfl

theorem length_utf8Encode_replicate (n : Nat) :
    (utf8Encode (String.ofList (List.replicate n 'a'))).length = n := by
  rw [utf8Encode, String.toList_ofList]
  induction n with
  | zero => rfl
  | succ n ih =>
    rw [List.replicate_succ, List.flatMap_cons, List.length_append, ih]
    exact Nat.add_comm 1 n

/-- A text that is longer than the input does not occur in it. -/
theorem replaced_of_length_lt {find text : String} (h : text.toList.length < find.toList.length)
    (new : String) (everywhere : Bool) : replaced find new text everywhere = text := by
  have hcut : cut? (· == ·) find.toList text.toList = none := by
    rw [Option.eq_none_iff_forall_ne_some]
    rintro ⟨before, after⟩ hcut
    have := length_cut? hcut
    omega
  have hne : find.toList.isEmpty = false := by
    rw [List.isEmpty_eq_false_iff, ← List.length_pos_iff]
    omega
  rw [replaced, replaceAll, hne, splitOn_of_cut?_eq_none hcut, replaceFirst, hcut]
  cases everywhere <;> exact String.ofList_toList

/-- A long text is refused, though it occurs nowhere in the input. -/
theorem findReplace_too_long :
    let find := String.ofList (List.replicate 360000 'a')
    let text := String.ofList (List.replicate 600 'a')
    replaced find "b" text true = text ∧
      findReplace (exactArgs find simpleMode "b" true true false) (.string text) ≠
        .ok (.string (replaced find "b" text true)) := by
  intro find text
  have hlong : ¬ (utf8Encode find).length ≤ Matcher.literalLimit := by
    rw [length_utf8Encode_replicate]
    decide
  refine ⟨replaced_of_length_lt ?_ "b" true, ?_⟩
  · rw [String.toList_ofList, String.toList_ofList, List.length_replicate, List.length_replicate]
    decide
  · rw [findReplace_literal (by decide) rfl, if_neg hlong]
    exact nofun

end Kitchen.Replacement
