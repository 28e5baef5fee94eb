import Kitchen.Regex.Matcher
import Mathlib.Data.Bool.AllAny

/-!
# Literal texts as patterns

The pattern of a literal text is read as its characters in turn, each a set of its own, whatever the
text is made of. The matcher that comes of it takes a state for every byte of the text, which bounds
the texts that have one.
-/

namespace Kitchen.Regex

open Text

/-- The flags under which a character stands for itself alone. -/
structure Flags.Literal (flags : Flags) : Prop where
  exact : flags.caseInsensitive = false
  unicode : flags.unicode = true
  dense : flags.spaced = false

/-! ## Expressions -/

namespace Expr

/-- What a character stands for by itself. -/
def ofChar (c : Char) : Expr := .set (.single c)

/-- The expression that matches a text alone. -/
def literal : List Char → Expr
  | [] => .empty
  | [c] => .ofChar c
  | c :: d :: s => .concat ((c :: d :: s).map .ofChar)

theorem sequenceCode_map_ofChar (s : List Char) :
    sequenceCode (s.map .ofChar) = s.map fun c => .take (.single c) := by
  induction s with
  | nil => rfl
  | cons c s ih =>
    rw [List.map_cons, sequenceCode, ih]
    rfl

@[simp] theorem code_literal (s : List Char) : (literal s).code = s.map fun c => .take (.single c) := by
  match s with
  | [] => rfl
  | [c] => rfl
  | c :: d :: s => exact sequenceCode_map_ofChar (c :: d :: s)

theorem listGroups_map_ofChar (s : List Char) : listGroups (s.map .ofChar) = [] := by
  induction s with
  | nil => rfl
  | cons c s ih => exact ih

@[simp] theorem groupNames_literal (s : List Char) : (literal s).groupNames = [] := by
  have hgroups : (literal s).groups = [] := by
    match s with
    | [] => rfl
    | [c] => rfl
    | c :: d :: s => exact listGroups_map_ofChar (c :: d :: s)
  rw [groupNames, hgroups]
  rfl

theorem maxDepth_map_ofChar (s : List Char) : maxDepth (s.map .ofChar) = 0 := by
  induction s with
  | nil => rfl
  | cons c s ih =>
    rw [List.map_cons, maxDepth, ih]
    rfl

theorem depth_literal_le (s : List Char) : (literal s).depth ≤ 1 := by
  match s with
  | [] => exact Nat.zero_le 1
  | [c] => exact Nat.zero_le 1
  | c :: d :: s => exact Nat.le_of_eq (congrArg (1 + ·) (maxDepth_map_ofChar (c :: d :: s)))

theorem bytes_ofChar (c : Char) : (ofChar c).bytes = stateBytes * c.utf8Size := by
  change (if c.toNat = c.toNat then stateBytes * (Char.ofNat c.toNat).utf8Size else _) = _
  rw [if_pos rfl, Char.ofNat_toNat]

theorem listBytes_map_ofChar (s : List Char) :
    listBytes (s.map .ofChar) = stateBytes * (s.flatMap String.utf8EncodeChar).length := by
  induction s with
  | nil => rfl
  | cons c s ih =>
    rw [List.map_cons, listBytes, bytes_ofChar, ih, List.flatMap_cons, List.length_append,
      String.length_utf8EncodeChar, Nat.mul_add]

/-- A literal text takes a state for every byte of it; the empty text takes one. -/
theorem bytes_literal (s : List Char) :
    (literal s).bytes = stateBytes * max 1 (s.flatMap String.utf8EncodeChar).length := by
  match s with
  | [] => rfl
  | [c] =>
    rw [literal, bytes_ofChar, List.flatMap_singleton, String.length_utf8EncodeChar,
      Nat.max_eq_right c.utf8Size_pos]
  | c :: d :: s =>
    have hpos := c.utf8Size_pos
    rw [literal, bytes, listBytes_map_ofChar, Nat.max_eq_right]
    rw [List.flatMap_cons, List.length_append, String.length_utf8EncodeChar]
    omega

end Expr

/-! ## Reading -/

namespace Parse

variable {α β : Type} {cursor after : Cursor} {c : Char} {s : List Char} {flags : Flags} {n : Nat}
  {names : List String}

theorem bind_eq_of_ok {read : Parse α} {f : α → Parse β} {a : α} (h : read cursor = .ok (a, after)) :
    (read >>= f) cursor = f a after := by
  change (read cursor >>= fun (a, after) => f a after) = _
  rw [h]
  rfl

theorem flags_eq (cursor : Cursor) : Parse.flags cursor = .ok (cursor.flags, cursor) := rfl

theorem peek?_eq (cursor : Cursor) : peek? cursor = .ok (cursor.rest.head?, cursor) := rfl

theorem next_eq (cause : PatternCause) :
    next cause ⟨c :: s, flags, n, names⟩ = .ok (c, ⟨c :: s, flags, n, names⟩) := rfl

theorem bump_eq : bump ⟨c :: s, flags, n, names⟩ = .ok ((), ⟨s, flags, n, names⟩) := rfl

theorem skipSpace_eq (h : cursor.flags.spaced = false) : skipSpace cursor = .ok ((), cursor) := by
  rw [skipSpace, bind_eq_of_ok (flags_eq cursor), h]
  rfl

theorem isAsciiDigit_of_isMeta (h : isMeta c = true) : isAsciiDigit c = false := by
  have hall : ∀ c ∈ "\\.+*?()|[]\x7b\x7d^$#&-~".toList, isAsciiDigit c = false :=
    List.all_iff_forall_prop.mp (by decide)
  exact hall c (List.contains_iff_mem.mp h)

theorem primitiveExpr_literal (hf : flags.Literal) (s : List Char) :
    primitiveExpr (.literal c false) ⟨s, flags, n, names⟩ =
      .ok (.ofChar c, ⟨s, flags, n, names⟩) := by
  rw [primitiveExpr, bind_eq_of_ok (flags_eq _)]
  simp only [literalSet, foldSet, hf.exact, hf.unicode]
  rfl

theorem primitive_plain (hf : flags.Literal) (hc : isMeta c = false) :
    primitive ⟨c :: s, flags, n, names⟩ = .ok (.ofChar c, ⟨s, flags, n, names⟩) := by
  rw [primitive, bind_eq_of_ok (flags_eq _), bind_eq_of_ok (next_eq _)]
  split
  case h_5 =>
    rw [bind_eq_of_ok bump_eq]
    exact primitiveExpr_literal hf s
  all_goals exact absurd hc (by decide)

theorem escape_meta (hc : isMeta c = true) :
    escape ⟨'\\' :: c :: s, flags, n, names⟩ = .ok (.literal c false, ⟨s, flags, n, names⟩) := by
  rw [escape, bind_eq_of_ok bump_eq, bind_eq_of_ok (next_eq _), isAsciiDigit_of_isMeta hc]
  simp only [Bool.false_eq_true, if_false]
  rw [bind_eq_of_ok (flags_eq _)]
  split
  case h_6 =>
    rw [bind_eq_of_ok bump_eq, isEscapable, hc]
    rfl
  all_goals exact absurd hc (by decide)

theorem primitive_escaped (hf : flags.Literal) (hc : isMeta c = true) :
    primitive ⟨'\\' :: c :: s, flags, n, names⟩ = .ok (.ofChar c, ⟨s, flags, n, names⟩) := by
  rw [primitive, bind_eq_of_ok (flags_eq _), bind_eq_of_ok (next_eq _)]
  simp only
  rw [bind_eq_of_ok (escape_meta hc)]
  exact primitiveExpr_literal hf s

theorem sequenceOf_nil (hf : flags.Literal) (fuel : Nat) (items : List Item) :
    sequenceOf (fuel + 1) items ⟨[], flags, n, names⟩ =
      .ok (sequence items, ⟨[], flags, n, names⟩) := by
  rw [sequenceOf, bind_eq_of_ok (skipSpace_eq hf.dense), bind_eq_of_ok (peek?_eq _)]
  rfl

/-- A part of a sequence that opens no group and no class and repeats nothing. -/
theorem sequenceOf_primitive (hf : flags.Literal) {e : Expr}
    (hc : ∀ d ∈ ['|', ')', '(', '[', '?', '*', '+', '{'], c ≠ d)
    (h : primitive ⟨c :: s, flags, n, names⟩ = .ok (e, after)) (fuel : Nat) (items : List Item) :
    sequenceOf (fuel + 1) items ⟨c :: s, flags, n, names⟩ =
      sequenceOf fuel (.expr e :: items) after := by
  rw [sequenceOf, bind_eq_of_ok (skipSpace_eq hf.dense), bind_eq_of_ok (peek?_eq _)]
  generalize hnext : (⟨c :: s, flags, n, names⟩ : Cursor).rest.head? = next
  split
  case h_1 => cases hnext
  case h_10 => rw [bind_eq_of_ok h]
  all_goals exact absurd (Option.some.inj hnext) (hc _ (by decide))

/-- The pattern of a literal text is read as its characters in turn. -/
theorem sequenceOf_literalPattern (hf : flags.Literal) (s : List Char) {fuel : Nat}
    (hfuel : s.length < fuel) (items : List Item) :
    sequenceOf fuel items ⟨literalPattern s, flags, n, names⟩ =
      .ok (sequence ((s.map fun c => .expr (.ofChar c)).reverse ++ items),
        ⟨[], flags, n, names⟩) := by
  induction s generalizing fuel items with
  | nil =>
    obtain ⟨fuel, rfl⟩ : ∃ n, fuel = n + 1 := ⟨fuel - 1, by omega⟩
    exact sequenceOf_nil hf fuel items
  | cons c s ih =>
    obtain ⟨fuel, rfl⟩ : ∃ n, fuel = n + 1 := ⟨fuel - 1, by omega⟩
    have hrest := ih (Nat.lt_of_succ_lt_succ hfuel) (.expr (.ofChar c) :: items)
    have hitems : ((c :: s).map fun c => Item.expr (.ofChar c)).reverse ++ items =
        (s.map fun c => Item.expr (.ofChar c)).reverse ++ .expr (.ofChar c) :: items := by simp
    rw [hitems, ← hrest, literalPattern, List.flatMap_cons]
    split
    case isTrue hmeta =>
      have hne : ∀ d ∈ ['|', ')', '(', '[', '?', '*', '+', '{'], '\\' ≠ d :=
        List.all_iff_forall_prop.mp (by decide)
      exact sequenceOf_primitive hf hne (primitive_escaped hf hmeta) fuel items
    case isFalse hplain =>
      have hne : ∀ d ∈ ['|', ')', '(', '[', '?', '*', '+', '{'], c ≠ d := by
        have hall : ∀ d ∈ ['|', ')', '(', '[', '?', '*', '+', '{'], isMeta d = true :=
          List.all_iff_forall_prop.mp (by decide)
        rintro d hd rfl
        exact hplain (hall c hd)
      exact sequenceOf_primitive hf hne (primitive_plain hf (eq_false_of_ne_true hplain)) fuel
        items

theorem sequence_map_ofChar (s : List Char) :
    sequence (s.map fun c => .expr (.ofChar c)).reverse = .literal s := by
  match s with
  | [] => rfl
  | [c] => rfl
  | c :: d :: s => simp [sequence, Expr.literal, Function.comp_def]

end Parse

theorem length_le_literalPattern (s : List Char) : s.length ≤ (literalPattern s).length := by
  induction s with
  | nil => exact Nat.le_refl _
  | cons c s ih =>
    rw [literalPattern, List.flatMap_cons, List.length_append, List.length_cons]
    rw [literalPattern] at ih
    split <;> simp only [List.length_cons, List.length_nil] <;> omega

/-- The pattern of a literal text stands for that text. -/
theorem Expr.ofPattern_literalPattern {flags : Flags} (hf : flags.Literal) (s : List Char) :
    Expr.ofPattern flags (literalPattern s) = .ok (.literal s) := by
  have hlength := length_le_literalPattern s
  have hsequence : Parse.sequenceOf (3 * (literalPattern s).length + 2) []
      ⟨literalPattern s, flags, 1, []⟩ = .ok (.literal s, ⟨[], flags, 1, []⟩) := by
    rw [Parse.sequenceOf_literalPattern hf s (by omega), List.append_nil, Parse.sequence_map_ofChar]
  have halternation : Parse.alternation (3 * (literalPattern s).length + 3)
      ⟨literalPattern s, flags, 1, []⟩ = .ok (.literal s, ⟨[], flags, 1, []⟩) := by
    rw [Parse.alternation, Parse.bind_eq_of_ok hsequence]
    rfl
  have hdepth : ¬ Parse.nestLimit < (literal s).depth :=
    Nat.not_lt.mpr (Nat.le_trans (depth_literal_le s) (by decide))
  have hpattern : Parse.pattern (literalPattern s).length ⟨literalPattern s, flags, 1, []⟩ =
      .ok (.literal s, ⟨[], flags, 1, []⟩) := by
    rw [Parse.pattern, Parse.bind_eq_of_ok halternation, Parse.bind_eq_of_ok (Parse.peek?_eq _)]
    simp only [List.head?_nil, Option.isSome_none, Bool.false_eq_true, if_neg hdepth]
    rfl
  change Prod.fst <$> Parse.pattern (literalPattern s).length ⟨literalPattern s, flags, 1, []⟩ = _
  rw [hpattern]
  rfl

/-! ## Matchers -/

/-- The matcher of a literal text. -/
def Matcher.literal (s : List Char) : Matcher :=
  ⟨(s.map fun c => Instruction.take (.single c)).toArray, []⟩

/-- The most bytes that a literal text may have. -/
def Matcher.literalLimit : Nat := (sizeLimit - frameBytes) / Expr.stateBytes

/-- A literal text has a matcher if it is no longer than the limit, whatever characters it holds. -/
theorem Matcher.compile_literalPattern {flags : Flags} (hf : flags.Literal) (s : List Char) :
    compile flags (String.ofList (literalPattern s)) =
      if (s.flatMap String.utf8EncodeChar).length ≤ literalLimit then .ok (literal s)
      else .error (.tooLarge sizeLimit) := by
  have hbytes : (Expr.literal s).bytes = 32 * max 1 (s.flatMap String.utf8EncodeChar).length :=
    Expr.bytes_literal s
  have hlimit : literalLimit = 327673 := by decide
  have hsize : sizeLimit = 10485760 := by decide
  have hframe : frameBytes = 208 := by decide
  rw [compile, String.toList_ofList, Expr.ofPattern_literalPattern hf]
  simp only [hbytes, Expr.code_literal, Expr.groupNames_literal]
  split
  case isTrue hlarge => rw [if_neg (by omega)]
  case isFalse hfits =>
    rw [if_pos (by omega)]
    rfl

end Kitchen.Regex
