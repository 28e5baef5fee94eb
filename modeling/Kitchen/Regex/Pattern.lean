import Kitchen.Regex.Group

/-!
# Patterns

Reading a regular expression from its written form. Flags are resolved on the way: they hold from
where they are set to the end of the group that sets them. Assertions about what lies ahead or
behind and references to groups are refused.
-/

namespace Kitchen.Regex

open Text

namespace Parse

/-- Part of a sequence: an expression, or flags, which cannot be repeated. -/
inductive Item where
  | expr (e : Expr)
  | flags

/-- The expression of a sequence, whose last part comes first. -/
def sequence (items : List Item) : Expr :=
  let parts := items.reverse.map fun
    | .expr e => e
    | .flags => .empty
  match parts with
  | [] => .empty
  | [e] => e
  | parts => .concat parts

def primitiveExpr (primitive : Primitive) : Parse Expr := do
  let flags ← flags
  match primitive with
  | .literal c byte =>
    if !flags.unicode && byte && !decide (c.toNat < 0x80) then refuse .notAscii
    return .set (literalSet flags c)
  | .set chars => return .set chars
  | .look kind => return .look kind

/-- The characters that a dot takes. -/
def dotSet (flags : Flags) : CharSet :=
  if flags.dotAll then [(0, CharSet.lastCode)]
  else if flags.returns then CharSet.complement [(0x0A, 0x0A), (0x0D, 0x0D)]
  else CharSet.complement [(0x0A, 0x0A)]

/-- What a caret asserts. -/
def caretLook (flags : Flags) : Look :=
  if flags.multiLine then (if flags.returns then .returnLineStart else .lineStart) else .textStart

/-- What a dollar sign asserts. -/
def dollarLook (flags : Flags) : Look :=
  if flags.multiLine then (if flags.returns then .returnLineEnd else .lineEnd) else .textEnd

def primitive : Parse Expr := do
  let flags ← flags
  let c ← next .unexpectedEnd
  match c with
  | '\\' => primitiveExpr (← escape)
  | '.' =>
    bump
    if !flags.unicode then refuse .notAscii
    return .set (dotSet flags)
  | '^' =>
    bump
    return .look (caretLook flags)
  | '$' =>
    bump
    return .look (dollarLook flags)
  | c =>
    bump
    primitiveExpr (.literal c false)

/-- The last expression of a sequence, for a repetition, and the parts before it. -/
def takeLast (items : List Item) : Parse (Expr × List Item) :=
  match items with
  | .expr e :: rest => return (e, rest)
  | _ => refuse .missingRepetition

/-- Whether a question mark follows a repetition; it reverses its greed, as a flag may. -/
def greed : Parse Bool := do
  let flags ← flags
  if (← peek?) = some '?' then
    bump
    return flags.swapGreed
  else return !flags.swapGreed

/-- The bounds of a counted repetition, from its opening brace up to its closing one. -/
def bounds : Parse (Nat × Option Nat) := do
  bumpSpace
  let _ ← next .unclosedCount
  let least ← decimal?
  let c ← next .unclosedCount
  let found ←
    if c = ',' then do
      bumpSpace
      let c ← next .unclosedCount
      if c = '}' then
        match least with
        | some n => pure (n, none)
        | none => refuse .badRepetitionCount
      else do
        let most ← match least with
          | some _ => decimal?
          | none => refuse .badRepetitionCount
        match least, most with
        | some n, some m => pure (n, some m)
        | _, _ => refuse .badRepetitionCount
    else match least with
      | some n => pure (n, some n)
      | none => refuse .badRepetitionCount
  if (← peek?) != some '}' then refuse .unclosedCount
  return found

/-- The end of a group, where the flags from before it hold again. -/
def closeGroup (outer : Flags) : Parse Unit := do
  if (← peek?) != some ')' then refuse .unclosedGroup
  bump
  modify fun cursor => { cursor with flags := outer }

mutual

/-- An expression up to the end of its group. -/
def alternation : Nat → Parse Expr
  | 0 => refuse .tooDeep
  | fuel + 1 => do
    let first ← sequenceOf fuel []
    let rest ← moreChoices fuel
    return if rest.isEmpty then first else .alternate (first :: rest)

def moreChoices : Nat → Parse (List Expr)
  | 0 => return []
  | fuel + 1 => do
    if (← peek?) = some '|' then
      bump
      let choice ← sequenceOf fuel []
      return choice :: (← moreChoices fuel)
    else return []

/-- A sequence up to the end of its choice, after the parts already read, the last of them first. -/
def sequenceOf : Nat → List Item → Parse Expr
  | 0, _ => refuse .tooDeep
  | fuel + 1, items => do
    skipSpace
    match ← peek? with
    | none => return sequence items
    | some '|' => return sequence items
    | some ')' => return sequence items
    | some '(' =>
      let item ← groupOf fuel
      sequenceOf fuel (item :: items)
    | some '[' =>
      let chars ← bracketed ((← rest).length + 1) 250
      sequenceOf fuel (.expr (.set chars) :: items)
    | some '?' => repeatLast fuel items 0 (some 1)
    | some '*' => repeatLast fuel items 0 none
    | some '+' => repeatLast fuel items 1 none
    | some '{' =>
      let (body, before) ← takeLast items
      let (least, most) ← bounds
      bumpSpace
      let greedy ← greed
      if most.any (· < least) then refuse .badRepetitionCount
      sequenceOf fuel (.expr (.copies body least most greedy) :: before)
    | some _ =>
      let e ← primitive
      sequenceOf fuel (.expr e :: items)

/-- A repetition by one character of the last part, and the rest of the sequence. -/
def repeatLast : Nat → List Item → Nat → Option Nat → Parse Expr
  | 0, _, _, _ => refuse .tooDeep
  | fuel + 1, items, least, most => do
    let (body, before) ← takeLast items
    bump
    let greedy ← greed
    sequenceOf fuel (.expr (.copies body least most greedy) :: before)

/-- A group at its opening bracket. Flags set inside it end with it. -/
def groupOf : Nat → Parse Item
  | 0 => refuse .tooDeep
  | fuel + 1 => do
    let outer ← flags
    match ← groupOpening with
    | .flagsOnly => return .flags
    | .plain =>
      let body ← alternation fuel
      closeGroup outer
      return .expr (.group body)
    | .capture index name =>
      let body ← alternation fuel
      closeGroup outer
      return .expr (.capture index name body)

end

/-- How deep the parts of a pattern may nest. -/
def nestLimit : Nat := 250

def pattern (length : Nat) : Parse Expr := do
  let e ← alternation (3 * length + 3)
  if (← peek?).isSome then refuse .unopenedGroup
  if nestLimit < e.depth then refuse .tooDeep
  return e

end Parse

/-- The expression that a pattern writes. -/
def Expr.ofPattern (flags : Flags) (pattern : List Char) : Except PatternCause Expr :=
  (Parse.pattern pattern.length).run' ⟨pattern, flags, 1, []⟩

/-- The pattern of a literal text: a backslash stands before every character that patterns use. -/
def literalPattern (text : List Char) : List Char :=
  text.flatMap fun c => if Parse.isMeta c then ['\\', c] else [c]

end Kitchen.Regex
