import Kitchen.Regex.Escape

/-!
# Bracketed classes

Sets of characters that a pattern lists in brackets: characters, ranges, escapes, named classes and
further brackets, and operators between them.
-/

namespace Kitchen.Regex.Parse

open Text

/-- How two parts of a class are combined. -/
inductive SetOperator where
  | inter
  | difference
  | symmetricDifference

/-- Combines the part of a class before an operator with the part after it. -/
def combineSets (flags : Flags) (before : Option (SetOperator × CharSet)) (after : CharSet) :
    CharSet :=
  match before with
  | none => after
  | some (operator, left) =>
    let left := foldSet flags left
    let right := foldSet flags after
    match operator with
    | .inter => left.inter right
    | .difference => left.difference right
    | .symmetricDifference => left.symmetricDifference right

/-- A named ASCII class at its opening bracket, with the pattern after it. -/
def asciiClass? (s : List Char) : Option (Bool × CharSet × List Char) :=
  match s with
  | '[' :: ':' :: s =>
    let (negated, s) := match s with
      | '^' :: r => (true, r)
      | r => (false, r)
    match s.dropWhile (· != ':') with
    | ':' :: ']' :: rest =>
      (CharSet.ofAsciiName? (String.ofList (s.takeWhile (· != ':')))).map fun chars =>
        (negated, chars, rest)
    | _ => none
  | _ => none

/-- A character of a class, which without Unicode must be ASCII. -/
def checkLiteral (flags : Flags) (c : Char) : Parse Char := do
  if !flags.unicode && !decide (c.toNat < 0x80) then refuse .notAscii
  return c

/-- One character or escape of a class. -/
def classItem : Parse Primitive := do
  let c ← next .unclosedClass
  if c = '\\' then escape
  else do
    bump
    return .literal c false

/-- One character, escape or range of a class. -/
def classRange : Parse CharSet := do
  let flags ← flags
  let first ← classItem
  skipSpace
  let c ← next .unclosedClass
  let second ← peekSecond?
  if c != '-' || second == some ']' || second == some '-' then
    match first with
    | .literal c _ => return .single (← checkLiteral flags c)
    | .set chars => return chars
    | .look _ => refuse .assertionInClass
  else do
    bumpSpace
    let last ← classItem
    match first, last with
    | .literal lo _, .literal hi _ =>
      let lo ← checkLiteral flags lo
      let hi ← checkLiteral flags hi
      if hi < lo then refuse .badRange
      return [(lo.toNat, hi.toNat)]
    | _, _ => refuse .badRange

/-- Hyphens at the start of a class, which stand for themselves. -/
def leadingHyphens : Nat → Parse Bool
  | 0 => return false
  | fuel + 1 => do
    if (← next .unclosedClass) = '-' then
      bumpSpace
      let _ ← next .unclosedClass
      let _ ← leadingHyphens fuel
      return true
    else return false

mutual

/-- A bracketed class at its opening bracket. `depth` bounds the brackets inside one another. -/
def bracketed : Nat → Nat → Parse CharSet
  | 0, _ => refuse .unclosedClass
  | fuel + 1, depth => do
    if depth = 0 then refuse .tooDeep
    bumpSpace
    let negated ← do
      if (← next .unclosedClass) = '^' then
        bumpSpace
        pure true
      else pure false
    let hyphens ← leadingHyphens (← rest).length
    let start : CharSet := if hyphens then .single '-' else []
    if !hyphens && (← next .unclosedClass) = ']' then
      bumpSpace
      let _ ← next .unclosedClass
      classBody fuel depth negated none (.single ']')
    else classBody fuel depth negated none start

/-- The rest of a bracketed class: what it holds so far, and what stands before the last
operator. -/
def classBody : Nat → Nat → Bool → Option (SetOperator × CharSet) → CharSet → Parse CharSet
  | 0, _, _, _, _ => refuse .unclosedClass
  | fuel + 1, depth, negated, before, held => do
    skipSpace
    let c ← next .unclosedClass
    let s ← rest
    let flags ← flags
    match c, s.tail.head? with
    | '[', _ =>
      match asciiClass? s with
      | some (reversed, chars, rest) =>
        moveTo rest
        let chars ← closeSet flags reversed (foldSet flags chars)
        classBody fuel depth negated before (held.union chars)
      | none =>
        let chars ← bracketed fuel (depth - 1)
        classBody fuel depth negated before (held.union chars)
    | ']', _ =>
      bump
      closeSet flags negated (foldSet flags (combineSets flags before held))
    | '&', some '&' =>
      moveTo s.tail.tail
      classBody fuel depth negated (some (.inter, combineSets flags before held)) []
    | '-', some '-' =>
      moveTo s.tail.tail
      classBody fuel depth negated (some (.difference, combineSets flags before held)) []
    | '~', some '~' =>
      moveTo s.tail.tail
      classBody fuel depth negated (some (.symmetricDifference, combineSets flags before held)) []
    | _, _ =>
      let chars ← classRange
      classBody fuel depth negated before (held.union chars)

end

end Kitchen.Regex.Parse
