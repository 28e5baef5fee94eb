import Kitchen.Regex.Bracket

/-!
# Groups in patterns

How a group opens: it may remember what it takes, under a name or a number, or set flags for its
part of the pattern, or for the rest of the group around it.
-/

namespace Kitchen.Regex.Parse

open Text

def flagAlphabet : List Char := ['i', 'm', 's', 'U', 'u', 'R', 'x']

/-- The flag letters up to the end of a flag group, with those after a hyphen switched off. -/
def flagLetters (seen : List Char) (negating : Bool) (dangling : Bool) :
    Nat → Parse (List (Char × Bool))
  | 0 => refuse .unexpectedEnd
  | fuel + 1 => do
    let c ← next .unclosedGroup
    if c = ':' || c = ')' then
      if dangling then refuse .unknownFlag
      return []
    if seen.contains c then refuse .duplicateFlag
    if c = '-' then
      bump
      let _ ← next .unexpectedEnd
      flagLetters (c :: seen) true true fuel
    else do
      if !flagAlphabet.contains c then refuse .unknownFlag
      bump
      let _ ← next .unexpectedEnd
      return (c, !negating) :: (← flagLetters (c :: seen) negating false fuel)

/-- Sets a flag by its letter. -/
def setFlag (flags : Flags) (letter : Char) (on : Bool) : Flags :=
  match letter with
  | 'i' => { flags with caseInsensitive := on }
  | 'm' => { flags with multiLine := on }
  | 's' => { flags with dotAll := on }
  | 'U' => { flags with swapGreed := on }
  | 'u' => { flags with unicode := on }
  | 'R' => { flags with returns := on }
  | _ => { flags with spaced := on }

/-- A character of a group name; the first one is no digit. -/
def isNameChar (first : Bool) (c : Char) : Bool :=
  if first then c == '_' || isAlphabetic c
  else c == '_' || c == '.' || c == '[' || c == ']' || isAlphanumeric c

/-- The characters of a group name up to its closing bracket. -/
def groupName (first : Bool) : Nat → Parse (List Char)
  | 0 => refuse .unexpectedEnd
  | fuel + 1 => do
    let c ← next .unexpectedEnd
    if c = '>' then
      bump
      return []
    if !isNameChar first c then refuse .unknownGroupName
    bump
    return c :: (← groupName false fuel)

/-- What opens a group. -/
inductive GroupOpening where
  | capture (index : Nat) (name : Option String)
  | plain
  /-- Flags for the rest of the enclosing group. -/
  | flagsOnly

/-- Numbers a group that remembers. -/
def takeIndex : Parse Nat := do
  let cursor ← get
  set { cursor with nextGroup := cursor.nextGroup + 1 }
  return cursor.nextGroup

/-- A group that remembers under a name. -/
def namedGroup : Parse GroupOpening := do
  let index ← takeIndex
  let name := String.ofList (← groupName true ((← rest).length + 1))
  if name.isEmpty then refuse .unknownGroupName
  let cursor ← get
  if cursor.groupNames.contains name then refuse .duplicateGroupName
  set { cursor with groupNames := name :: cursor.groupNames }
  return .capture index (some name)

/-- Reads the opening of a group, from its bracket. -/
def groupOpening : Parse GroupOpening := do
  bumpSpace
  match ← rest with
  | '?' :: '=' :: _ => refuse .lookAround
  | '?' :: '!' :: _ => refuse .lookAround
  | '?' :: '<' :: '=' :: _ => refuse .lookAround
  | '?' :: '<' :: '!' :: _ => refuse .lookAround
  | '?' :: 'P' :: '<' :: s =>
    moveTo s
    namedGroup
  | '?' :: '<' :: s =>
    moveTo s
    namedGroup
  | '?' :: s =>
    moveTo s
    let letters ← flagLetters [] false false (s.length + 1)
    let close ← next .unclosedGroup
    bump
    if close = ')' && letters.isEmpty then refuse .missingRepetition
    modify fun cursor =>
      { cursor with flags := letters.foldl (fun f (c, on) => setFlag f c on) cursor.flags }
    return if close = ')' then .flagsOnly else .plain
  | _ => return .capture (← takeIndex) none

end Kitchen.Regex.Parse
