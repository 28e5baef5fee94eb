import Kitchen.CommandLine.Path

/-!
# Patterns of paths

In the names of a pattern a question mark stands for any character, a star for any characters,
brackets for one of the characters in them or, behind an exclamation mark, for any other. Two stars
as a name stand for any number of directories.
-/

namespace Kitchen

open Text

inductive GlobPart where
  | char (c : Char)
  | any
  /-- A character in one of some ranges, or in none of them. -/
  | within (isIn : Bool) (ranges : List (Char × Char))
  | star
  | doubleStar
  deriving DecidableEq, Repr, Inhabited

namespace GlobPart

/-- A character in one of some ranges. -/
def isWithin (ranges : List (Char × Char)) (c : Char) : Bool :=
  ranges.any fun (first, last) => first ≤ c && c ≤ last

/-- The part stands for the character. -/
def accepts (part : GlobPart) (c : Char) : Bool :=
  match part with
  | char d => c == d
  | any => true
  | within isIn ranges => isWithin ranges c == isIn
  | star => false
  | doubleStar => false

/-- The ranges that brackets list: two characters with a hyphen between them, or one character. -/
def ranges : List Char → List (Char × Char)
  | first :: '-' :: last :: rest => (first, last) :: ranges rest
  | c :: rest => (c, c) :: ranges rest
  | [] => []

/-- Reads what stands in brackets, with what follows them. The first character belongs to it even if
it is a closing bracket. -/
def readListed (isIn : Bool) : List Char → Option (GlobPart × List Char)
  | [] => none
  | first :: rest =>
    (cut? (· == ·) [']'] rest).map fun (listed, after) =>
      (within isIn (ranges (first :: listed)), after)

/-- Reads brackets behind the opening one; an exclamation mark says that what they list is left
out. -/
def readBrackets : List Char → Option (GlobPart × List Char)
  | '!' :: rest => readListed false rest
  | rest => readListed true rest

theorem length_readListed {isIn : Bool} {s after : List Char} {part : GlobPart}
    (h : readListed isIn s = some (part, after)) : after.length < s.length := by
  cases s with
  | nil => simp [readListed] at h
  | cons first rest =>
    obtain ⟨⟨listed, tail⟩, cut, heq⟩ := Option.map_eq_some_iff.1 h
    obtain ⟨-, rfl⟩ : _ = part ∧ tail = after := by simpa using heq
    have := length_cut? cut
    simp only [List.length_cons, List.length_nil] at this ⊢
    omega

theorem length_readBrackets {s after : List Char} {part : GlobPart}
    (h : readBrackets s = some (part, after)) : after.length < s.length := by
  unfold readBrackets at h
  split at h
  · exact Nat.lt_succ_of_lt (length_readListed h)
  · exact length_readListed h

/-- Reads a pattern. Two stars must fill a name, which they can where one starts; more stars than
two stand for nothing. -/
def read (atStart : Bool) (s : List Char) : Option (List GlobPart) :=
  match s with
  | [] => some []
  | ['*', '*'] => if atStart then some [doubleStar] else none
  | '*' :: '*' :: '/' :: rest =>
    if atStart then (read true rest).map (doubleStar :: ·) else none
  | '*' :: '*' :: _ => none
  | '*' :: rest => (read false rest).map (star :: ·)
  | '?' :: rest => (read false rest).map (any :: ·)
  | '[' :: rest =>
    match h : readBrackets rest with
    | some (part, after) =>
      have : after.length < rest.length := length_readBrackets h
      (read false after).map (part :: ·)
    | none => none
  | c :: rest => (read (c == '/') rest).map (char c :: ·)
termination_by s.length

/-- The pattern stands for the text. -/
def admits : List GlobPart → List Char → Bool
  | [], s => s.isEmpty
  | star :: rest, [] => admits rest []
  | star :: rest, c :: s => admits rest (c :: s) || admits (star :: rest) s
  | doubleStar :: rest, [] => admits rest []
  | doubleStar :: rest, c :: s => admits rest (c :: s) || admits (doubleStar :: rest) s
  | part :: rest, c :: s => part.accepts c && admits rest s
  | _ :: _, [] => false
termination_by parts s => (parts.length, s.length)

/-- The text of a pattern that stands for itself alone. -/
def literal? : List GlobPart → Option (List Char)
  | [] => some []
  | char c :: rest => (literal? rest).map (c :: ·)
  | _ => none

end GlobPart

/-- A pattern of paths: where to start, the patterns of the names, and whether only directories are
meant. -/
structure Glob where
  start : String
  names : List (List GlobPart)
  onlyDirectories : Bool
  deriving Repr, Inhabited

namespace Glob

/-- The pattern of a name that stands for any number of directories. -/
def isRecursive (name : List GlobPart) : Bool := name.contains .doubleStar

/-- The names between the slashes, without an empty one at the end. -/
def pieces (s : List Char) : List (List Char) :=
  let all := splitAt (· == '/') s
  if all.getLast? == some [] then all.dropLast else all

/-- The pattern that a text writes. The text as a whole must be a pattern and so must be its
names. -/
def ofText? (text : String) : Option Glob := do
  let s := text.toList
  let _ ← GlobPart.read true s
  let (start, body) := match s with
    | '/' :: rest => ("/", rest)
    | rest => (Path.current, rest)
  let names ← (pieces body).mapM (GlobPart.read true)
  return ⟨start, if body.isEmpty then [[]] else names, s.getLast? == some '/'⟩

end Glob
end Kitchen
