import Kitchen.Regex.Search
import Kitchen.Text.DecimalDigit

/-!
# Replacement templates

A template is a text with references to groups of a match: a dollar sign and a name or number, with
braces around it where the text that follows would extend it. Two dollar signs stand for one. A
group that took no part in the match, or that does not exist, is empty.
-/

namespace Kitchen.Regex

open Text

inductive TemplatePart where
  | literal (c : Char)
  | number (index : Nat)
  | name (name : String)
  deriving DecidableEq, Repr, Inhabited

namespace TemplatePart

/-- A character of a name without braces. -/
def isNameChar (c : Char) : Bool := c.isAlphanum || c == '_'

/-- The reference that a name stands for: a group by number, where it is one, else by name. -/
def ofName (name : List Char) : TemplatePart :=
  let digits := match name with
    | '+' :: rest => rest
    | name => name
  if !digits.isEmpty && digits.all isAsciiDigit then .number (decimalNumber digits)
  else .name (String.ofList name)

/-- A reference after its dollar sign, and the text after it. -/
def read? (s : List Char) : Option (TemplatePart × List Char) :=
  match s with
  | '{' :: s =>
    match s.dropWhile (· != '}') with
    | '}' :: rest => some (ofName (s.takeWhile (· != '}')), rest)
    | _ => none
  | s =>
    let name := s.takeWhile isNameChar
    if name.isEmpty then none else some (ofName name, s.dropWhile isNameChar)

theorem length_read? {s rest : List Char} {part : TemplatePart} (h : read? s = some (part, rest)) :
    rest.length ≤ s.length := by
  unfold read? at h
  split at h
  · rename_i s
    split at h
    · rename_i tail htail
      obtain ⟨rfl, rfl⟩ : _ = part ∧ tail = rest := by simpa using h
      have : (s.dropWhile (· != '}')).length ≤ s.length := (List.dropWhile_sublist _).length_le
      simp [htail] at this
      simp only [List.length_cons]
      omega
    · simp at h
  · dsimp only at h
    split at h
    · simp at h
    · obtain ⟨rfl, rfl⟩ : _ = part ∧ _ = rest := by simpa using h
      exact (List.dropWhile_sublist _).length_le

def readAll : List Char → List TemplatePart
  | [] => []
  | '$' :: '$' :: rest => .literal '$' :: readAll rest
  | '$' :: s =>
    match _h : read? s with
    | some (part, rest) => part :: readAll rest
    | none => .literal '$' :: readAll s
  | c :: s => .literal c :: readAll s
termination_by s => s.length
decreasing_by
  · simp only [List.length_cons]; omega
  · have := length_read? _h
    simp only [List.length_cons]; omega
  · simp only [List.length_cons]; omega
  · simp only [List.length_cons]; omega

end TemplatePart

/-- The part of a text between two places. -/
def slice (text : Array Char) (start stop : Nat) : List Char := (text.extract start stop).toList

namespace Match

/-- The text of a group by its index; the whole match has index zero. -/
def group (found : Match) (text : Array Char) (index : Nat) : Option (List Char) :=
  if index = 0 then some (slice text found.start found.stop)
  else match found.groups[index - 1]? with
    | some (some (start, stop)) => some (slice text start stop)
    | _ => none

/-- The text that a part of a template stands for. -/
def expandPart (found : Match) (names : List (Option String)) (text : Array Char) :
    TemplatePart → List Char
  | .literal c => [c]
  | .number index => (found.group text index).getD []
  | .name name => match names.idxOf? (some name) with
    | some i => (found.group text (i + 1)).getD []
    | none => []

/-- The text that a template stands for. -/
def expand (found : Match) (names : List (Option String)) (text : Array Char)
    (template : List TemplatePart) : List Char :=
  template.flatMap (found.expandPart names text)

end Match
end Kitchen.Regex
