import Kitchen.Argument.Value
import Kitchen.Text.DecimalDigit
import Kitchen.Text.WordCharacter

/-!
# Registers

Texts that a bake remembers by name, and the placeholders that bring them into later arguments. A
placeholder is a dollar sign and the letter R before a name in braces or a number; a backslash in
front keeps it as it is and is dropped itself.
-/

namespace Kitchen

open Text

/-- Remembered texts by name, in the order of the names, and the number that the next text without a
name takes for its name. -/
structure Registers where
  values : List (String × String)
  nextNumber : Nat
  deriving DecidableEq, Repr, Inhabited

namespace Registers

def empty : Registers := ⟨[], 0⟩

def get? (registers : Registers) (name : String) : Option String := registers.values.lookup name

/-- Puts a text under a name into a list ordered by name. -/
def insertValue (name value : String) : List (String × String) → List (String × String)
  | [] => [(name, value)]
  | (n, v) :: rest =>
    if name = n then (name, value) :: rest
    else if name < n then (name, value) :: (n, v) :: rest
    else (n, v) :: insertValue name value rest

/-- Puts a text under a name. -/
def bind (registers : Registers) (name value : String) : Registers :=
  { registers with values := insertValue name value registers.values }

/-- The name of a text without one. -/
def numberedName (registers : Registers) : String := toString registers.nextNumber

/-- Puts a text under the next number. -/
def bindNumbered (registers : Registers) (value : String) : Registers :=
  { registers.bind registers.numberedName value with nextNumber := registers.nextNumber + 1 }

end Registers

/-! ## Placeholders -/

/-- A placeholder as it stands in a text. -/
structure Placeholder where
  escaped : Bool
  name : List Char
  /-- The placeholder as written, without the backslash of an escaped one. -/
  written : List Char
  deriving DecidableEq, Repr

namespace Placeholder

/-- A name in braces or a number, and the text after it. -/
def readName? : List Char → Option (List Char × List Char × List Char)
  | '{' :: s =>
    let name := s.takeWhile isWord
    match s.dropWhile isWord with
    | '}' :: rest => if name.isEmpty then none else some (name, '{' :: name ++ ['}'], rest)
    | _ => none
  | s =>
    let name := s.takeWhile isDecimalDigit
    if name.isEmpty then none else some (name, name, s.dropWhile isDecimalDigit)

/-- A placeholder at the start of a text, and the text after it. -/
def read? : List Char → Option (Placeholder × List Char)
  | '\\' :: '$' :: 'R' :: s =>
    (readName? s).map fun (name, written, rest) => (⟨true, name, '$' :: 'R' :: written⟩, rest)
  | '$' :: 'R' :: s =>
    (readName? s).map fun (name, written, rest) => (⟨false, name, '$' :: 'R' :: written⟩, rest)
  | _ => none

theorem length_readName? {s name written rest : List Char}
    (h : readName? s = some (name, written, rest)) : rest.length ≤ s.length := by
  unfold readName? at h
  split at h
  · rename_i s
    split at h
    · rename_i tail htail
      dsimp only at h
      split at h
      · simp at h
      · obtain ⟨rfl, rfl, rfl⟩ : s.takeWhile isWord = name ∧ _ = written ∧ tail = rest := by
          simpa using h
        have : (s.dropWhile isWord).length ≤ s.length := (List.dropWhile_sublist _).length_le
        simp [htail] at this
        simp only [List.length_cons]
        omega
    · simp at h
  · dsimp only at h
    split at h
    · simp at h
    · obtain ⟨rfl, rfl, rfl⟩ : _ = name ∧ _ = written ∧ _ = rest := by simpa using h
      exact (List.dropWhile_sublist _).length_le

theorem length_read? {s : List Char} {p : Placeholder} {rest : List Char}
    (h : read? s = some (p, rest)) : rest.length < s.length := by
  unfold read? at h
  split at h
  · obtain ⟨⟨name, written, r⟩, hr, heq⟩ := Option.map_eq_some_iff.1 h
    obtain ⟨rfl, rfl⟩ : _ = p ∧ r = rest := by simpa using heq
    have := length_readName? hr
    simp only [List.length_cons]
    omega
  · obtain ⟨⟨name, written, r⟩, hr, heq⟩ := Option.map_eq_some_iff.1 h
    obtain ⟨rfl, rfl⟩ : _ = p ∧ r = rest := by simpa using heq
    have := length_readName? hr
    simp only [List.length_cons]
    omega
  · simp at h

end Placeholder

namespace Registers

/-- What a placeholder becomes: an escaped one and one of an unknown name stay as written. -/
def expand (registers : Registers) (p : Placeholder) : List Char :=
  if p.escaped then p.written
  else match registers.get? (String.ofList p.name) with
    | some value => value.toList
    | none => p.written

/-- Replaces the placeholders of a text from left to right; what is put in is not read again. -/
def substituteChars (registers : Registers) (s : List Char) : List Char :=
  match _h : Placeholder.read? s with
  | some (p, rest) => registers.expand p ++ substituteChars registers rest
  | none => match s with
    | [] => []
    | c :: rest => c :: substituteChars registers rest
termination_by s.length
decreasing_by
  · exact Placeholder.length_read? _h
  · simp

/-- Replaces the placeholders of a text. -/
def substitute (registers : Registers) (s : String) : String :=
  String.ofList (registers.substituteChars s.toList)

/-- Replaces the placeholders in the text of an argument. -/
def substituteArgument (registers : Registers) : Argument → Argument
  | .text s => .text (registers.substitute s)
  | .toggle s option => .toggle (registers.substitute s) option
  | other => other

/-- Replaces the placeholders in every argument that has text. -/
def substituteArguments (registers : Registers) (args : List Argument) : List Argument :=
  args.map registers.substituteArgument

end Registers
end Kitchen
