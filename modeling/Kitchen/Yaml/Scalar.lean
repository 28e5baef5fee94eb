import Kitchen.Text.DecimalDigit
import Kitchen.Yaml.Cursor

/-!
# Scalars

Reading the text of a scalar from a document: plain, in quotes, or as a block. Lines of plain and
quoted scalars are folded: one line break becomes a space, of several breaks the first is dropped.
-/

namespace Kitchen.Yaml

open Text

/-- How a scalar is written. -/
inductive Style where
  | plain
  | singleQuoted
  | doubleQuoted
  | literal
  | folded
  deriving DecidableEq, Repr, Inhabited

/-- Blanks and line breaks between two words of a scalar. -/
structure Gap where
  blanks : List Char
  firstBreak : List Char
  moreBreaks : List Char
  /-- A line has ended, so that blanks are indentation. -/
  broken : Bool
  deriving Repr, Inhabited

namespace Gap

def empty : Gap := ⟨[], [], [], false⟩

/-- A line that ends by an escaped break. -/
def escapedBreak : Gap := ⟨[], [], [], true⟩

/-- What the gap stands for. -/
def text (gap : Gap) : List Char :=
  if gap.broken then
    if gap.firstBreak = ['\n'] then (if gap.moreBreaks.isEmpty then [' '] else gap.moreBreaks)
    else gap.firstBreak ++ gap.moreBreaks
  else gap.blanks

/-- Reads blanks and line breaks. Where lines have to be indented by some columns, a tab may not
stand in the indentation. -/
def read (indent : Option Nat) : Nat → Gap → Cursor → Option (Gap × Cursor)
  | 0, gap, cursor => some (gap, cursor)
  | fuel + 1, gap, cursor =>
    match cursor.peek? with
    | none => some (gap, cursor)
    | some c =>
      if isBlank c then
        if gap.broken then
          if c == '\t' && indent.any (cursor.column < ·) then none
          else read indent fuel gap cursor.next
        else read indent fuel { gap with blanks := gap.blanks ++ [c] } cursor.next
      else if isBreak c then
        let (br, after) := cursor.readBreak
        if gap.broken then
          read indent fuel { gap with moreBreaks := gap.moreBreaks ++ br } after
        else read indent fuel ⟨[], br, [], true⟩ after
      else some (gap, cursor)

end Gap

/-! ## Quoted scalars -/

/-- The character that a single letter behind a backslash stands for. -/
def escapedChar? : Char → Option Char
  | '0' => some '\x00'
  | 'a' => some '\x07'
  | 'b' => some '\x08'
  | 't' => some '\t'
  | '\t' => some '\t'
  | 'n' => some '\n'
  | 'v' => some '\x0b'
  | 'f' => some '\x0c'
  | 'r' => some '\r'
  | 'e' => some '\x1b'
  | ' ' => some ' '
  | '"' => some '"'
  | '/' => some '/'
  | '\\' => some '\\'
  | 'N' => some '\x85'
  | '_' => some '\xa0'
  | 'L' => some '\u2028'
  | 'P' => some '\u2029'
  | _ => none

/-- The number of hexadecimal digits that a letter behind a backslash asks for. -/
def escapeLength? : Char → Option Nat
  | 'x' => some 2
  | 'u' => some 4
  | 'U' => some 8
  | _ => none

/-- Reads an escape behind its backslash. -/
def readEscape (cursor : Cursor) : Option (Char × Cursor) :=
  match cursor.peek? with
  | none => none
  | some letter =>
    match escapedChar? letter, escapeLength? letter with
    | some c, _ => some (c, cursor.next)
    | none, none => none
    | none, some count =>
      let digits := (cursor.next.rest.take count).takeWhile isHexDigit
      let code := hexNumber digits
      if digits.length ≠ count then none
      else if h : code.isValidChar then some (Char.ofNatAux code h, cursor.skip (1 + count))
      else none

/-- Reads the characters of a quoted scalar up to a blank, a line break or the closing quote, and
says whether an escaped line break has ended them. -/
def readQuotedRun (quote : Char) : Nat → Cursor → Option (List Char × Bool × Cursor)
  | 0, _ => none
  | fuel + 1, cursor =>
    match cursor.rest with
    | [] => some ([], false, cursor)
    | c :: rest =>
      if isBlank c || isBreak c then some ([], false, cursor)
      else if quote = '\'' && c = '\'' && rest.head? = some '\'' then
        (readQuotedRun quote fuel (cursor.skip 2)).map fun (text, ended) => ('\'' :: text, ended)
      else if c = quote then some ([], false, cursor)
      else if quote = '"' && c = '\\' then
        if rest.head?.any isBreak then some ([], true, cursor.next.skipBreak)
        else match readEscape cursor.next with
          | none => none
          | some (c, after) =>
            (readQuotedRun quote fuel after).map fun (text, ended) => (c :: text, ended)
      else (readQuotedRun quote fuel cursor.next).map fun (text, ended) => (c :: text, ended)

/-- Reads a quoted scalar behind its opening quote. -/
def readQuoted (quote : Char) : Nat → Cursor → Option (List Char × Cursor)
  | 0, _ => none
  | fuel + 1, cursor =>
    if cursor.atDocumentIndicator || cursor.rest.isEmpty then none
    else match readQuotedRun quote (cursor.rest.length + 1) cursor with
      | none => none
      | some (run, brokenByEscape, cursor) =>
        if !brokenByEscape && cursor.peek? = some quote then some (run, cursor.next)
        else
          let gap := if brokenByEscape then Gap.escapedBreak else Gap.empty
          match gap.read none cursor.rest.length cursor with
          | none => none
          | some (gap, cursor) =>
            (readQuoted quote fuel cursor).map fun (text, cursor) =>
              (run ++ gap.text ++ text, cursor)

/-! ## Plain scalars -/

/-- Brackets and the comma, which structure flow collections. -/
def isFlowIndicator (c : Char) : Bool :=
  c == ',' || c == '[' || c == ']' || c == '{' || c == '}'

/-- Reads the characters of a plain scalar up to a blank, a line break or an indicator that ends
it. -/
def readPlainRun (inFlow : Bool) : Nat → Cursor → Option (List Char × Cursor)
  | 0, _ => none
  | fuel + 1, cursor =>
    match cursor.rest with
    | [] => some ([], cursor)
    | c :: rest =>
      if isBlank c || isBreak c then some ([], cursor)
      else if inFlow && c == ':' && rest.head?.any fun d => isFlowIndicator d || d == '?' then none
      else if c == ':' && isBoundary rest.head? then some ([], cursor)
      else if inFlow && isFlowIndicator c then some ([], cursor)
      else (readPlainRun inFlow fuel cursor.next).map fun (text, cursor) => (c :: text, cursor)

/-- Reads the rest of a plain scalar after a gap. Its lines are indented by some columns, unless
they stand in a flow collection. The last gap is passed but does not belong to it; whether it ends a
line is said. -/
def readPlain (inFlow : Bool) (indent : Nat) :
    Nat → Gap → Cursor → Option (List Char × Bool × Cursor)
  | 0, _, _ => none
  | fuel + 1, gap, cursor =>
    if cursor.atDocumentIndicator || cursor.peek? = some '#' then some ([], gap.broken, cursor)
    else match readPlainRun inFlow (cursor.rest.length + 1) cursor with
      | none => none
      | some (run, after) =>
        let text := if run.isEmpty then [] else gap.text ++ run
        let broken := run.isEmpty && gap.broken
        if !after.peek?.any fun c => isBlank c || isBreak c then some (text, broken, after)
        else
          let gap := if run.isEmpty then gap else Gap.empty
          match gap.read (some indent) after.rest.length after with
          | none => none
          | some (gap, after) =>
            if !inFlow && decide (after.column < indent) then some (text, gap.broken, after)
            else
              (readPlain inFlow indent fuel gap after).map fun (more, rest) => (text ++ more, rest)

/-! ## Block scalars -/

/-- What happens to the line breaks at the end of a block. -/
inductive Chomping where
  | strip
  | clip
  | keep
  deriving DecidableEq, Repr

/-- The chomping that a sign asks for. -/
def chomping? : Option Char → Option Chomping
  | some '+' => some .keep
  | some '-' => some .strip
  | _ => none

/-- The indentation that a digit asks for. -/
def indentation? (c : Option Char) : Option Nat := (c.filter isAsciiDigit).map digitValue

/-- Reads the chomping and the indentation of a block, in any order. An indentation of zero is
refused. -/
def readBlockHeader (cursor : Cursor) : Option (Chomping × Option Nat × Cursor) :=
  let (chomping, indent, after) :=
    match chomping? cursor.peek?, indentation? cursor.peek? with
    | some chomping, _ =>
      match indentation? cursor.next.peek? with
      | some n => (chomping, some n, cursor.skip 2)
      | none => (chomping, none, cursor.next)
    | none, some n =>
      match chomping? cursor.next.peek? with
      | some chomping => (chomping, some n, cursor.skip 2)
      | none => (.clip, some n, cursor.next)
    | none, none => (.clip, none, cursor)
  if indent = some 0 then none
  else
    let after := after.skipWhile isBlank
    let after := if after.peek? = some '#' then after.skipToLineEnd else after
    if isLineEnd after.peek? then some (chomping, indent, after.skipBreak) else none

/-- Reads the indentation of the next line of a block, and any empty lines before it. The greatest
column that a line starts at is found on the way. A tab may not stand in the indentation. -/
def readBlockBreaks (indent : Option Nat) : Nat → Nat → Cursor → Option (List Char × Nat × Cursor)
  | 0, _, _ => none
  | fuel + 1, greatest, cursor =>
    let spaces := (cursor.rest.takeWhile (· == ' ')).length
    let count := match indent with
      | some n => min spaces (n - cursor.column)
      | none => spaces
    let cursor := cursor.skip count
    let greatest := max greatest cursor.column
    if indent.all (cursor.column < ·) && cursor.peek? = some '\t' then none
    else if cursor.peek?.any isBreak then
      let (br, after) := cursor.readBreak
      (readBlockBreaks indent fuel greatest after).map fun (breaks, rest) => (br ++ breaks, rest)
    else some ([], greatest, cursor)

/-- Reads the lines of a block at its indentation. `ended` is the break of the line before, `empty`
the breaks of empty lines after it, and `blankBefore` says whether the line before started with a
blank. The breaks at the end are given apart. -/
def readBlockLines (literal : Bool) (indent : Nat) :
    Nat → List Char → List Char → Bool → Cursor →
      Option (List Char × (List Char × List Char) × Cursor)
  | 0, _, _, _, _ => none
  | fuel + 1, ended, empty, blankBefore, cursor =>
    if cursor.column = indent && !cursor.rest.isEmpty then
      let blankHere := cursor.peek?.any isBlank
      let joint :=
        if !literal && ended = ['\n'] && !blankBefore && !blankHere then
          (if empty.isEmpty then [' '] else empty)
        else ended ++ empty
      let (line, after) := cursor.takeWhile fun c => !isBreak c
      let (ended, after) := after.readBreak
      match readBlockBreaks (some indent) (after.rest.length + 1) 0 after with
      | none => none
      | some (empty, _, after) =>
        (readBlockLines literal indent fuel ended empty blankHere after).map
          fun (text, rest) => (joint ++ line ++ text, rest)
    else some ([], (ended, empty), cursor)

/-- Reads a block behind its indicator. `parent` is the indentation around it, if there is any. -/
def readBlock (literal : Bool) (parent : Option Nat) (cursor : Cursor) :
    Option (List Char × Cursor) := do
  let (chomping, given, cursor) ← readBlockHeader cursor
  let fixed := given.map (parent.getD 0 + ·)
  let (empty, greatest, cursor) ← readBlockBreaks fixed (cursor.rest.length + 1) 0 cursor
  let least := match parent with
    | some n => n + 1
    | none => 1
  let indent := fixed.getD (max greatest least)
  let (text, (ended, empty), cursor) ←
    readBlockLines literal indent (cursor.rest.length + 1) [] empty false cursor
  let tail := match chomping with
    | .strip => []
    | .clip => ended
    | .keep => ended ++ empty
  return (text ++ tail, cursor)

end Kitchen.Yaml
