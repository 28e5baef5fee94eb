/-!
# Places in a document

The rest of a document with the line and column where it begins. Lines end at line feeds, carriage
returns, both in this order, and at three further characters.
-/

namespace Kitchen.Yaml

/-- A character that ends a line. -/
def isBreak (c : Char) : Bool :=
  c == '\n' || c == '\r' || c == '\x85' || c == '\u2028' || c == '\u2029'

def isBlank (c : Char) : Bool := c == ' ' || c == '\t'

/-- A blank, a line break or the end of the document. -/
def isBoundary (c : Option Char) : Bool := c.all fun c => isBlank c || isBreak c

/-- A line break or the end of the document. -/
def isLineEnd (c : Option Char) : Bool := c.all isBreak

/-- A letter, digit, underscore or hyphen. -/
def isNameChar (c : Char) : Bool := c.isAlphanum || c == '_' || c == '-'

/-- A place in a document. -/
structure Cursor where
  rest : List Char
  index : Nat
  line : Nat
  column : Nat
  deriving Repr, Inhabited

namespace Cursor

def start (text : List Char) : Cursor := ⟨text, 0, 0, 0⟩

def peek? (cursor : Cursor) : Option Char := cursor.rest.head?

def peekAt? (cursor : Cursor) (n : Nat) : Option Char := (cursor.rest.drop n).head?

/-- The place after some characters of the same line. -/
def skip (cursor : Cursor) (n : Nat) : Cursor :=
  ⟨cursor.rest.drop n, cursor.index + n, cursor.line, cursor.column + n⟩

/-- The place after the next character, which is no line break. -/
def next (cursor : Cursor) : Cursor := cursor.skip 1

/-- The place after a line break of some characters. -/
def newLine (cursor : Cursor) (n : Nat) : Cursor :=
  ⟨cursor.rest.drop n, cursor.index + n, cursor.line + 1, 0⟩

/-- Reads a line break. All breaks are read as line feeds but the line and paragraph separators,
which are kept. -/
def readBreak (cursor : Cursor) : List Char × Cursor :=
  match cursor.rest with
  | '\r' :: '\n' :: _ => (['\n'], cursor.newLine 2)
  | '\u2028' :: _ => (['\u2028'], cursor.newLine 1)
  | '\u2029' :: _ => (['\u2029'], cursor.newLine 1)
  | c :: _ => if isBreak c then (['\n'], cursor.newLine 1) else ([], cursor)
  | [] => ([], cursor)

/-- The place after a line break, if one comes next. -/
def skipBreak (cursor : Cursor) : Cursor := cursor.readBreak.2

/-- The next characters that pass a test, and the place after them. They hold no line break. -/
def takeWhile (cursor : Cursor) (test : Char → Bool) : List Char × Cursor :=
  let taken := cursor.rest.takeWhile test
  (taken, cursor.skip taken.length)

/-- The place after the next characters that pass a test. -/
def skipWhile (cursor : Cursor) (test : Char → Bool) : Cursor := (cursor.takeWhile test).2

/-- The place at the end of the line. -/
def skipToLineEnd (cursor : Cursor) : Cursor := cursor.skipWhile fun c => !isBreak c

/-- Three times the same character at the start of a line, and no more text behind it. -/
def atIndicator (cursor : Cursor) (c : Char) : Bool :=
  cursor.column == 0 && (cursor.rest.take 3 == [c, c, c]) && isBoundary (cursor.peekAt? 3)

def atDocumentIndicator (cursor : Cursor) : Bool := cursor.atIndicator '-' || cursor.atIndicator '.'

end Cursor
end Kitchen.Yaml
