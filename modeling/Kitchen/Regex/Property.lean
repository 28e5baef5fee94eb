import Kitchen.Regex.CharSet
import Kitchen.Regex.PropertyTable
import Kitchen.Text.Blank
import Kitchen.Text.Category
import Kitchen.Text.DecimalDigit
import Kitchen.Text.WordCharacter

/-!
# Named character classes

The classes that patterns name: the bracketed ASCII classes, and Unicode properties by name and
value. Names of properties and values are read without regard to case, blanks, hyphens and
underscores.
-/

namespace Kitchen.Regex

open Text

namespace CharSet

def asciiDigit : CharSet := [(0x30, 0x39)]

def asciiBlank : CharSet := [(0x09, 0x0D), (0x20, 0x20)]

/-- ASCII letters, digits and the underscore. -/
def asciiWord : CharSet := [(0x30, 0x39), (0x41, 0x5A), (0x5F, 0x5F), (0x61, 0x7A)]

/-- The ASCII class of a name. -/
def ofAsciiName? (name : String) : Option CharSet :=
  match name with
  | "alnum" => some [(0x30, 0x39), (0x41, 0x5A), (0x61, 0x7A)]
  | "alpha" => some [(0x41, 0x5A), (0x61, 0x7A)]
  | "ascii" => some [(0x00, 0x7F)]
  | "blank" => some [(0x09, 0x09), (0x20, 0x20)]
  | "cntrl" => some [(0x00, 0x1F), (0x7F, 0x7F)]
  | "digit" => some asciiDigit
  | "graph" => some [(0x21, 0x7E)]
  | "lower" => some [(0x61, 0x7A)]
  | "print" => some [(0x20, 0x7E)]
  | "punct" => some [(0x21, 0x2F), (0x3A, 0x40), (0x5B, 0x60), (0x7B, 0x7E)]
  | "space" => some asciiBlank
  | "upper" => some [(0x41, 0x5A)]
  | "word" => some asciiWord
  | "xdigit" => some [(0x30, 0x39), (0x41, 0x46), (0x61, 0x66)]
  | _ => none

end CharSet

/-! ## Packed tables -/

/-- Reads a line of numbers: a digit extends the number that is open, and a blank closes it. The
newest number comes first. -/
private def readNumbers (acc : List Nat × Option Nat) (c : Char) : List Nat × Option Nat :=
  if isAsciiDigit c then (acc.1, some (acc.2.getD 0 * 10 + digitValue c))
  else (acc.2.toList ++ acc.1, none)

/-- The numbers of a line, which blanks separate. -/
private def lineNumbers (line : String) : List Nat :=
  let (closed, last) := line.toList.foldl readNumbers ([], none)
  (last.toList ++ closed).reverse

/-- Ranges from distances and lengths, the first after `last`. -/
private def rangesAfter : Nat → List Nat → CharSet
  | last, gap :: length :: rest => (last + gap, last + gap + length) ::
      rangesAfter (last + gap + length) rest
  | _, _ => []

private def unpackRanges (lines : List String) : CharSet :=
  rangesAfter 0 (lines.flatMap lineNumbers)

/-- Reads a packed script: an upper-case letter opens an entry, other letters extend its code,
digits give its length. The newest entry comes first. -/
private def readScript (acc : List (List Char × Nat)) (c : Char) : List (List Char × Nat) :=
  if c.isUpper then ([c], 0) :: acc
  else match acc with
    | [] => []
    | (code, n) :: rest =>
      if isAsciiDigit c then (code, n * 10 + digitValue c) :: rest else (c :: code, n) :: rest

private def scriptRuns : Nat → List (List Char × Nat) → List (Nat × Nat × String)
  | _, [] => []
  | start, (code, n) :: rest =>
    (start, start + n - 1, String.ofList code.reverse) :: scriptRuns (start + n) rest

/-- The characters of a script by its code. -/
def scriptSet (code : String) : CharSet :=
  let entries := packedScripts.foldl (fun acc line => line.toList.foldl readScript acc) []
  (scriptRuns 0 entries.reverse).filterMap fun (lo, hi, k) =>
    if k == code then some (lo, hi) else none

/-- The characters that a script uses. The two codes that stand for no script of their own leave out
what other scripts use. -/
def scriptExtensionSet (code : String) : CharSet :=
  let own := scriptSet code
  let used := unpackRanges ((packedExtensions.lookup code).getD [])
  if code == "Zyyy" || code == "Zinh" then
    let shared := CharSet.ofRanges (packedExtensions.flatMap fun (_, lines) => unpackRanges lines)
    (CharSet.difference own shared).union used
  else CharSet.union own used

/-! ## Names -/

/-- A name without case, blanks, hyphens and underscores, and without the word "is" in front. -/
def normalizeName (name : List Char) : String :=
  let body := match name with
    | a :: b :: rest => if a.toLower = 'i' ∧ b.toLower = 's' then rest else name
    | _ => name
  let kept := body.filter fun c => c.toNat < 0x80 && !(c == ' ' || c == '_' || c == '-')
  let word := String.ofList (kept.map Char.toLower)
  if word == "c" && body.length < name.length then "isc" else word

/-- The names of general categories and their members. -/
def categoryNames : List (List String × List Category) :=
  let cased : List Category := [.uppercaseLetter, .lowercaseLetter, .titlecaseLetter]
  let marks : List Category := [.nonspacingMark, .spacingMark, .enclosingMark]
  let numbers : List Category := [.decimalNumber, .letterNumber, .otherNumber]
  let punctuation : List Category := [.connectorPunctuation, .dashPunctuation, .openPunctuation,
    .closePunctuation, .initialPunctuation, .finalPunctuation, .otherPunctuation]
  let symbols : List Category := [.mathSymbol, .currencySymbol, .modifierSymbol, .otherSymbol]
  let separators : List Category := [.spaceSeparator, .lineSeparator, .paragraphSeparator]
  [(["c", "other"], [.control, .format, .surrogate, .privateUse, .unassigned]),
   (["cc", "control", "cntrl"], [.control]),
   (["cf", "format"], [.format]),
   (["cn", "unassigned"], [.unassigned]),
   (["co", "privateuse"], [.privateUse]),
   (["l", "letter"], cased ++ [.modifierLetter, .otherLetter]),
   (["lc", "casedletter"], cased),
   (["ll", "lowercaseletter"], [.lowercaseLetter]),
   (["lm", "modifierletter"], [.modifierLetter]),
   (["lo", "otherletter"], [.otherLetter]),
   (["lt", "titlecaseletter"], [.titlecaseLetter]),
   (["lu", "uppercaseletter"], [.uppercaseLetter]),
   (["m", "mark", "combiningmark"], marks),
   (["mc", "spacingmark"], [.spacingMark]),
   (["me", "enclosingmark"], [.enclosingMark]),
   (["mn", "nonspacingmark"], [.nonspacingMark]),
   (["n", "number"], numbers),
   (["nd", "decimalnumber", "digit"], [.decimalNumber]),
   (["nl", "letternumber"], [.letterNumber]),
   (["no", "othernumber"], [.otherNumber]),
   (["p", "punctuation", "punct"], punctuation),
   (["pc", "connectorpunctuation"], [.connectorPunctuation]),
   (["pd", "dashpunctuation"], [.dashPunctuation]),
   (["pe", "closepunctuation"], [.closePunctuation]),
   (["pf", "finalpunctuation"], [.finalPunctuation]),
   (["pi", "initialpunctuation"], [.initialPunctuation]),
   (["po", "otherpunctuation"], [.otherPunctuation]),
   (["ps", "openpunctuation"], [.openPunctuation]),
   (["s", "symbol"], symbols),
   (["sc", "currencysymbol"], [.currencySymbol]),
   (["sk", "modifiersymbol"], [.modifierSymbol]),
   (["sm", "mathsymbol"], [.mathSymbol]),
   (["so", "othersymbol"], [.otherSymbol]),
   (["z", "separator"], separators),
   (["zl", "lineseparator"], [.lineSeparator]),
   (["zp", "paragraphseparator"], [.paragraphSeparator]),
   (["zs", "spaceseparator"], [.spaceSeparator])]

/-- The value behind the first list that holds a name. -/
private def named? {α : Type} (table : List (List String × α)) (name : String) : Option α :=
  (table.find? fun entry => entry.1.contains name).map Prod.snd

/-- The general category of a name. -/
def categorySet? (name : String) : Option CharSet :=
  if name == "any" then some [(0, CharSet.lastCode)]
  else if name == "ascii" then some [(0, 0x7F)]
  else if name == "assigned" then some (CharSet.ofRanges (categoryRanges (· != .unassigned)))
  else (named? categoryNames name).map fun members =>
    CharSet.ofRanges (categoryRanges members.contains)

/-- The code of a script's name. -/
def scriptCode? (name : String) : Option String :=
  (scriptNames.find? fun entry => entry.2.contains name).map Prod.fst

/-- A property that holds or fails of a character, by name. The three names that are also names of
general categories are left to those. -/
def propertySet? (name : String) : Option CharSet :=
  if ["cf", "sc", "lc"].contains name then none
  else (named? packedProperties name).map unpackRanges

/-- The class of a property that is named alone: a property, a general category or a script. -/
def classOfName? (name : List Char) : Option CharSet :=
  let name := normalizeName name
  match propertySet? name with
  | some chars => some chars
  | none => match categorySet? name with
    | some chars => some chars
    | none => (scriptCode? name).map scriptSet

/-- The class of a property with a value. -/
def classOfValue? (name value : List Char) : Option CharSet :=
  let value := normalizeName value
  match normalizeName name with
  | "gc" => categorySet? value
  | "generalcategory" => categorySet? value
  | "sc" => (scriptCode? value).map scriptSet
  | "script" => (scriptCode? value).map scriptSet
  | "scx" => (scriptCode? value).map scriptExtensionSet
  | "scriptextensions" => (scriptCode? value).map scriptExtensionSet
  | _ => none

/-- A letter of any script. -/
def isAlphabetic (c : Char) : Bool :=
  match propertySet? "alphabetic" with
  | some chars => chars.has c
  | none => false

/-- A letter or a number of any script. -/
def isAlphanumeric (c : Char) : Bool :=
  isAlphabetic c || [Category.decimalNumber, .letterNumber, .otherNumber].contains (category c)

end Kitchen.Regex
