import Kitchen.Text.Search

/-!
# Paths

Paths are names with slashes between them. An empty name and the name of the current directory do
not lead anywhere; at the end of a path they are passed over.
-/

namespace Kitchen.Path

open Text

/-- The name of the current directory. -/
def current : String := "."

/-- The name of the directory above. -/
def above : String := ".."

/-- The names between the slashes. A path from the root starts with an empty name. -/
def names (path : String) : List String := (splitAt (· == '/') path.toList).map String.ofList

/-- A name that does not lead anywhere. -/
def isIdle (name : String) : Bool := name.isEmpty || name == current

/-- Names from the last to the first, without idle names at the end; the first name stays. -/
def dropIdle : List String → List String
  | [] => []
  | [first] => [first]
  | name :: rest => if isIdle name then dropIdle rest else name :: rest

/-- The names of a path from the last to the first, without idle names at the end. -/
def climb (path : String) : List String := dropIdle (names path).reverse

/-- The path of names from the last to the first. -/
def ofClimb : List String → String
  | [""] => "/"
  | climbed => "/".intercalate climbed.reverse

/-- The path to the directory of a path. The root has none, and neither has the empty path. -/
def parent? (path : String) : Option String :=
  match climb path with
  | [] => none
  | [""] => none
  | _ :: rest => some (ofClimb (dropIdle rest))

/-- The last name of a path, if it names something inside a directory. -/
def fileName? (path : String) : Option String :=
  match climb path with
  | name :: _ => if isIdle name || name == above then none else some name
  | [] => none

/-- A name up to its last dot. A dot in front belongs to the name. -/
def stem (name : String) : String :=
  let before := ((name.toList.reverse.dropWhile (· != '.')).drop 1).reverse
  if before.isEmpty || name == above then name else String.ofList before

/-- The path to a name in a directory. A path from the root leads there from anywhere. -/
def join (directory name : String) : String :=
  if directory.isEmpty || name.toList.head? == some '/' then name
  else if directory.toList.getLast? == some '/' then directory ++ name
  else directory ++ "/" ++ name

/-- The path leads to the current directory by its name alone. -/
def isCurrent (path : String) : Bool := climb path == [current]

end Kitchen.Path
