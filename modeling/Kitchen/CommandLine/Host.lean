import Kitchen.CommandLine.Glob

/-!
# Hosts

What commands need of the system around them: files, directories, an input and an output. Every
request says whether it was met. Which files a pattern stands for is found by requests alone.
-/

namespace Kitchen

inductive FileKind where
  | file
  | directory
  deriving DecidableEq, Repr, Inhabited

/-- The system around a command. -/
structure Host (m : Type → Type) where
  /-- The content of a file. -/
  readFile : String → m (Option (List UInt8))
  /-- Replaces the content of a file, which may be new. -/
  writeFile : String → List UInt8 → m Bool
  /-- Makes a directory and those around it, unless they are there. -/
  makeDirectory : String → m Bool
  /-- What stands at a path, if anything. -/
  kindAt : String → m (Option FileKind)
  /-- The names in a directory, in any order. -/
  list : String → m (List String)
  /-- Everything that the input holds. -/
  input : m (List UInt8)
  output : List UInt8 → m Unit
  /-- A note for the reader of the log. -/
  note : String → m Unit

namespace Host

variable {m : Type → Type} [Monad m]

/-- A directory stands at a path. -/
def isDirectory (host : Host m) (path : String) : m Bool := do
  return (← host.kindAt path) == some .directory

/-- A file stands at a path. -/
def isFile (host : Host m) (path : String) : m Bool := do
  return (← host.kindAt path) == some .file

/-! ## Search -/

/-- A path that a search has reached, with the patterns of the names that are still to come. The
last name of the path is to be compared with the first of them; if there are none, the path is
found. -/
structure Reached where
  path : String
  names : List (List GlobPart)
  deriving Repr, Inhabited

/-- The path to a name in a directory. Names in the current directory stand alone. -/
def below (directory name : String) : String :=
  if Path.isCurrent directory then name else Path.join directory name

def sorted (names : List String) : List String := names.mergeSort fun a b => !decide (b < a)

/-- The names of the current directory and of the one above, as far as a pattern asks for them. It
does only if it starts with a dot. The one above comes first. -/
def dotNames (name : List GlobPart) : List String :=
  match name with
  | .char '.' :: _ => [Path.above, Path.current].filter fun dots => GlobPart.admits name dots.toList
  | _ => []

/-- The paths that a search reaches from a path by the first of some names. A name that stands for
itself is looked for without listing a directory. -/
def descend (host : Host m) : List (List GlobPart) → String → m (List Reached)
  | [], _ => return []
  | name :: rest, path => do
    let inside ← host.isDirectory path
    let goOn (next : String) : m (List Reached) :=
      if rest.isEmpty then return [⟨next, []⟩] else host.descend rest next
    match GlobPart.literal? name with
    | some literal =>
      let literal := String.ofList literal
      let next := below path literal
      let isDots := literal == Path.current || literal == Path.above
      let isThere ← if isDots then pure inside else Option.isSome <$> host.kindAt next
      if isThere then goOn next else return []
    | none =>
      if !inside then return []
      else
        let children := (sorted (← host.list path)).map fun child =>
          Reached.mk (below path child) (name :: rest)
        let dots ← (dotNames name).mapM fun dots => goOn (Path.join path dots)
        return dots.flatten ++ children

/-- The patterns from the last of the recursive ones in front. -/
def lastRecursive : List (List GlobPart) → List (List GlobPart)
  | name :: next :: rest =>
    if Glob.isRecursive next then lastRecursive (next :: rest) else name :: next :: rest
  | names => names

/-- What a search does at a path: whether the path is found, and where to go on. -/
def visit (host : Host m) (reached : Reached) : m (Bool × List Reached) := do
  let ⟨path, names⟩ := reached
  let byName (names : List (List GlobPart)) : m (Bool × List Reached) :=
    match names, Path.fileName? path with
    | name :: rest, some fileName =>
      if !GlobPart.admits name fileName.toList then return (false, [])
      else if rest.isEmpty then return (true, [])
      else return (false, ← host.descend rest path)
    | _, _ => return (false, [])
  match lastRecursive names with
  | [] => return (true, [])
  | name :: rest =>
    if !Glob.isRecursive name then byName names
    else
      let inside ← host.isDirectory path
      let children ← if inside then host.descend (name :: rest) path else pure []
      if rest.isEmpty then return (inside, children)
      else
        let (found, more) ← byName rest
        return (found, more ++ children)

/-- The paths of files that a search finds, in its order. It gives up after a number of visits. -/
def search (host : Host m) (glob : Glob) : Nat → List Reached → m (Option (List String))
  | 0, _ => return none
  | _ + 1, [] => return some []
  | fuel + 1, reached :: rest => do
    let (found, more) ← host.visit reached
    let isMeant ← if found && !glob.onlyDirectories then host.isFile reached.path else pure false
    let paths ← host.search glob fuel (more ++ rest)
    return paths.map fun paths => if isMeant then reached.path :: paths else paths

/-- The files that a pattern stands for. -/
def filesOf (host : Host m) (fuel : Nat) (glob : Glob) : m (Option (List String)) := do
  host.search glob fuel (← host.descend glob.names glob.start)

end Host
end Kitchen
