import Kitchen.CommandLine.Host

/-!
# Disks in memory

A system around a command that is a value: a tree of files and directories, the input, and what has
been written and noted so far. There is nothing outside the directory at its root.
-/

namespace Kitchen

/-- Files and directories by the names on the way to them from the root, which is always there. -/
structure Disk where
  files : List (List String × List UInt8)
  directories : List (List String)
  deriving DecidableEq, Repr, Inhabited

namespace Disk

def empty : Disk := ⟨[], []⟩

def kindAt (disk : Disk) (place : List String) : Option FileKind :=
  if place.isEmpty || disk.directories.contains place then some .directory
  else if (disk.files.lookup place).isSome then some .file
  else none

/-- A directory stands at a place. -/
def hasDirectory (disk : Disk) (place : List String) : Bool := disk.kindAt place == some .directory

/-- Follows names from a place. Nothing need stand at the last one, but on the way there must be
directories. -/
def follow (disk : Disk) : List String → List String → Option (List String)
  | place, [] => some place
  | place, name :: rest =>
    if !disk.hasDirectory place then none
    else if Path.isIdle name then disk.follow place rest
    else if name = Path.above then
      if place.isEmpty then none else disk.follow place.dropLast rest
    else disk.follow (place ++ [name]) rest

/-- The place that a path leads to. No place has an empty path or one from the root of the
system. -/
def place? (disk : Disk) (path : String) : Option (List String) :=
  if path.isEmpty || path.toList.head? == some '/' then none else disk.follow [] (Path.names path)

/-- The content of the file at a path. -/
def read? (disk : Disk) (path : String) : Option (List UInt8) :=
  (disk.place? path).bind fun place => disk.files.lookup place

def put (disk : Disk) (place : List String) (content : List UInt8) : Disk :=
  { disk with files := (place, content) :: disk.files.filter fun file => file.1 != place }

/-- The disk with a file at a path, unless a directory stands there or none is around it. -/
def write? (disk : Disk) (path : String) (content : List UInt8) : Option Disk :=
  match disk.place? path with
  | some place =>
    if disk.hasDirectory place || !disk.hasDirectory place.dropLast then none
    else some (disk.put place content)
  | none => none

/-- Makes the directories on the way from a place, unless they are there. -/
def makeFrom (disk : Disk) : List String → List String → Option Disk
  | _, [] => some disk
  | place, name :: rest =>
    if Path.isIdle name then disk.makeFrom place rest
    else if name = Path.above then
      if place.isEmpty then none else disk.makeFrom place.dropLast rest
    else
      let next := place ++ [name]
      match disk.kindAt next with
      | some .directory => disk.makeFrom next rest
      | some .file => none
      | none => makeFrom { disk with directories := next :: disk.directories } next rest

/-- The disk with a directory at a path. -/
def makeDirectory? (disk : Disk) (path : String) : Option Disk :=
  if path.toList.head? == some '/' then none else disk.makeFrom [] (Path.names path)

/-- The name of something that stands in a directory. -/
def nameIn? (directory place : List String) : Option String :=
  if place.isEmpty || place.dropLast != directory then none else place.getLast?

/-- The names in the directory at a path. -/
def list (disk : Disk) (path : String) : List String :=
  match disk.place? path with
  | some directory =>
    (disk.files.map Prod.fst ++ disk.directories).filterMap (nameIn? directory)
  | none => []

/-- The disk with a file and the directories on the way to it. -/
def add (disk : Disk) (path : String) (content : List UInt8) : Disk :=
  let made := ((Path.parent? path).bind disk.makeDirectory?).getD disk
  (made.write? path content).getD made

/-- The disk of files by their paths. -/
def ofFiles (files : List (String × List UInt8)) : Disk :=
  files.foldl (fun disk (path, content) => disk.add path content) empty

end Disk

/-- A disk with an input and what has been written and noted so far, the newest note first. -/
structure Terminal where
  disk : Disk
  input : List UInt8
  output : List UInt8
  notes : List String
  deriving DecidableEq, Repr, Inhabited

namespace Terminal

/-- A terminal where nothing has been written. -/
def start (disk : Disk) (input : List UInt8) : Terminal := ⟨disk, input, [], []⟩

/-- Takes a changed disk, if there is one, and says so. -/
def change (changed : Disk → Option Disk) : StateM Terminal Bool := do
  let terminal ← get
  match changed terminal.disk with
  | some disk =>
    set { terminal with disk }
    return true
  | none => return false

def host : Host (StateM Terminal) where
  readFile path := do return (← get).disk.read? path
  writeFile path content := change fun disk => disk.write? path content
  makeDirectory path := change fun disk => disk.makeDirectory? path
  kindAt path := do
    let disk := (← get).disk
    return (disk.place? path).bind disk.kindAt
  list path := do return (← get).disk.list path
  input := do return (← get).input
  output bytes := modify fun terminal => { terminal with output := terminal.output ++ bytes }
  note line := modify fun terminal => { terminal with notes := line :: terminal.notes }

end Terminal
end Kitchen
