import Kitchen.Regex.Program
import Kitchen.Text.WordCharacter
import Std.Data.HashSet.Basic

/-!
# Searching

Runs of a matching program over a text. Runs are tried in the order of preference, from the leftmost
start on. A run that comes to an instruction and a position where an earlier run has been is given
up: the earlier run failed from there, and so would this one. So every pair of instruction and
position is entered at most once.
-/

namespace Kitchen.Regex

open Text

namespace Look

/-- A word character where an assertion reads one; there is none beyond the ends of the text. -/
def isWordAt (unicode : Bool) (c : Option Char) : Bool :=
  c.any fun c => (if unicode then isWord c else c.isAlphanum || c == '_')

/-- An assertion holds between two characters of a text, of which the ends lack one. -/
def holds (look : Look) (before after : Option Char) : Bool :=
  match look with
  | textStart => before.isNone
  | textEnd => after.isNone
  | lineStart => before.all (· == '\n')
  | lineEnd => after.all (· == '\n')
  | returnLineStart => before.all fun c => c == '\n' || (c == '\r' && after != some '\n')
  | returnLineEnd => after.all fun c => c == '\r' || (c == '\n' && before != some '\r')
  | wordBoundary u => isWordAt u before != isWordAt u after
  | notWordBoundary u => isWordAt u before == isWordAt u after
  | wordStart u => !isWordAt u before && isWordAt u after
  | wordEnd u => isWordAt u before && !isWordAt u after
  | wordStartHalf u => !isWordAt u before
  | wordEndHalf u => !isWordAt u after

end Look

/-- A run of a program: the next instruction, the position in the text, and the positions that it
has saved, the newest first. -/
structure Run where
  pc : Nat
  position : Nat
  saved : List (Nat × Nat)
  deriving Repr, Inhabited

namespace Run

/-- The run at an offset from its instruction. -/
def goto (run : Run) (offset : Int) : Run := { run with pc := (run.pc + offset).toNat }

/-- The ways in which a run goes on, in the order of preference. -/
def next (program : Array Instruction) (text : Array Char) (run : Run) : List Run :=
  match program[run.pc]? with
  | none => []
  | some (.take chars) =>
    if (text[run.position]?).any chars.has then
      [{ run with pc := run.pc + 1, position := run.position + 1 }]
    else []
  | some (.look kind) =>
    let before := if run.position = 0 then none else text[run.position - 1]?
    if kind.holds before text[run.position]? then [run.goto 1] else []
  | some (.save slot) => [{ run.goto 1 with saved := (slot, run.position) :: run.saved }]
  | some (.fork first second) => [run.goto first, run.goto second]
  | some (.jump offset) => [run.goto offset]

/-- The first of several runs that matches, and the pairs of instruction and position that were
entered. `fuel` bounds the number of runs that are looked at. -/
def first? (program : Array Instruction) (text : Array Char) :
    Nat → List Run → Std.HashSet (Nat × Nat) → Option Run × Std.HashSet (Nat × Nat)
  | 0, _, entered => (none, entered)
  | _, [], entered => (none, entered)
  | fuel + 1, run :: rest, entered =>
    if run.pc = program.size then (some run, entered)
    else if entered.contains (run.pc, run.position) then first? program text fuel rest entered
    else
      first? program text fuel (run.next program text ++ rest)
        (entered.insert (run.pc, run.position))

/-- The run at the first instruction and a position, where its match starts. -/
def startAt (position : Nat) : Run := ⟨0, position, [(0, position)]⟩

/-- The first run that matches among those from `count` positions on, the leftmost preferred. -/
def firstFrom? (program : Array Instruction) (text : Array Char) (fuel : Nat) :
    Nat → Nat → Std.HashSet (Nat × Nat) → Option Run
  | 0, _, _ => none
  | count + 1, position, entered =>
    match first? program text fuel [startAt position] entered with
    | (some run, _) => some run
    | (none, entered) => firstFrom? program text fuel count (position + 1) entered

end Run

/-- The places that a match and its groups take, from their starts to before their ends. -/
structure Match where
  start : Nat
  stop : Nat
  groups : List (Option (Nat × Nat))
  deriving DecidableEq, Repr, Inhabited

/-- The match that a run has found. -/
def Run.toMatch (run : Run) (groupCount : Nat) : Match where
  start := (run.saved.lookup 0).getD 0
  stop := run.position
  groups := (List.range' 1 groupCount).map fun index =>
    match run.saved.lookup (2 * index), run.saved.lookup (2 * index + 1) with
    | some start, some stop => some (start, stop)
    | _, _ => none

/-- The leftmost match from a position on. Every pair of instruction and position gives at most two
further runs, which bounds the number of runs from each start. -/
def findFrom? (program : Array Instruction) (groupCount : Nat) (text : Array Char) (start : Nat) :
    Option Match :=
  let fuel := 2 * program.size * (text.size + 1) + 1
  (Run.firstFrom? program text fuel (text.size + 1 - start) start ∅).map (·.toMatch groupCount)

/-- All matches from a position on, from left to right and apart from each other: after a match the
search goes on at its end, where an empty match counts no more. -/
def findAllFrom (program : Array Instruction) (groupCount : Nat) (text : Array Char) :
    Nat → Nat → Option Nat → List Match
  | 0, _, _ => []
  | fuel + 1, start, lastStop =>
    match findFrom? program groupCount text start with
    | none => []
    | some found =>
      if found.start = found.stop && lastStop == some found.stop then
        findAllFrom program groupCount text fuel (start + 1) lastStop
      else found :: findAllFrom program groupCount text fuel found.stop (some found.stop)

end Kitchen.Regex
