import Kitchen.Text.CaseTable
import Kitchen.Text.CodeRange

/-!
# Character sets

Sets of characters as ordered code point ranges that neither overlap nor touch, and the operations
that bracketed classes are made of.
-/

namespace Kitchen.Regex

open Text

abbrev CharSet := CodeRanges

namespace CharSet

def lastCode : Nat := 0x10FFFF

/-- Joins a range with the ranges after it, in the order of their starts, where they overlap or
touch. -/
def joinOnto (lo hi : Nat) : List (Nat × Nat) → CharSet
  | [] => [(lo, hi)]
  | (next, last) :: rest =>
    if next ≤ hi + 1 then joinOnto lo (max hi last) rest else (lo, hi) :: joinOnto next last rest

/-- Joins ranges in the order of their starts where they overlap or touch. -/
def joinOrdered : List (Nat × Nat) → CharSet
  | [] => []
  | (lo, hi) :: rest => joinOnto lo hi rest

def ofRanges (ranges : List (Nat × Nat)) : CharSet :=
  joinOrdered (ranges.mergeSort fun a b => decide (a.1 ≤ b.1))

/-- The set of a single character. -/
def single (c : Char) : CharSet := [(c.toNat, c.toNat)]

def union (a b : CharSet) : CharSet := ofRanges (a ++ b)

/-- The code points from `start` on that lie in no range. -/
def gaps (start : Nat) : CharSet → CharSet
  | [] => if start ≤ lastCode then [(start, lastCode)] else []
  | (lo, hi) :: rest =>
    if start < lo then (start, lo - 1) :: gaps (hi + 1) rest else gaps (hi + 1) rest

def complement (a : CharSet) : CharSet := gaps 0 a

/-- The characters in both sets. -/
def inter (a b : CharSet) : CharSet := (a.complement.union b.complement).complement

/-- The characters in the first set alone. -/
def difference (a b : CharSet) : CharSet := a.inter b.complement

/-- The characters in exactly one of two sets. -/
def symmetricDifference (a b : CharSet) : CharSet := (a.union b).difference (a.inter b)

/-- The images of the members of a range under a run of case pairs. -/
def runImages (run : CaseRun) (lo hi : Nat) : List (Nat × Nat) :=
  let (first, last, step, _) := run
  let low := max lo first
  let high := min hi last
  if high < low then []
  else if step = 1 then [(run.image low, run.image high)]
  else (List.range' low (high + 1 - low)).filterMap fun n =>
    if run.covers n then some (run.image n, run.image n) else none

/-- The set with all characters that differ from a member by case alone. -/
def folded (a : CharSet) : CharSet :=
  ofRanges (a ++ foldRuns.flatMap fun run => a.flatMap fun (lo, hi) => runImages run lo hi)

/-- The ASCII letters that differ from a member by case alone, and the set itself. -/
def asciiFolded (a : CharSet) : CharSet :=
  let lower := a.inter [('a'.toNat, 'z'.toNat)]
  let upper := a.inter [('A'.toNat, 'Z'.toNat)]
  ofRanges (a ++ lower.map (fun (lo, hi) => (lo - 32, hi - 32)) ++
    upper.map fun (lo, hi) => (lo + 32, hi + 32))

/-- A set of ASCII characters only. -/
def isAscii (a : CharSet) : Bool := a.all fun range => decide (range.2 < 0x80)

end CharSet
end Kitchen.Regex
