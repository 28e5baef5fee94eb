/-!
# Code point ranges

A character class is a list of inclusive code point ranges in increasing order. Membership walks the
list and stops at the first range that ends at or after the code point.
-/

namespace Kitchen.Text

/-- Inclusive ranges of code points, in increasing order and apart from each other. -/
abbrev CodeRanges := List (Nat × Nat)

namespace CodeRanges

/-- Membership of a code point; the walk ends at the first range that does not lie below it. -/
def contains : CodeRanges → Nat → Bool
  | [], _ => false
  | (lo, hi) :: rest, n => if n ≤ hi then decide (lo ≤ n) else contains rest n

/-- Membership of a character, by its code point. -/
def has (ranges : CodeRanges) (c : Char) : Bool := ranges.contains c.toNat

end CodeRanges
end Kitchen.Text
