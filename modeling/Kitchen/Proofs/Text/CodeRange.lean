import Kitchen.Text.Blank
import Kitchen.Text.DecimalDigit
import Kitchen.Text.WordCharacter

/-!
# Classes within classes

A character class lies in another one if each of its ranges lies in a range of the other, and apart
from it if each of its ranges ends before or starts behind those of the other. The decimal digits lie
in the word characters, and the blanks lie apart from them.
-/

namespace Kitchen.Text

namespace CodeRanges

/-- A range of code points lies in the first range that does not end before it. -/
def covers : CodeRanges → Nat × Nat → Bool
  | [], _ => false
  | (lo, hi) :: rest, range =>
    if range.1 ≤ hi then decide (lo ≤ range.1) && decide (range.2 ≤ hi) else covers rest range

theorem contains_of_covers {ranges : CodeRanges} {range : Nat × Nat} {n : Nat}
    (h : ranges.covers range = true) (hlo : range.1 ≤ n) (hhi : n ≤ range.2) :
    ranges.contains n = true := by
  induction ranges with
  | nil => simp [covers] at h
  | cons first rest ih =>
    obtain ⟨lo, hi⟩ := first
    rw [covers] at h
    split at h
    · have hin : lo ≤ range.1 ∧ range.2 ≤ hi := by simpa using h
      rw [contains, if_pos (by omega), decide_eq_true_eq]
      omega
    · rw [contains, if_neg (by omega)]
      exact ih h

theorem exists_range_of_contains {ranges : CodeRanges} {n : Nat} (h : ranges.contains n = true) :
    ∃ range ∈ ranges, range.1 ≤ n ∧ n ≤ range.2 := by
  induction ranges with
  | nil => simp [contains] at h
  | cons first rest ih =>
    obtain ⟨lo, hi⟩ := first
    rw [contains] at h
    split at h
    · rename_i hle
      exact ⟨(lo, hi), List.mem_cons_self, by simpa using h, hle⟩
    · obtain ⟨range, hmem, hrange⟩ := ih h
      exact ⟨range, List.mem_cons_of_mem _ hmem, hrange⟩

/-- No range of a class meets one of another class. -/
def apart (a b : CodeRanges) : Bool :=
  a.all fun range => b.all fun other =>
    decide (range.2 < other.1) || decide (other.2 < range.1)

theorem contains_of_apart {a b : CodeRanges} {n : Nat} (h : apart a b = true)
    (ha : a.contains n = true) : b.contains n = false := by
  rw [← Bool.not_eq_true]
  intro hb
  obtain ⟨range, hmem, hlo, hhi⟩ := exists_range_of_contains ha
  obtain ⟨other, hother, hlo', hhi'⟩ := exists_range_of_contains hb
  have hapart : range.2 < other.1 ∨ other.2 < range.1 := by
    simpa using List.all_eq_true.mp (List.all_eq_true.mp h range hmem) other hother
  omega

end CodeRanges

theorem isWord_of_isDecimalDigit {c : Char} (h : isDecimalDigit c = true) : isWord c = true := by
  have hall : decimalDigitRanges.all (CodeRanges.covers wordRanges) = true := by decide +kernel
  obtain ⟨range, hmem, hlo, hhi⟩ := CodeRanges.exists_range_of_contains h
  exact CodeRanges.contains_of_covers (List.all_eq_true.mp hall range hmem) hlo hhi

theorem isWord_of_isBlank {c : Char} (h : isBlank c = true) : isWord c = false :=
  CodeRanges.contains_of_apart (by decide +kernel : CodeRanges.apart blankRanges wordRanges = true) h

end Kitchen.Text
