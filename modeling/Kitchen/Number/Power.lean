/-!
# Powers

Powers of two and of ten on the natural numbers, by the arithmetic of these numbers alone. Limits on
sizes and the places of digits are written with them.
-/

namespace Kitchen

abbrev twoTo (n : Nat) : Nat := Nat.pow 2 n

abbrev tenTo (n : Nat) : Nat := Nat.pow 10 n

end Kitchen
