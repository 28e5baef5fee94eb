/-!
# Literal search

Finding and splitting on a literal text, under a choice of when two characters count as the same.
Occurrences are taken from the left and do not overlap.
-/

namespace Kitchen.Text

variable {α : Type}

/-- The rest of a list after a pattern that it begins with. -/
def afterPattern? (same : α → α → Bool) : List α → List α → Option (List α)
  | [], s => some s
  | _ :: _, [] => none
  | p :: ps, c :: s => if same p c then afterPattern? same ps s else none

/-- The list before the first occurrence of a pattern, the occurrence, and the list after it. -/
def cut? (same : α → α → Bool) (pattern : List α) : List α → Option (List α × List α)
  | [] => (afterPattern? same pattern []).map ([], ·)
  | c :: s =>
    match afterPattern? same pattern (c :: s) with
    | some rest => some ([], rest)
    | none => (cut? same pattern s).map fun (before, after) => (c :: before, after)

theorem length_afterPattern? {same : α → α → Bool} {pattern s rest : List α}
    (h : afterPattern? same pattern s = some rest) : rest.length + pattern.length = s.length := by
  fun_induction afterPattern? same pattern s with
  | case1 => simp_all
  | case2 => simp at h
  | case3 p ps c s _ ih => have := ih h; simp; omega
  | case4 => simp at h

theorem length_cut? {same : α → α → Bool} {pattern s before after : List α}
    (h : cut? same pattern s = some (before, after)) :
    before.length + pattern.length + after.length = s.length := by
  induction s generalizing before with
  | nil =>
    simp only [cut?, Option.map_eq_some_iff, Prod.mk.injEq] at h
    obtain ⟨rest, hr, rfl, rfl⟩ := h
    simpa [Nat.add_comm] using length_afterPattern? hr
  | cons c s ih =>
    rw [cut?] at h
    split at h
    · rename_i rest hr
      obtain ⟨rfl, rfl⟩ : [] = before ∧ rest = after := by simpa using h
      have := length_afterPattern? hr
      simp at this ⊢
      omega
    · simp only [Option.map_eq_some_iff, Prod.mk.injEq] at h
      obtain ⟨⟨b, a⟩, hr, rfl, rfl⟩ := h
      have := ih hr
      dsimp only [List.length_cons] at this ⊢
      omega

/-- The pieces of a list between the occurrences of a pattern; an empty pattern splits nothing. -/
def splitOn (same : α → α → Bool) (pattern s : List α) : List (List α) :=
  if _hp : pattern = [] then [s]
  else match _h : cut? same pattern s with
    | none => [s]
    | some (before, after) => before :: splitOn same pattern after
termination_by s.length
decreasing_by
  have := length_cut? _h
  have := List.length_pos_iff.2 _hp
  omega

/-- The pieces joined with a separator between them. -/
def joinWith (separator : List α) : List (List α) → List α
  | [] => []
  | [piece] => piece
  | piece :: rest => piece ++ separator ++ joinWith separator rest

/-- The pieces of a list between the elements that pass a test. -/
def splitAt (test : α → Bool) : List α → List (List α)
  | [] => [[]]
  | c :: s =>
    if test c then [] :: splitAt test s
    else match splitAt test s with
      | [] => [[c]]
      | piece :: rest => (c :: piece) :: rest

end Kitchen.Text
