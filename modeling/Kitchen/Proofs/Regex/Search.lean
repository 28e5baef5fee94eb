import Kitchen.Regex.Search
import Mathlib.Data.Finset.Prod
import Mathlib.Logic.Relation
import Std.Data.HashSet.Lemmas

/-!
# What a search finds

A run finishes when it has come past the last instruction. A search gives up every run that comes to
an instruction and a position where a run has been, and looks at no more runs than its fuel allows.
It still finds a run that finishes from the leftmost start that has one: what can be reached from an
entered place is entered too or lies ahead of a run that is still to be looked at, and the fuel pays
for the two runs that every place gives at most.
-/

namespace Kitchen.Regex

namespace Run

variable {program : Array Instruction} {text : Array Char} {run a b : Run} {stack : List Run}
  {entered : Std.HashSet (Nat × Nat)} {fuel count start : Nat}

/-- The instruction and the position of a run, which decide how it goes on. -/
def place (run : Run) : Nat × Nat := (run.pc, run.position)

/-- A run comes to another one in some number of steps. -/
def Reaches (program : Array Instruction) (text : Array Char) : Run → Run → Prop :=
  Relation.ReflTransGen fun a b => b ∈ a.next program text

/-- A run comes past the last instruction, as another one. -/
structure Finishes (program : Array Instruction) (text : Array Char) (a run : Run) : Prop where
  reaches : Reaches program text a run
  pc_eq : run.pc = program.size

/-! ## One step -/

/-- The character right before a position. -/
def charBefore (text : Array Char) (position : Nat) : Option Char :=
  if position = 0 then none else text[position - 1]?

theorem next_take {chars : CharSet} (h : program[run.pc]? = some (.take chars)) :
    run.next program text =
      if (text[run.position]?).any chars.has then [⟨run.pc + 1, run.position + 1, run.saved⟩]
      else [] := by
  rw [next, h]

theorem next_look {kind : Look} (h : program[run.pc]? = some (.look kind)) :
    run.next program text =
      if kind.holds (charBefore text run.position) text[run.position]? then [run.goto 1] else [] := by
  rw [next, h]
  rfl

theorem next_save {slot : Nat} (h : program[run.pc]? = some (.save slot)) :
    run.next program text = [⟨run.pc + 1, run.position, (slot, run.position) :: run.saved⟩] := by
  rw [next, h]
  rfl

theorem next_fork {first second : Int} (h : program[run.pc]? = some (.fork first second)) :
    run.next program text = [run.goto first, run.goto second] := by
  rw [next, h]

theorem next_jump {offset : Int} (h : program[run.pc]? = some (.jump offset)) :
    run.next program text = [run.goto offset] := by
  rw [next, h]

theorem next_none (h : program[run.pc]? = none) : run.next program text = [] := by
  rw [next, h]

theorem length_next_le (program : Array Instruction) (text : Array Char) (run : Run) :
    (run.next program text).length ≤ 2 := by
  cases h : program[run.pc]? with
  | none => simp [next_none h]
  | some instruction =>
    cases instruction with
    | take chars =>
      rw [next_take h]
      split <;> simp
    | look kind =>
      rw [next_look h]
      split <;> simp
    | save slot => simp [next_save h]
    | fork first second => simp [next_fork h]
    | jump offset => simp [next_jump h]

/-- What a run has saved does not change where it goes. -/
theorem map_place_next (h : a.place = b.place) :
    (a.next program text).map place = (b.next program text).map place := by
  obtain ⟨pc, position, saved⟩ := a
  obtain ⟨pc', position', saved'⟩ := b
  obtain ⟨rfl, rfl⟩ : pc = pc' ∧ position = position' := by simpa [place] using h
  rw [next, next]
  cases program[pc]? with
  | none => rfl
  | some instruction =>
    cases instruction with
    | take chars =>
      dsimp only
      split <;> rfl
    | look kind =>
      dsimp only
      split <;> split <;> rfl
    | save slot => rfl
    | fork first second => rfl
    | jump offset => rfl

/-- Only taking a character moves on in the text, and there must be one. -/
theorem position_le_of_mem_next (ha : a.position ≤ text.size) (hb : b ∈ a.next program text) :
    b.position ≤ text.size := by
  cases h : program[a.pc]? with
  | none => simp [next_none h] at hb
  | some instruction =>
    cases instruction with
    | take chars =>
      rw [next_take h] at hb
      split at hb
      case isTrue htaken =>
        obtain ⟨c, hc, -⟩ := (Option.any_eq_true ..).mp htaken
        obtain ⟨hlt, -⟩ := Array.getElem?_eq_some_iff.mp hc
        rw [List.mem_singleton.mp hb]
        exact hlt
      case isFalse => exact absurd hb List.not_mem_nil
    | look kind =>
      rw [next_look h] at hb
      split at hb
      case isTrue =>
        rw [List.mem_singleton.mp hb]
        exact ha
      case isFalse => exact absurd hb List.not_mem_nil
    | save slot =>
      rw [next_save h] at hb
      rw [List.mem_singleton.mp hb]
      exact ha
    | fork first second =>
      rw [next_fork h] at hb
      rcases List.mem_pair.mp hb with rfl | rfl
      · exact ha
      · exact ha
    | jump offset =>
      rw [next_jump h] at hb
      rw [List.mem_singleton.mp hb]
      exact ha

/-! ## Runs that finish -/

theorem finishes_of_pc_eq (h : a.pc = program.size) : Finishes program text a run ↔ run = a := by
  constructor
  · rintro ⟨hreaches, -⟩
    rcases hreaches.cases_head with heq | ⟨b, hb, -⟩
    · exact heq.symm
    · rw [next_none (Array.getElem?_eq_none (Nat.le_of_eq h.symm))] at hb
      exact absurd hb List.not_mem_nil
  · rintro rfl
    exact ⟨.refl, h⟩

theorem finishes_iff_next {instruction : Instruction} (h : program[a.pc]? = some instruction) :
    Finishes program text a run ↔
      ∃ b ∈ a.next program text, Finishes program text b run := by
  obtain ⟨hlt, -⟩ := Array.getElem?_eq_some_iff.mp h
  constructor
  · rintro ⟨hreaches, hpc⟩
    rcases hreaches.cases_head with rfl | ⟨b, hb, hreaches⟩
    · exact absurd hpc (Nat.ne_of_lt hlt)
    · exact ⟨b, hb, hreaches, hpc⟩
  · rintro ⟨b, hb, hreaches, hpc⟩
    exact ⟨.head hb hreaches, hpc⟩

variable {pc position : Nat} {saved : List (Nat × Nat)}

theorem finishes_take {chars : CharSet} (h : program[pc]? = some (.take chars)) :
    Finishes program text ⟨pc, position, saved⟩ run ↔ (text[position]?).any chars.has = true ∧
      Finishes program text ⟨pc + 1, position + 1, saved⟩ run := by
  rw [finishes_iff_next h, next_take h]
  split <;> simp [*]

theorem finishes_look {kind : Look} (h : program[pc]? = some (.look kind)) :
    Finishes program text ⟨pc, position, saved⟩ run ↔
      kind.holds (charBefore text position) text[position]? = true ∧
        Finishes program text ⟨pc + 1, position, saved⟩ run := by
  rw [finishes_iff_next h, next_look h]
  split <;> simp [*, goto]

theorem finishes_save {slot : Nat} (h : program[pc]? = some (.save slot)) :
    Finishes program text ⟨pc, position, saved⟩ run ↔
      Finishes program text ⟨pc + 1, position, (slot, position) :: saved⟩ run := by
  rw [finishes_iff_next h, next_save h]
  simp

theorem finishes_fork {first second : Int} (h : program[pc]? = some (.fork first second)) :
    Finishes program text ⟨pc, position, saved⟩ run ↔
      Finishes program text ⟨(pc + first).toNat, position, saved⟩ run ∨
        Finishes program text ⟨(pc + second).toNat, position, saved⟩ run := by
  rw [finishes_iff_next h, next_fork h]
  simp [goto]

theorem finishes_jump {offset : Int} (h : program[pc]? = some (.jump offset)) :
    Finishes program text ⟨pc, position, saved⟩ run ↔
      Finishes program text ⟨(pc + offset).toNat, position, saved⟩ run := by
  rw [finishes_iff_next h, next_jump h]
  simp [goto]

/-! ## Entered places -/

/-- A place has been entered, or is that of a run that is still to be looked at. -/
def Covered (entered : Std.HashSet (Nat × Nat)) (stack : List Run) (place : Nat × Nat) : Prop :=
  place ∈ entered ∨ place ∈ stack.map Run.place

section Covered

variable {place : Nat × Nat}

theorem covered_nil : Covered entered [] place ↔ place ∈ entered :=
  or_iff_left List.not_mem_nil

theorem covered_cons :
    Covered entered (run :: stack) place ↔ place = run.place ∨ Covered entered stack place := by
  rw [Covered, Covered, List.map_cons, List.mem_cons]
  exact or_left_comm

theorem Covered.skip (h : Covered entered (run :: stack) place) (hrun : run.place ∈ entered) :
    Covered entered stack place := by
  rcases covered_cons.mp h with rfl | h
  · exact .inl hrun
  · exact h

theorem Covered.enter (h : Covered entered (run :: stack) place) :
    Covered (entered.insert run.place) (run.next program text ++ stack) place := by
  rw [Covered, List.map_append, List.mem_append, Std.HashSet.mem_insert, beq_iff_eq]
  rcases covered_cons.mp h with rfl | hentered | hstack
  · exact .inl (.inl rfl)
  · exact .inl (.inr hentered)
  · exact .inr (.inr hstack)

end Covered

/-- No entered place is past the last instruction, and a step from one leads to a covered place. -/
structure Closed (program : Array Instruction) (text : Array Char)
    (entered : Std.HashSet (Nat × Nat)) (stack : List Run) : Prop where
  pc_ne : ∀ a : Run, a.place ∈ entered → a.pc ≠ program.size
  step : ∀ a b : Run, a.place ∈ entered → b ∈ a.next program text →
    Covered entered stack b.place

namespace Closed

theorem empty : Closed program text ∅ [] where
  pc_ne _ h := absurd h Std.HashSet.not_mem_empty
  step _ _ h := absurd h Std.HashSet.not_mem_empty

/-- A new start is still to be looked at. -/
theorem push (h : Closed program text entered []) (stack : List Run) :
    Closed program text entered stack where
  pc_ne := h.pc_ne
  step a b ha hb := .inl (covered_nil.mp (h.step a b ha hb))

theorem skip (h : Closed program text entered (run :: stack)) (hrun : run.place ∈ entered) :
    Closed program text entered stack where
  pc_ne := h.pc_ne
  step a b ha hb := (h.step a b ha hb).skip hrun

theorem enter (h : Closed program text entered (run :: stack)) (hrun : run.pc ≠ program.size) :
    Closed program text (entered.insert run.place) (run.next program text ++ stack) where
  pc_ne a ha := by
    rcases Std.HashSet.mem_insert.mp ha with heq | ha
    · have hpc : run.pc = a.pc := congrArg Prod.fst (eq_of_beq heq)
      exact hpc ▸ hrun
    · exact h.pc_ne a ha
  step a b ha hb := by
    rcases Std.HashSet.mem_insert.mp ha with heq | ha
    · refine .inr ?_
      rw [List.map_append, List.mem_append, map_place_next (eq_of_beq heq)]
      exact .inl (List.mem_map_of_mem hb)
    · exact (h.step a b ha hb).enter

/-- With no run left, no run that finishes leads through an entered place. -/
theorem pc_ne_of_reaches (h : Closed program text entered []) (ha : a.place ∈ entered)
    (hreaches : Reaches program text a b) : b.pc ≠ program.size := by
  have hb : b.place ∈ entered := by
    induction hreaches with
    | refl => exact ha
    | tail _ hstep ih => exact covered_nil.mp (h.step _ _ ih hstep)
  exact h.pc_ne b hb

end Closed

/-- The places that a run can still enter and go on from. -/
def unentered (program : Array Instruction) (text : Array Char) (entered : Std.HashSet (Nat × Nat)) :
    Finset (Nat × Nat) :=
  (Finset.range program.size ×ˢ Finset.range (text.size + 1)).filter (· ∉ entered)

theorem card_unentered_le (program : Array Instruction) (text : Array Char)
    (entered : Std.HashSet (Nat × Nat)) :
    (unentered program text entered).card ≤ program.size * (text.size + 1) := by
  refine (Finset.card_filter_le _ _).trans (Nat.le_of_eq ?_)
  rw [Finset.card_product, Finset.card_range, Finset.card_range]

theorem unentered_insert_subset (program : Array Instruction) (text : Array Char)
    (entered : Std.HashSet (Nat × Nat)) (place : Nat × Nat) :
    unentered program text (entered.insert place) ⊆ unentered program text entered := by
  intro p hp
  simp only [unentered, Finset.mem_filter, Std.HashSet.mem_insert, not_or] at hp ⊢
  exact ⟨hp.1, hp.2.2⟩

theorem card_unentered_insert_lt (hpc : run.pc < program.size) (hposition : run.position ≤ text.size)
    (hnew : run.place ∉ entered) :
    (unentered program text (entered.insert run.place)).card <
      (unentered program text entered).card := by
  have hbefore : run.place ∈ unentered program text entered := by
    simp only [unentered, Finset.mem_filter, Finset.mem_product, Finset.mem_range]
    exact ⟨⟨hpc, Nat.lt_succ_of_le hposition⟩, hnew⟩
  have hafter : run.place ∉ unentered program text (entered.insert run.place) := by
    simp [unentered]
  have hsubset := unentered_insert_subset program text entered run.place
  exact Finset.card_lt_card ((Finset.ssubset_iff_of_subset hsubset).mpr ⟨_, hbefore, hafter⟩)

/-- The runs that a search may still look at: those at hand, and two for every place that is left. -/
def cost (program : Array Instruction) (text : Array Char) (stack : List Run)
    (entered : Std.HashSet (Nat × Nat)) : Nat :=
  stack.length + 2 * (unentered program text entered).card

/-- The step that enters a place is paid for. -/
theorem cost_enter_lt (hposition : run.position ≤ text.size) (hnew : run.place ∉ entered)
    (stack : List Run) :
    cost program text (run.next program text ++ stack) (entered.insert run.place) <
      cost program text (run :: stack) entered := by
  unfold cost
  rw [List.length_append, List.length_cons]
  by_cases hpc : run.pc < program.size
  · have hlength := length_next_le program text run
    have hcard := card_unentered_insert_lt hpc hposition hnew
    omega
  · have hcard := Finset.card_le_card (unentered_insert_subset program text entered run.place)
    rw [next_none (Array.getElem?_eq_none (Nat.le_of_not_lt hpc)), List.length_nil]
    omega

/-! ## From one start -/

/-- The run that is found comes from a run at hand. -/
theorem first?_eq_some (h : (first? program text fuel stack entered).1 = some run) :
    run.pc = program.size ∧ ∃ a ∈ stack, Reaches program text a run := by
  induction fuel generalizing stack entered with
  | zero => simp [first?] at h
  | succ fuel ih =>
    cases stack with
    | nil => simp [first?] at h
    | cons a rest =>
      rw [first?] at h
      split at h
      case isTrue hend =>
        obtain rfl : a = run := by simpa using h
        exact ⟨hend, a, List.mem_cons_self, .refl⟩
      case isFalse =>
        split at h
        case isTrue =>
          obtain ⟨hpc, b, hb, hreaches⟩ := ih h
          exact ⟨hpc, b, List.mem_cons_of_mem _ hb, hreaches⟩
        case isFalse =>
          obtain ⟨hpc, b, hb, hreaches⟩ := ih h
          rcases List.mem_append.mp hb with hstep | hrest
          · exact ⟨hpc, a, List.mem_cons_self, .head hstep hreaches⟩
          · exact ⟨hpc, b, List.mem_cons_of_mem _ hrest, hreaches⟩

/-- Where no run is found, all covered places have been entered, and no run from them finishes. -/
theorem first?_eq_none (h : (first? program text fuel stack entered).1 = none)
    (hclosed : Closed program text entered stack)
    (hposition : ∀ a ∈ stack, a.position ≤ text.size)
    (hfuel : cost program text stack entered ≤ fuel) :
    Closed program text (first? program text fuel stack entered).2 [] ∧
      ∀ place, Covered entered stack place →
        place ∈ (first? program text fuel stack entered).2 := by
  induction fuel generalizing stack entered with
  | zero =>
    obtain rfl : stack = [] := List.length_eq_zero_iff.mp (by unfold cost at hfuel; omega)
    exact ⟨hclosed, fun place => covered_nil.mp⟩
  | succ fuel ih =>
    cases stack with
    | nil => exact ⟨hclosed, fun place => covered_nil.mp⟩
    | cons a rest =>
      obtain ⟨ha, hrest⟩ := List.forall_mem_cons.mp hposition
      rw [first?] at h ⊢
      split at h
      case isTrue => cases h
      case isFalse hend =>
        rw [if_neg hend]
        split at h
        case isTrue hcontains =>
          -- A place that has been entered is closed under steps already, so its thread can be left out.
          have hmem : a.place ∈ entered := Std.HashSet.mem_iff_contains.mpr hcontains
          have hcost : cost program text rest entered ≤ fuel := by
            unfold cost at hfuel ⊢
            rw [List.length_cons] at hfuel
            omega
          rw [if_pos hcontains]
          obtain ⟨hlast, hplaces⟩ := ih h (hclosed.skip hmem) hrest hcost
          exact ⟨hlast, fun place hplace => hplaces place (hplace.skip hmem)⟩
        case isFalse hcontains =>
          have hnew : a.place ∉ entered := fun hmem =>
            hcontains (Std.HashSet.mem_iff_contains.mp hmem)
          have hnext : ∀ b ∈ a.next program text ++ rest, b.position ≤ text.size := by
            intro b hb
            rcases List.mem_append.mp hb with hb | hb
            · exact position_le_of_mem_next ha hb
            · exact hrest b hb
          have hcost := Nat.lt_of_lt_of_le (cost_enter_lt ha hnew rest) hfuel
          rw [if_neg hcontains]
          obtain ⟨hlast, hplaces⟩ := ih h (hclosed.enter hend) hnext (Nat.le_of_lt_succ hcost)
          exact ⟨hlast, fun place hplace => hplaces place hplace.enter⟩

/-! ## From all starts -/

/-- The runs from a position on find a run that finishes from the leftmost start that has one. -/
theorem firstFrom?_spec (hclosed : Closed program text entered [])
    (hfuel : 2 * program.size * (text.size + 1) < fuel) (hcount : start + count ≤ text.size + 1) :
    (firstFrom? program text fuel count start entered = none ∧
      ∀ p, start ≤ p → p < start + count → ∀ run, ¬ Finishes program text (startAt p) run) ∨
    ∃ run p, firstFrom? program text fuel count start entered = some run ∧ start ≤ p ∧
      Finishes program text (startAt p) run ∧
      ∀ q, start ≤ q → q < p → ∀ run, ¬ Finishes program text (startAt q) run := by
  induction count generalizing start entered with
  | zero => exact .inl ⟨rfl, fun p hle hlt => absurd hle (Nat.not_le_of_lt hlt)⟩
  | succ count ih =>
    rw [firstFrom?]
    rcases hfirst : first? program text fuel [startAt start] entered with ⟨found, last⟩
    cases found with
    | some run =>
      obtain ⟨hpc, a, ha, hreaches⟩ := first?_eq_some (congrArg Prod.fst hfirst)
      rw [List.mem_singleton.mp ha] at hreaches
      exact .inr ⟨run, start, rfl, Nat.le_refl start, ⟨hreaches, hpc⟩,
        fun q hle hlt => absurd hle (Nat.not_le_of_lt hlt)⟩
    | none =>
      -- The places that were entered in vain stay entered: from them no later start finishes either.
      have hposition : ∀ a ∈ [startAt start], a.position ≤ text.size := by
        have hle : start ≤ text.size := by omega
        intro a ha
        rw [List.mem_singleton.mp ha]
        exact hle
      have hcost : cost program text [startAt start] entered ≤ fuel := by
        have hcard := card_unentered_le program text entered
        rw [Nat.mul_assoc] at hfuel
        unfold cost
        rw [List.length_singleton]
        omega
      obtain ⟨hlast, hplaces⟩ :=
        first?_eq_none (congrArg Prod.fst hfirst) (hclosed.push _) hposition hcost
      rw [hfirst] at hlast hplaces
      have hstart (run : Run) : ¬ Finishes program text (startAt start) run := fun h =>
        hlast.pc_ne_of_reaches (hplaces _ (covered_cons.mpr (.inl rfl))) h.reaches h.pc_eq
      have hskip {p : Nat} (hle : start ≤ p)
          (h : start + 1 ≤ p → ∀ run, ¬ Finishes program text (startAt p) run) :
          ∀ run, ¬ Finishes program text (startAt p) run := by
        rcases Nat.eq_or_lt_of_le hle with rfl | hlt
        · exact hstart
        · exact h hlt
      have hleft : start + 1 + count ≤ text.size + 1 := by omega
      rcases ih hlast hleft with ⟨heq, hno⟩ | ⟨run, p, heq, hle, hfinishes, hno⟩
      · exact .inl ⟨heq, fun p hle hlt => hskip hle fun hle => hno p hle (by omega)⟩
      · exact .inr ⟨run, p, heq, Nat.le_of_succ_le hle, hfinishes,
          fun q hle hlt => hskip hle fun hle => hno q hle hlt⟩

end Run

/-- A search finds the match of a run that finishes from the leftmost start that has one, and
nothing if no start has one. -/
theorem findFrom?_spec (program : Array Instruction) (groupCount : Nat) (text : Array Char)
    (start : Nat) :
    (findFrom? program groupCount text start = none ∧
      ∀ p, start ≤ p → p ≤ text.size → ∀ run, ¬ Run.Finishes program text (.startAt p) run) ∨
    ∃ run p, findFrom? program groupCount text start = some (run.toMatch groupCount) ∧ start ≤ p ∧
      Run.Finishes program text (.startAt p) run ∧
      ∀ q, start ≤ q → q < p → ∀ run, ¬ Run.Finishes program text (.startAt q) run := by
  rw [findFrom?]
  by_cases hstart : start ≤ text.size
  · have hcount : start + (text.size + 1 - start) ≤ text.size + 1 := by omega
    have hfuel := Nat.lt_succ_self (2 * program.size * (text.size + 1))
    rcases Run.firstFrom?_spec .empty hfuel hcount with
      ⟨heq, hno⟩ | ⟨run, p, heq, hle, hfinishes, hno⟩
    · exact .inl ⟨congrArg _ heq, fun p hle hend => hno p hle (by omega)⟩
    · exact .inr ⟨run, p, congrArg _ heq, hle, hfinishes, hno⟩
  · rw [Nat.sub_eq_zero_of_le (by omega)]
    exact .inl ⟨rfl, fun p hle hend => absurd (Nat.le_trans hle hend) hstart⟩

/-- After a match that is not empty the search goes on at its end. -/
theorem findAllFrom_of_lt {program : Array Instruction} {groupCount start : Nat} {text : Array Char}
    {found : Match} (h : findFrom? program groupCount text start = some found)
    (hlt : found.start < found.stop) (fuel : Nat) (lastStop : Option Nat) :
    findAllFrom program groupCount text (fuel + 1) start lastStop =
      found :: findAllFrom program groupCount text fuel found.stop (some found.stop) := by
  rw [findAllFrom, h]
  simp [Nat.ne_of_lt hlt]

end Kitchen.Regex
