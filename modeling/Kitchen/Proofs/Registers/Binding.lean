import Kitchen.Proofs.Number.Digits
import Kitchen.Registers

/-!
# Bindings

What a sequence of bindings does to the registers. Each binding changes the register of its name and
no other one. A binding without a name takes the count of such bindings before it for its name,
whether or not a register has that name already.
-/

namespace Kitchen

/-- A text that is put under a name, or under the next number. -/
inductive Binding where
  | named (name value : String)
  | numbered (value : String)
  deriving DecidableEq, Repr

namespace Binding

def isNumbered : Binding → Bool
  | named _ _ => false
  | numbered _ => true

def value : Binding → String
  | named _ value => value
  | numbered value => value

/-- The name under which a binding is made, where `next` is the next number. -/
def nameAt (next : Nat) : Binding → String
  | named name _ => name
  | numbered _ => toString next

/-- The next number behind a binding. -/
def numberAfter (next : Nat) (binding : Binding) : Nat :=
  next + if binding.isNumbered then 1 else 0

end Binding

namespace Registers

private theorem lookup_cons_eq (n v other : String) (rest : List (String × String)) :
    ((n, v) :: rest).lookup other = if other = n then some v else rest.lookup other := by
  rw [List.lookup_cons]
  by_cases h : other = n
  · simp [h]
  · rw [beq_false_of_ne h, if_neg h]

private theorem lookup_insertValue (name value other : String) (values : List (String × String)) :
    (insertValue name value values).lookup other =
      if other = name then some value else values.lookup other := by
  induction values with
  | nil => rw [insertValue, lookup_cons_eq]
  | cons first rest ih =>
    obtain ⟨n, v⟩ := first
    rw [insertValue]
    split
    · rename_i hname
      rw [lookup_cons_eq, lookup_cons_eq, hname]
      by_cases h : other = n <;> simp [h]
    · rename_i hname
      split
      · rw [lookup_cons_eq]
      · rw [lookup_cons_eq, ih, lookup_cons_eq]
        by_cases h : other = n
        · have hother : ¬ other = name := by rwa [h, eq_comm]
          rw [if_pos h, if_neg hother, if_pos h]
        · rw [if_neg h, if_neg h]

@[simp] theorem get?_bind (registers : Registers) (name value other : String) :
    (registers.bind name value).get? other =
      if other = name then some value else registers.get? other :=
  lookup_insertValue name value other registers.values

def record (registers : Registers) : Binding → Registers
  | .named name value => registers.bind name value
  | .numbered value => registers.bindNumbered value

theorem get?_record (registers : Registers) (binding : Binding) (other : String) :
    (registers.record binding).get? other =
      if other = binding.nameAt registers.nextNumber then some binding.value
      else registers.get? other := by
  cases binding with
  | named name value => exact registers.get?_bind name value other
  | numbered value => exact registers.get?_bind registers.numberedName value other

theorem nextNumber_record (registers : Registers) (binding : Binding) :
    (registers.record binding).nextNumber = binding.numberAfter registers.nextNumber := by
  cases binding <;> rfl

def recordAll (registers : Registers) (bindings : List Binding) : Registers :=
  bindings.foldl record registers

theorem recordAll_nil (registers : Registers) : registers.recordAll [] = registers := rfl

theorem recordAll_cons (registers : Registers) (binding : Binding) (rest : List Binding) :
    registers.recordAll (binding :: rest) = (registers.record binding).recordAll rest := rfl

theorem recordAll_append (registers : Registers) (earlier later : List Binding) :
    registers.recordAll (earlier ++ later) = (registers.recordAll earlier).recordAll later :=
  List.foldl_append

theorem nextNumber_recordAll (registers : Registers) (bindings : List Binding) :
    (registers.recordAll bindings).nextNumber =
      registers.nextNumber + bindings.countP Binding.isNumbered := by
  induction bindings generalizing registers with
  | nil => rfl
  | cons binding rest ih =>
    rw [recordAll_cons, ih, nextNumber_record, Binding.numberAfter, List.countP_cons]
    omega

theorem numberedName_recordAll (history : List Binding) :
    (empty.recordAll history).numberedName = toString (history.countP Binding.isNumbered) := by
  have hnext := nextNumber_recordAll empty history
  have hzero : empty.nextNumber = 0 := rfl
  rw [hzero, Nat.zero_add] at hnext
  rw [numberedName, hnext]

/-- The names under which bindings are made, where `next` is the next number. -/
def boundNames : Nat → List Binding → List String
  | _, [] => []
  | next, binding :: rest =>
    binding.nameAt next :: boundNames (binding.numberAfter next) rest

/-- Bindings leave the registers of all other names as they are. -/
theorem get?_recordAll_of_notMem {registers : Registers} {bindings : List Binding} {name : String}
    (h : name ∉ boundNames registers.nextNumber bindings) :
    (registers.recordAll bindings).get? name = registers.get? name := by
  induction bindings generalizing registers with
  | nil => rfl
  | cons binding rest ih =>
    rw [boundNames, List.mem_cons, not_or] at h
    rw [recordAll_cons, ih (by rw [nextNumber_record]; exact h.2), get?_record, if_neg h.1]

/-- Exactly the names under which bindings are made become bound. -/
theorem get?_recordAll_eq_none {registers : Registers} {bindings : List Binding} {name : String} :
    (registers.recordAll bindings).get? name = none ↔
      registers.get? name = none ∧ name ∉ boundNames registers.nextNumber bindings := by
  induction bindings generalizing registers with
  | nil => simp [recordAll_nil, boundNames]
  | cons binding rest ih =>
    rw [recordAll_cons, ih, get?_record, nextNumber_record, boundNames, List.mem_cons, not_or]
    by_cases hname : name = binding.nameAt registers.nextNumber
    · simp [hname]
    · simp [hname]

theorem mem_boundNames {next : Nat} {bindings : List Binding} {name : String} :
    name ∈ boundNames next bindings ↔
      (∃ value, .named name value ∈ bindings) ∨
        ∃ n, next ≤ n ∧ n < next + bindings.countP Binding.isNumbered ∧ name = toString n := by
  induction bindings generalizing next with
  | nil =>
    simp only [boundNames, List.not_mem_nil, exists_false, List.countP_nil, false_or, false_iff]
    rintro ⟨n, hle, hlt, -⟩
    omega
  | cons binding rest ih =>
    rw [boundNames, List.mem_cons, ih, List.countP_cons]
    cases binding with
    | named n value =>
      simp [Binding.nameAt, Binding.numberAfter, Binding.isNumbered, exists_or, or_assoc]
    | numbered value =>
      simp only [Binding.nameAt, Binding.numberAfter, Binding.isNumbered, if_true, List.mem_cons,
        reduceCtorEq, false_or]
      constructor
      · rintro (rfl | hnamed | ⟨n, hle, hlt, rfl⟩)
        · exact .inr ⟨next, Nat.le_refl _, by omega, rfl⟩
        · exact .inl hnamed
        · exact .inr ⟨n, by omega, by omega, rfl⟩
      · rintro (hnamed | ⟨n, hle, hlt, rfl⟩)
        · exact .inr (.inl hnamed)
        · by_cases hn : n = next
          · exact .inl (by rw [hn])
          · exact .inr (.inr ⟨n, by omega, by omega, rfl⟩)

/-- The next number is free unless a named binding has taken it. -/
theorem get?_numberedName_eq_none (history : List Binding) :
    (empty.recordAll history).get? (empty.recordAll history).numberedName = none ↔
      ∀ value, .named (empty.recordAll history).numberedName value ∉ history := by
  have hnext := nextNumber_recordAll empty history
  rw [get?_recordAll_eq_none, mem_boundNames]
  constructor
  · rintro ⟨-, hfree⟩ value hmem
    exact hfree (.inl ⟨value, hmem⟩)
  · intro hfree
    refine ⟨rfl, ?_⟩
    rintro (⟨value, hmem⟩ | ⟨n, -, hlt, hname⟩)
    · exact hfree value hmem
    · -- The numbers that were given are below the next one.
      have hn : (empty.recordAll history).nextNumber = n := natToString_injective hname
      rw [hn] at hnext
      omega

end Registers
end Kitchen
