import Kitchen.Slot.Basic

/-!
# Occupancy of a slot

What holds of a slot however bakes are started, cancelled and ended in it: it holds the newest bake
until this one ends or is cancelled, and every other bake that has not ended is cancelled.
-/

namespace Kitchen
namespace Slot

/-- What can happen to a slot. -/
inductive Step : Slot → Slot → Prop where
  | start (slot : Slot) : Step slot slot.start
  | finish {slot : Slot} {ticket : Nat} : ticket ∈ slot.running → Step slot (slot.finish ticket)
  | cancel (slot : Slot) : Step slot slot.cancel

/-- The slots that an empty one becomes. -/
inductive Reachable : Slot → Prop where
  | empty : Reachable empty
  | step {slot next : Slot} : Reachable slot → Step slot next → Reachable next

/-- The slot holds at most the newest bake, which has not ended or been cancelled, and every other
bake that has not ended is cancelled. -/
structure Invariant (slot : Slot) : Prop where
  newest : ∀ ticket, slot.current = some ticket → ticket + 1 = slot.nextTicket
  running : ∀ ticket, slot.current = some ticket → ticket ∈ slot.running
  uncancelled : ∀ ticket, slot.current = some ticket → ticket ∉ slot.cancelled
  superseded : ∀ ticket ∈ slot.running, slot.current ≠ some ticket → ticket ∈ slot.cancelled
  running_lt : ∀ ticket ∈ slot.running, ticket < slot.nextTicket
  cancelled_lt : ∀ ticket ∈ slot.cancelled, ticket < slot.nextTicket

variable {slot next : Slot}

theorem invariant_empty : Invariant empty where
  newest _ h := by simp [empty] at h
  running _ h := by simp [empty] at h
  uncancelled _ h := by simp [empty] at h
  superseded _ h := by simp [empty] at h
  running_lt _ h := by simp [empty] at h
  cancelled_lt _ h := by simp [empty] at h

theorem mem_cancelled_cancel {ticket : Nat} :
    ticket ∈ slot.cancel.cancelled ↔ slot.current = some ticket ∨ ticket ∈ slot.cancelled := by
  simp [cancel]

theorem current_finish_eq_some {ticket other : Nat} :
    (slot.finish ticket).current = some other ↔ slot.current = some other ∧ other ≠ ticket := by
  simp [finish, Option.filter_eq_some_iff]

theorem mem_running_finish {ticket other : Nat} :
    other ∈ (slot.finish ticket).running ↔ other ∈ slot.running ∧ other ≠ ticket := by
  simp [finish]

theorem Invariant.cancel (h : slot.Invariant) : slot.cancel.Invariant where
  newest _ hcurrent := by simp [Slot.cancel] at hcurrent
  running _ hcurrent := by simp [Slot.cancel] at hcurrent
  uncancelled _ hcurrent := by simp [Slot.cancel] at hcurrent
  superseded ticket hrunning _ := by
    rw [mem_cancelled_cancel]
    by_cases hcurrent : slot.current = some ticket
    · exact .inl hcurrent
    · exact .inr (h.superseded ticket hrunning hcurrent)
  running_lt := h.running_lt
  cancelled_lt ticket hcancelled := by
    rcases mem_cancelled_cancel.mp hcancelled with hcurrent | hcancelled
    · exact h.running_lt ticket (h.running ticket hcurrent)
    · exact h.cancelled_lt ticket hcancelled

theorem Invariant.start (h : slot.Invariant) : slot.start.Invariant where
  newest ticket hcurrent := by
    obtain rfl : slot.nextTicket = ticket := Option.some.inj hcurrent
    rfl
  running ticket hcurrent := by
    obtain rfl : slot.nextTicket = ticket := Option.some.inj hcurrent
    exact List.mem_cons_self
  uncancelled ticket hcurrent hcancelled := by
    obtain rfl : slot.nextTicket = ticket := Option.some.inj hcurrent
    exact Nat.lt_irrefl _ (h.cancel.cancelled_lt _ hcancelled)
  superseded ticket hrunning hcurrent := by
    rcases List.mem_cons.mp hrunning with rfl | hrunning
    · exact absurd rfl hcurrent
    · exact h.cancel.superseded ticket hrunning (by simp [Slot.cancel])
  running_lt ticket hrunning := by
    rcases List.mem_cons.mp hrunning with rfl | hrunning
    · exact Nat.lt_succ_self _
    · exact Nat.lt_succ_of_lt (h.running_lt ticket hrunning)
  cancelled_lt ticket hcancelled := Nat.lt_succ_of_lt (h.cancel.cancelled_lt ticket hcancelled)

theorem Invariant.finish (h : slot.Invariant) (ticket : Nat) : (slot.finish ticket).Invariant where
  newest other hcurrent := h.newest other (current_finish_eq_some.mp hcurrent).1
  running other hcurrent := by
    obtain ⟨hcurrent, hne⟩ := current_finish_eq_some.mp hcurrent
    exact mem_running_finish.mpr ⟨h.running other hcurrent, hne⟩
  uncancelled other hcurrent := h.uncancelled other (current_finish_eq_some.mp hcurrent).1
  superseded other hrunning hcurrent := by
    obtain ⟨hrunning, hne⟩ := mem_running_finish.mp hrunning
    exact h.superseded other hrunning fun hheld =>
      hcurrent (current_finish_eq_some.mpr ⟨hheld, hne⟩)
  running_lt other hrunning := h.running_lt other (mem_running_finish.mp hrunning).1
  cancelled_lt := h.cancelled_lt

theorem Invariant.step (h : slot.Invariant) (hstep : Step slot next) : next.Invariant := by
  cases hstep with
  | start => exact h.start
  | finish _ => exact h.finish _
  | cancel => exact h.cancel

theorem Reachable.invariant (h : slot.Reachable) : slot.Invariant := by
  induction h with
  | empty => exact invariant_empty
  | step _ hstep ih => exact ih.step hstep

/-- The slot is busy exactly while some bake has neither ended nor been cancelled. -/
theorem Invariant.isBusy_iff (h : slot.Invariant) :
    slot.isBusy = true ↔ ∃ ticket ∈ slot.running, ticket ∉ slot.cancelled := by
  rw [isBusy, Option.isSome_iff_exists]
  constructor
  · rintro ⟨ticket, hcurrent⟩
    exact ⟨ticket, h.running ticket hcurrent, h.uncancelled ticket hcurrent⟩
  · rintro ⟨ticket, hrunning, hlive⟩
    refine ⟨ticket, Classical.not_not.mp fun hcurrent => ?_⟩
    exact hlive (h.superseded ticket hrunning hcurrent)

/-- A bake that ends late leaves the newer one in the slot. -/
theorem current_finish_of_ne {ticket newer : Nat} (hcurrent : slot.current = some newer)
    (hne : ticket ≠ newer) : (slot.finish ticket).current = some newer :=
  current_finish_eq_some.mpr ⟨hcurrent, hne.symm⟩

end Slot
end Kitchen
