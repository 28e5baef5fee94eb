/-!
# Slots

A slot holds at most one live bake: starting a bake cancels the one before it. Every bake has a
ticket of its own, so an old bake that ends late does not disturb a newer one.
-/

namespace Kitchen

/-- A slot, with the bakes that have passed through it by their tickets. -/
structure Slot where
  /-- The ticket of the next bake. -/
  nextTicket : Nat
  /-- The bake that the slot holds. -/
  current : Option Nat
  /-- The bakes that have not ended. -/
  running : List Nat
  cancelled : List Nat
  deriving DecidableEq, Repr, Inhabited

namespace Slot

/-- A slot that no bake has passed through. -/
def empty : Slot := ⟨0, none, [], []⟩

/-- Cancels the bake that the slot holds, and lets go of it. -/
def cancel (slot : Slot) : Slot :=
  { slot with current := none, cancelled := slot.current.toList ++ slot.cancelled }

/-- Starts a bake, which gets the next ticket. -/
def start (slot : Slot) : Slot :=
  { slot.cancel with
    nextTicket := slot.nextTicket + 1
    current := some slot.nextTicket
    running := slot.nextTicket :: slot.running }

/-- Ends a bake. The slot lets go of it if it still holds it. -/
def finish (slot : Slot) (ticket : Nat) : Slot :=
  { slot with
    current := slot.current.filter (· != ticket)
    running := slot.running.filter (· != ticket) }

def isBusy (slot : Slot) : Bool := slot.current.isSome

end Slot
end Kitchen
