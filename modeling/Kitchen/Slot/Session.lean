import Kitchen.Metrics.Basic
import Kitchen.Slot.Basic

/-!
# Sessions of a slot

Bakes that share a slot and take turns: a bake runs until it waits, and goes on only when its result
is asked for. Between its turns it may have been cancelled, and it ends then as soon as it goes on.
-/

namespace Kitchen

/-- A bake that was started and whose result has not been asked for. -/
inductive SlotTask where
  | finished (attempt : Attempt)
  /-- It stands at its first wait. -/
  | waiting (ticket : Nat) (recipe : Recipe) (input : Dish)

/-- A slot, who bakes in it, and the bakes started in it by their numbers; a bake whose result has
been taken is none. -/
structure SlotSession where
  slot : Slot
  chef : Chef
  tasks : List (Option SlotTask)

/-- The control of a bake that is cancelled at its first wait. -/
def Control.untilWait : Control := { Control.default with cancelAt := some (.wait 1) }

namespace SlotSession

/-- A session in which nothing has happened. -/
def new (registry : Registry) : SlotSession := ⟨.empty, .new registry, []⟩

/-- Bakes under a ticket to the end, and counts the bake. -/
def runToEnd (session : SlotSession) (ticket fuel : Nat) (recipe : Recipe) (input : Dish)
    (control : Control) : Option (Attempt × SlotSession) :=
  (session.chef.bake fuel recipe input control).map fun (attempt, chef) =>
    (attempt, { session with slot := session.slot.finish ticket, chef })

/-- Starts a bake and lets it run until it waits. A bake that never waits has ended then. -/
def start (session : SlotSession) (fuel : Nat) (recipe : Recipe) (input : Dish) :
    Option SlotSession :=
  let ticket := session.slot.nextTicket
  let started := { session with slot := session.slot.start }
  match started.runToEnd ticket fuel recipe input .untilWait with
  | none => none
  | some (attempt, ended) =>
    if attempt.log.waits = 0 then
      some { ended with tasks := session.tasks ++ [some (.finished attempt)] }
    else some { started with tasks := session.tasks ++ [some (.waiting ticket recipe input)] }

/-- Bakes in the slot to the end. -/
def bake (session : SlotSession) (fuel : Nat) (recipe : Recipe) (input : Dish) (control : Control) :
    Option (Attempt × SlotSession) :=
  let started := { session with slot := session.slot.start }
  started.runToEnd session.slot.nextTicket fuel recipe input control

def cancel (session : SlotSession) : SlotSession := { session with slot := session.slot.cancel }

/-- Takes the result of a started bake, which runs to its end for it. -/
def take (session : SlotSession) (fuel number : Nat) : Option (Option Attempt × SlotSession) :=
  match session.tasks[number]? with
  | some (some task) =>
    let session := { session with tasks := session.tasks.set number none }
    match task with
    | .finished attempt => some (some attempt, session)
    | .waiting ticket recipe input =>
      let control := if session.slot.cancelled.contains ticket then .untilWait else .default
      (session.runToEnd ticket fuel recipe input control).map fun (attempt, session) =>
        (some attempt, session)
  | _ => some (none, session)

/-- Takes the results of several started bakes. -/
def takeAll (fuel : Nat) : List Nat → SlotSession → Option SlotSession
  | [], session => some session
  | number :: rest, session =>
    match session.take fuel number with
    | none => none
    | some (_, session) => takeAll fuel rest session

/-- Cancels the slot and lets all started bakes end. -/
def close (session : SlotSession) (fuel : Nat) : Option SlotSession :=
  takeAll fuel (List.range session.tasks.length) session.cancel

end SlotSession
end Kitchen
