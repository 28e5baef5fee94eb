import Kitchen.Number.Power
import Kitchen.Operation.Basic

/-!
# Pausing

Waiting for a time in slices, each of which gives the host a turn to cancel. Time is counted by the
slices that have been waited for.
-/

namespace Kitchen.Pause

/-- The longest time in milliseconds that is waited for at once. -/
def sliceLength : Nat := 50

/-- The time in milliseconds that an argument asks for: a whole number of 64 bits. -/
def timeAt (args : List Argument) (i : Nat) : Nat :=
  ((numberAt? args i).getD (.ofNat 0)).toNatClamped (twoTo 64 - 1)

/-- Waits for the slices that are left, and says whether nobody cancelled meanwhile. Before every
slice the share of the time that has gone is reported. -/
def waitSlices (context : Context) (total : Nat) : Nat → Nat → Log → Bool × Log
  | 0, _, log => (!context.control.isCancelled log, log)
  | left + 1, elapsed, log =>
    if context.control.isCancelled log then (false, log)
    else
      let percent := elapsed * 100 / total
      let reported := context.report s!"Sleeping ({percent}%)" (some percent) log
      waitSlices context total left (elapsed + sliceLength) (.waited :: reported)

def sleep : Transform := fun context args input log =>
  let total := timeAt args 0
  let slices := (total + sliceLength - 1) / sliceLength
  match waitSlices context total slices 0 log with
  | (true, log) => (.ok input, context.report "Sleep finished" (some 100) log)
  | (false, log) => (.error (.fault .cancelled), log)

def operation : Operation :=
  .ofTransform
    { Descriptor.plain "Sleep" .arrayBuffer .arrayBuffer with
      description := "Waits for the given number of milliseconds, passing the input through."
      parameters := [(Parameter.number "Time (ms)" (.ofNat 1000)).range (some (.ofNat 0)) none] }
    sleep

end Kitchen.Pause
