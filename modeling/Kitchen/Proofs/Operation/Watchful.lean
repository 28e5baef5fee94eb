import Kitchen.Proofs.Operation.Steering

/-!
# Watchful operations

What the built-in transformations do about cancellation. They add updates and waits to the events of
a bake but dispatch no step. Where two hosts differ only in the moment at which they cancel, both see
the same of a transformation unless one of them cancels it, and the wait at which a host cancels is
the last.
-/

namespace Kitchen

/-! ## Moments -/

/-- The control of a host that cancels at another moment, or never. -/
def Control.cancelledAt (control : Control) (moment : Option Moment) : Control :=
  { control with cancelAt := moment }

/-- The context under a host that cancels at another moment, or never. -/
def Context.cancelledAt (context : Context) (moment : Option Moment) : Context :=
  { context with control := context.control.cancelledAt moment }

theorem Control.isCancelled_wait {control : Control} {n : Nat}
    (h : control.cancelAt = some (.wait n)) {log : Log} :
    control.isCancelled log = true ↔ 0 < n ∧ n ≤ log.waits := by
  simp [Control.isCancelled, h, Moment.isReached]

/-! ## Quiet events -/

namespace Log

/-- Events have been added, none of which dispatches a step. -/
def Quiet (log log' : Log) : Prop :=
  ∃ events : Log, log' = events ++ log ∧ ∀ event ∈ events, operationOf? event = none

variable {log log₁ log₂ : Log}

theorem Quiet.refl (log : Log) : Quiet log log := ⟨[], rfl, by simp⟩

theorem Quiet.trans (h : Quiet log log₁) (h' : Quiet log₁ log₂) : Quiet log log₂ := by
  obtain ⟨events, rfl, hevents⟩ := h
  obtain ⟨events', rfl, hevents'⟩ := h'
  refine ⟨events' ++ events, (List.append_assoc _ _ _).symm, ?_⟩
  intro event hmem
  rcases List.mem_append.mp hmem with hmem | hmem
  · exact hevents' event hmem
  · exact hevents event hmem

theorem Quiet.cons {event : Event} (hevent : operationOf? event = none) (h : Quiet log log₁) :
    Quiet log (event :: log₁) := by
  obtain ⟨events, rfl, hevents⟩ := h
  exact ⟨event :: events, rfl, by simpa using ⟨hevent, hevents⟩⟩

theorem quiet_report (context : Context) (message : String) (percent : Option Nat) (log : Log) :
    Quiet log (context.report message percent log) := by
  unfold Context.report
  split
  · exact (Quiet.refl log).cons rfl
  · exact Quiet.refl log

@[simp] theorem waits_report (context : Context) (message : String) (percent : Option Nat)
    (log : Log) : (context.report message percent log).waits = log.waits := by
  unfold Context.report Log.waits
  split <;> simp

end Log

/-! ## Pauses -/

section Pause

open Pause

private theorem quiet_waitSlices (context : Context) (total left elapsed : Nat) (log : Log) :
    Log.Quiet log (waitSlices context total left elapsed log).2 := by
  induction left generalizing elapsed log with
  | zero => exact .refl log
  | succ left ih =>
    rw [waitSlices]
    split
    · exact .refl log
    · exact ((Log.quiet_report context _ _ log).cons rfl).trans (ih _ _)

private theorem waitSlices_fst (context : Context) (total left elapsed : Nat) (log : Log) :
    (waitSlices context total left elapsed log).1 =
      !context.control.isCancelled (waitSlices context total left elapsed log).2 := by
  induction left generalizing elapsed log with
  | zero => rfl
  | succ left ih =>
    rw [waitSlices]
    by_cases hc : context.control.isCancelled log = true
    · simp [hc]
    · rw [if_neg hc]
      exact ih _ _

private theorem waits_waitSlices {context : Context} {n : Nat}
    (hmoment : context.control.cancelAt = some (.wait n)) (hpos : 0 < n) (total left elapsed : Nat)
    {log : Log} (hle : log.waits ≤ n) :
    (waitSlices context total left elapsed log).2.waits ≤ n := by
  induction left generalizing elapsed log with
  | zero => exact hle
  | succ left ih =>
    rw [waitSlices]
    by_cases hc : context.control.isCancelled log = true
    · rw [if_pos hc]
      exact hle
    · rw [if_neg hc]
      rw [Control.isCancelled_wait hmoment] at hc
      have hwaits (events : Log) : Log.waits (.waited :: events) = events.waits + 1 := by
        simp [Log.waits]
      refine ih _ ?_
      rw [hwaits, Log.waits_report]
      omega

private theorem waitSlices_cancelledAt (context : Context) (moment : Option Moment)
    (total left elapsed : Nat) (log : Log) :
    (waitSlices context total left elapsed log).1 = false ∨
      (waitSlices (context.cancelledAt moment) total left elapsed log).1 = false ∨
      waitSlices (context.cancelledAt moment) total left elapsed log =
        waitSlices context total left elapsed log := by
  induction left generalizing elapsed log with
  | zero =>
    cases hc : context.control.isCancelled log with
    | true => exact .inl (by simp [waitSlices, hc])
    | false =>
      cases hc' : (context.cancelledAt moment).control.isCancelled log with
      | true => exact .inr (.inl (by simp [waitSlices, hc']))
      | false => exact .inr (.inr (by simp [waitSlices, hc, hc']))
  | succ left ih =>
    rw [waitSlices, waitSlices]
    by_cases hc : context.control.isCancelled log = true
    · exact .inl (by rw [if_pos hc])
    · by_cases hc' : (context.cancelledAt moment).control.isCancelled log = true
      · exact .inr (.inl (by rw [if_pos hc']))
      · rw [if_neg hc, if_neg hc']
        exact ih _ _

/-- The slices of a pause, one after another. -/
private def waitAll (context : Context) (args : List Argument) (log : Log) : Bool × Log :=
  let total := timeAt args 0
  waitSlices context total ((total + sliceLength - 1) / sliceLength) 0 log

private theorem sleep_of_true {context : Context} {args : List Argument} {log : Log}
    (h : (waitAll context args log).1 = true) (dish : Dish) :
    sleep context args dish log =
      (.ok dish, context.report "Sleep finished" (some 100) (waitAll context args log).2) := by
  rw [waitAll] at h ⊢
  rw [sleep]
  split <;> simp_all

private theorem sleep_of_false {context : Context} {args : List Argument} {log : Log}
    (h : (waitAll context args log).1 = false) (dish : Dish) :
    sleep context args dish log = (.error (.fault .cancelled), (waitAll context args log).2) := by
  rw [waitAll] at h ⊢
  rw [sleep]
  split <;> simp_all

/-- A pause goes on behind its slices, or it is cancelled and ends with them. -/
private theorem sleep_cases (context : Context) (args : List Argument) (dish : Dish) (log : Log) :
    context.control.isCancelled (waitAll context args log).2 = false ∧
        sleep context args dish log =
          (.ok dish, context.report "Sleep finished" (some 100) (waitAll context args log).2) ∨
      context.control.isCancelled (waitAll context args log).2 = true ∧
        sleep context args dish log =
          (.error (.fault .cancelled), (waitAll context args log).2) := by
  have hfst : (waitAll context args log).1 =
      !context.control.isCancelled (waitAll context args log).2 := waitSlices_fst _ _ _ _ _
  cases hw : (waitAll context args log).1 with
  | true => exact .inl ⟨by simpa [hw] using hfst, sleep_of_true hw dish⟩
  | false => exact .inr ⟨by simpa [hw] using hfst, sleep_of_false hw dish⟩

private theorem sleep_cancelledAt (context : Context) (moment : Option Moment)
    (args : List Argument) (dish : Dish) (log : Log) :
    (sleep context args dish log).1 = .error (.fault .cancelled) ∨
      (sleep (context.cancelledAt moment) args dish log).1 = .error (.fault .cancelled) ∨
      sleep (context.cancelledAt moment) args dish log = sleep context args dish log := by
  have hslices : (waitAll context args log).1 = false ∨
      (waitAll (context.cancelledAt moment) args log).1 = false ∨
      waitAll (context.cancelledAt moment) args log = waitAll context args log :=
    waitSlices_cancelledAt context moment _ _ _ log
  rcases hslices with h | h | h
  · exact .inl (by rw [sleep_of_false h])
  · exact .inr (.inl (by rw [sleep_of_false h]))
  · cases hw : (waitAll context args log).1 with
    | false => exact .inl (by rw [sleep_of_false hw])
    | true =>
      right
      right
      rw [sleep_of_true hw, sleep_of_true (h ▸ hw), h]
      rfl

end Pause

/-! ## Watchful transformations -/

/-- The operation dispatches nothing, says truly that it was cancelled, goes the same way under
another moment of cancellation unless it is cancelled, and ends by the wait that cancels it. -/
structure Operation.Watchful (operation : Operation) : Prop where
  quiet : ∀ (context : Context) (args : List Argument) (dish : Dish) (log : Log),
    Log.Quiet log (operation.transform context args dish log).2
  isCancelled : ∀ {context : Context} {args : List Argument} {dish : Dish} {log : Log},
    (operation.transform context args dish log).1 = .error (.fault .cancelled) →
    context.control.isCancelled (operation.transform context args dish log).2 = true
  cancelledAt : ∀ (context : Context) (moment : Option Moment) (args : List Argument) (dish : Dish)
    (log : Log), (operation.transform context args dish log).1 = .error (.fault .cancelled) ∨
      (operation.transform (context.cancelledAt moment) args dish log).1 =
        .error (.fault .cancelled) ∨
      operation.transform (context.cancelledAt moment) args dish log =
        operation.transform context args dish log
  lastWait : ∀ {context : Context} {args : List Argument} {dish : Dish} {log : Log} {n : Nat},
    context.control.cancelAt = some (.wait n) → log.waits < n →
    n ≤ (operation.transform context args dish log).2.waits →
    (operation.transform context args dish log).1 = .error (.fault .cancelled)
  waits_le : ∀ {context : Context} {args : List Argument} {dish : Dish} {log : Log} {n : Nat},
    context.control.cancelAt = some (.wait n) → 0 < n → log.waits ≤ n →
    (operation.transform context args dish log).2.waits ≤ n

theorem watchful_sleep : Pause.operation.Watchful where
  quiet context args dish log := by
    change Log.Quiet log (Pause.sleep context args dish log).2
    have hquiet : Log.Quiet log (waitAll context args log).2 := quiet_waitSlices _ _ _ _ _
    rcases sleep_cases context args dish log with ⟨_, h⟩ | ⟨_, h⟩
    · rw [h]
      exact hquiet.trans (Log.quiet_report context _ _ _)
    · rw [h]
      exact hquiet
  isCancelled := by
    intro context args dish log hcancelled
    change (Pause.sleep context args dish log).1 = _ at hcancelled
    change context.control.isCancelled (Pause.sleep context args dish log).2 = true
    rcases sleep_cases context args dish log with ⟨_, h⟩ | ⟨hc, h⟩
    · simp [h] at hcancelled
    · rw [h]
      exact hc
  cancelledAt := sleep_cancelledAt
  lastWait := by
    intro context args dish log n hmoment hlt hle
    change n ≤ (Pause.sleep context args dish log).2.waits at hle
    change (Pause.sleep context args dish log).1 = _
    rcases sleep_cases context args dish log with ⟨hc, h⟩ | ⟨_, h⟩
    · rw [h, Log.waits_report] at hle
      -- The last wait has come to the moment, so a sleep that passed it would have been cancelled.
      have hreached := (Control.isCancelled_wait hmoment).mpr ⟨by omega, hle⟩
      rw [hc] at hreached
      exact absurd hreached (by simp)
    · rw [h]
  waits_le := by
    intro context args dish log n hmoment hpos hle
    change (Pause.sleep context args dish log).2.waits ≤ n
    have hwaits : (waitAll context args log).2.waits ≤ n :=
      waits_waitSlices hmoment hpos _ _ _ hle
    rcases sleep_cases context args dish log with ⟨_, h⟩ | ⟨_, h⟩
    · rw [h, Log.waits_report]
      exact hwaits
    · rw [h]
      exact hwaits

theorem Operation.Functional.watchful {operation : Operation} (h : operation.Functional) :
    operation.Watchful := by
  obtain ⟨f, ht, hplain⟩ := h
  have hne {context : Context} {args : List Argument} {dish : Dish} {log : Log} :
      (operation.transform context args dish log).1 ≠ .error (.fault .cancelled) := by
    rw [ht]
    change (f args dish).mapError Halt.fault ≠ _
    cases hr : f args dish with
    | error fault =>
      have hfault := (hplain args dish fault hr).ne_cancelled
      simpa using hfault
    | ok output => simp
  refine ⟨?_, ?_, ?_, ?_, ?_⟩
  · intro context args dish log
    rw [ht]
    exact .refl log
  · intro context args dish log hcancelled
    exact absurd hcancelled hne
  · intro context moment args dish log
    rw [ht]
    exact .inr (.inr rfl)
  · intro context args dish log n _ hlt hle
    rw [ht] at hle
    exact absurd hlt (Nat.not_lt.mpr hle)
  · intro context args dish log n _ _ hle
    rw [ht]
    exact hle

/-- A built-in operation that controls no flow is watchful. -/
theorem Registry.watchful_builtIn {name : String}
    (hf : (builtIn.operation name).descriptor.flowControl = false) :
    (builtIn.operation name).Watchful := by
  rcases operation_builtIn name with ⟨hmem, _⟩ | hnone
  · rcases mem_builtIn_functional hmem with hflow | ⟨_, hfunction | hpause⟩
    · have hflowControl := (Flow.mem_operations_cases hflow).1
      rw [hf] at hflowControl
      exact absurd hflowControl (by simp)
    · exact hfunction.watchful
    · rw [hpause]
      exact watchful_sleep
  · rw [hnone]
    exact (functional_bodiless name).watchful

/-! ## Baking a dish -/

namespace Operation

theorem bake_snd (operation : Operation) (context : Context) (args : List Argument) (dish : Dish)
    (log : Log) :
    (operation.bake context args dish log).2 =
      match dish.convert operation.descriptor.input with
      | .error _ => log
      | .ok input => (operation.transform context args input log).2 := by
  unfold Operation.bake
  cases dish.convert operation.descriptor.input with
  | error error => rfl
  | ok input =>
    dsimp only
    rcases operation.transform context args input log with ⟨halt | output, next⟩ <;> rfl

variable {operation : Operation} {context : Context} {args : List Argument} {dish : Dish}
  {log : Log}

private theorem bake_eq_cancelled_iff :
    (operation.bake context args dish log).1 = .error .cancelled ↔
      ∃ input, dish.convert operation.descriptor.input = .ok input ∧
        (operation.transform context args input log).1 = .error (.fault .cancelled) := by
  rw [bake_fst]
  cases dish.convert operation.descriptor.input with
  | error error => simp
  | ok input =>
    simp only [Except.ok.injEq, exists_eq_left']
    rcases (operation.transform context args input log).1 with (fault | text) | output
    · simp [Halt.contained]
    · simp [Halt.contained, Fault.broken]
    · dsimp only
      cases output.convert operation.descriptor.output <;> simp

/-- Baking a dish adds the events of the body. -/
theorem quiet_bake
    (h : ∀ input, Log.Quiet log (operation.transform context args input log).2) (dish : Dish) :
    Log.Quiet log (operation.bake context args dish log).2 := by
  rw [bake_snd]
  cases dish.convert operation.descriptor.input with
  | error error => exact .refl log
  | ok input => exact h input

theorem Watchful.quiet_bake (h : operation.Watchful) (context : Context) (args : List Argument)
    (dish : Dish) (log : Log) : Log.Quiet log (operation.bake context args dish log).2 :=
  Operation.quiet_bake (h.quiet context args · log) dish

theorem Watchful.isCancelled_bake (h : operation.Watchful) (context : Context)
    (args : List Argument) (dish : Dish) (log : Log)
    (hb : (operation.bake context args dish log).1 = .error .cancelled) :
    context.control.isCancelled (operation.bake context args dish log).2 = true := by
  obtain ⟨input, hinput, hcancelled⟩ := bake_eq_cancelled_iff.mp hb
  rw [bake_snd, hinput]
  exact h.isCancelled hcancelled

theorem Watchful.bake_cancelledAt (h : operation.Watchful) (context : Context)
    (moment : Option Moment) (args : List Argument) (dish : Dish) (log : Log) :
    (operation.bake context args dish log).1 = .error .cancelled ∨
      (operation.bake (context.cancelledAt moment) args dish log).1 = .error .cancelled ∨
      operation.bake (context.cancelledAt moment) args dish log =
        operation.bake context args dish log := by
  rw [bake_eq_cancelled_iff, bake_eq_cancelled_iff]
  cases hinput : dish.convert operation.descriptor.input with
  | error error =>
    right
    right
    simp only [Operation.bake, hinput]
  | ok input =>
    rcases h.cancelledAt context moment args input log with hc | hc | hsame
    · exact .inl ⟨input, rfl, hc⟩
    · exact .inr (.inl ⟨input, rfl, hc⟩)
    · right
      right
      simp only [Operation.bake, hinput, hsame]

theorem Watchful.lastWait_bake (h : operation.Watchful) (context : Context)
    (args : List Argument) (dish : Dish) {log : Log} {n : Nat}
    (hmoment : context.control.cancelAt = some (.wait n)) (hlt : log.waits < n)
    (hle : n ≤ (operation.bake context args dish log).2.waits) :
    (operation.bake context args dish log).1 = .error .cancelled := by
  rw [bake_snd] at hle
  cases hinput : dish.convert operation.descriptor.input with
  | error error =>
    rw [hinput] at hle
    exact absurd hlt (Nat.not_lt.mpr hle)
  | ok input =>
    rw [hinput] at hle
    exact bake_eq_cancelled_iff.mpr ⟨input, hinput, h.lastWait hmoment hlt hle⟩

theorem Watchful.waits_bake_le (h : operation.Watchful) (context : Context)
    (args : List Argument) (dish : Dish) {log : Log} {n : Nat}
    (hmoment : context.control.cancelAt = some (.wait n)) (hpos : 0 < n) (hle : log.waits ≤ n) :
    (operation.bake context args dish log).2.waits ≤ n := by
  rw [bake_snd]
  cases dish.convert operation.descriptor.input with
  | error error => exact hle
  | ok input => exact h.waits_le hmoment hpos hle

end Operation
end Kitchen
