import Kitchen.Proofs.Recipe.Waiting
import Kitchen.Proofs.Slot.Occupancy

/-!
# Bakes that share a slot

Bakes in a slot take turns: a bake runs until it takes a wait or ends, and while it stands at a wait
others are started, cancelled or go on. A bake that is superseded or cancelled while it stands at a
wait has nothing left but to end by the cancellation.
-/

namespace Kitchen

/-! ## Flights -/

/-- A bake in a slot that stands at a wait. -/
structure Flight where
  ticket : Nat
  recipe : Recipe
  input : Dish
  /-- What its host asks for, but for the cancellation, which is up to the slot. -/
  control : Control
  wait : Nat

namespace Flight

/-- The control under which the bake goes on: its slot has cancelled it at its wait, or not at
all. -/
def host (flight : Flight) (slot : Slot) : Control :=
  flight.control.cancelledAt
    (if flight.ticket ∈ slot.cancelled then some (.wait flight.wait) else none)

/-- The bake may go on to its next wait. -/
def GoesOn (flight : Flight) (slot : Slot) : Prop :=
  Registry.builtIn.ComesToWait flight.recipe flight.input (flight.host slot) (flight.wait + 1)

/-- The bake may go on to its end. -/
def EndsWith (flight : Flight) (slot : Slot) (result : Result) : Prop :=
  ∃ attempt, Registry.builtIn.Attempts flight.recipe flight.input (flight.host slot) attempt ∧
    attempt.log.waits = flight.wait ∧ attempt.result = result

/-- The bake came to its wait while nobody had cancelled it. -/
structure Waits (flight : Flight) : Prop where
  pos : 0 < flight.wait
  comesToWait : Registry.builtIn.ComesToWait flight.recipe flight.input
    (flight.control.cancelledAt none) flight.wait

variable {flight : Flight} {slot : Slot}

theorem host_of_cancelled (h : flight.ticket ∈ slot.cancelled) :
    flight.host slot = flight.control.cancelledAt (some (.wait flight.wait)) := by
  rw [host, if_pos h]

theorem host_of_uncancelled (h : flight.ticket ∉ slot.cancelled) :
    flight.host slot = flight.control.cancelledAt none := by
  rw [host, if_neg h]

theorem Waits.not_goesOn (hw : flight.Waits) (h : flight.ticket ∈ slot.cancelled) :
    ¬ flight.GoesOn slot := by
  rw [GoesOn, host_of_cancelled h]
  exact Registry.not_comesToWait_of_cancelled hw.pos

/-- Once it is cancelled, a bake that stands at a wait ends by the cancellation and in no other
way. -/
theorem Waits.endsWith_of_cancelled (hw : flight.Waits) (h : flight.ticket ∈ slot.cancelled) :
    (∃ result, flight.EndsWith slot result) ∧
      ∀ result, flight.EndsWith slot result → result.IsCancelled := by
  obtain ⟨attempt, hattempt, hcancelled, hwaits⟩ :=
    Registry.exists_attempts_of_comesToWait hw.pos hw.comesToWait
  rw [← host_of_cancelled h] at hattempt
  refine ⟨⟨_, attempt, hattempt, hwaits, rfl⟩, ?_⟩
  rintro result ⟨other, hother, _, rfl⟩
  rwa [← hattempt.unique hother]

end Flight

/-! ## Traffic -/

/-- A slot with the bakes that stand at a wait in it, and those that have ended, by their tickets. -/
structure Traffic where
  slot : Slot
  flights : List Flight
  ended : List (Nat × Result)

namespace Traffic

/-- A slot in which nothing has happened. -/
def empty : Traffic := ⟨.empty, [], []⟩

/-- The flights but for that of a ticket. -/
def others (traffic : Traffic) (ticket : Nat) : List Flight :=
  traffic.flights.filter fun flight => flight.ticket != ticket

/-- What can happen in a slot between two turns of its bakes. -/
inductive Step (traffic : Traffic) : Traffic → Prop where
  /-- A bake is started and comes to its first wait. -/
  | waits {recipe : Recipe} {input : Dish} {control : Control} :
      Registry.builtIn.ComesToWait recipe input (control.cancelledAt none) 1 →
      Step traffic
        { traffic with
          slot := traffic.slot.start
          flights := ⟨traffic.slot.nextTicket, recipe, input, control, 1⟩ :: traffic.flights }
  /-- A bake is started and ends without a wait. -/
  | passes {recipe : Recipe} {input : Dish} {control : Control} {attempt : Attempt} :
      Registry.builtIn.Attempts recipe input (control.cancelledAt none) attempt →
      attempt.log.waits = 0 →
      Step traffic
        { traffic with
          slot := traffic.slot.start.finish traffic.slot.nextTicket
          ended := (traffic.slot.nextTicket, attempt.result) :: traffic.ended }
  | goesOn {flight : Flight} : flight ∈ traffic.flights → flight.GoesOn traffic.slot →
      Step traffic
        { traffic with
          flights := { flight with wait := flight.wait + 1 } :: traffic.others flight.ticket }
  | ends {flight : Flight} {result : Result} : flight ∈ traffic.flights →
      flight.EndsWith traffic.slot result →
      Step traffic
        { slot := traffic.slot.finish flight.ticket
          flights := traffic.others flight.ticket
          ended := (flight.ticket, result) :: traffic.ended }
  | cancel : Step traffic { traffic with slot := traffic.slot.cancel }

/-- What the traffic in an empty slot becomes. -/
inductive Reachable : Traffic → Prop where
  | empty : Reachable empty
  | step {traffic next : Traffic} : Reachable traffic → Step traffic next → Reachable next

/-- The bakes that have not ended are those at a wait, and a cancelled bake has ended so. -/
structure Invariant (traffic : Traffic) : Prop where
  slot : traffic.slot.Reachable
  flying : ∀ ticket, ticket ∈ traffic.slot.running ↔
    ∃ flight ∈ traffic.flights, flight.ticket = ticket
  waiting : ∀ flight ∈ traffic.flights, flight.Waits
  ended_lt : ∀ ticket result, (ticket, result) ∈ traffic.ended → ticket < traffic.slot.nextTicket
  ended : ∀ ticket result, (ticket, result) ∈ traffic.ended → ticket ∉ traffic.slot.running
  isCancelled : ∀ ticket result, (ticket, result) ∈ traffic.ended →
    ticket ∈ traffic.slot.cancelled → result.IsCancelled

variable {traffic next : Traffic}

theorem mem_others {ticket : Nat} {flight : Flight} :
    flight ∈ traffic.others ticket ↔ flight ∈ traffic.flights ∧ flight.ticket ≠ ticket := by
  simp [others]

theorem invariant_empty : Invariant empty where
  slot := .empty
  flying ticket := by simp [empty, Slot.empty]
  waiting flight hmem := by simp [empty] at hmem
  ended_lt ticket result hmem := by simp [empty] at hmem
  ended ticket result hmem := by simp [empty] at hmem
  isCancelled ticket result hmem := by simp [empty] at hmem

namespace Invariant

/-- A bake that has ended is not cancelled any more. -/
theorem mem_cancelled_of_ended (h : traffic.Invariant) {ticket : Nat} {result : Result}
    (hmem : (ticket, result) ∈ traffic.ended) (hc : ticket ∈ traffic.slot.cancel.cancelled) :
    ticket ∈ traffic.slot.cancelled := by
  rcases Slot.mem_cancelled_cancel.mp hc with hcurrent | hcancelled
  · exact absurd (h.slot.invariant.running ticket hcurrent) (h.ended ticket result hmem)
  · exact hcancelled

theorem cancel (h : traffic.Invariant) :
    Invariant { traffic with slot := traffic.slot.cancel } where
  slot := h.slot.step (.cancel _)
  flying := h.flying
  waiting := h.waiting
  ended_lt := h.ended_lt
  ended := h.ended
  isCancelled ticket result hmem hc :=
    h.isCancelled ticket result hmem (h.mem_cancelled_of_ended hmem hc)

theorem waits (h : traffic.Invariant) {recipe : Recipe} {input : Dish} {control : Control}
    (hwaits : Registry.builtIn.ComesToWait recipe input (control.cancelledAt none) 1) :
    Invariant
      { traffic with
        slot := traffic.slot.start
        flights := ⟨traffic.slot.nextTicket, recipe, input, control, 1⟩ :: traffic.flights } where
  slot := h.slot.step (.start _)
  flying ticket := by
    simp only [Slot.start, List.mem_cons, exists_eq_or_imp, h.flying, eq_comm]
  waiting flight hmem := by
    rcases List.mem_cons.mp hmem with rfl | hmem
    · exact ⟨Nat.one_pos, hwaits⟩
    · exact h.waiting flight hmem
  ended_lt ticket result hmem := Nat.lt_succ_of_lt (h.ended_lt ticket result hmem)
  ended ticket result hmem hrunning := by
    rcases List.mem_cons.mp hrunning with rfl | hrunning
    · exact Nat.lt_irrefl _ (h.ended_lt _ result hmem)
    · exact h.ended ticket result hmem hrunning
  isCancelled ticket result hmem hc :=
    h.isCancelled ticket result hmem (h.mem_cancelled_of_ended hmem hc)

theorem passes (h : traffic.Invariant) (result : Result) :
    Invariant
      { traffic with
        slot := traffic.slot.start.finish traffic.slot.nextTicket
        ended := (traffic.slot.nextTicket, result) :: traffic.ended } where
  slot := (h.slot.step (.start _)).step (.finish List.mem_cons_self)
  flying ticket := by
    rw [← h.flying, Slot.mem_running_finish]
    constructor
    · rintro ⟨hrunning, hne⟩
      exact (List.mem_cons.mp hrunning).resolve_left hne
    · intro hrunning
      have hlt := h.slot.invariant.running_lt ticket hrunning
      exact ⟨List.mem_cons_of_mem _ hrunning, Nat.ne_of_lt hlt⟩
  waiting := h.waiting
  ended_lt ticket other hmem := by
    rcases List.mem_cons.mp hmem with heq | hmem
    · obtain ⟨rfl, rfl⟩ := Prod.mk.inj heq
      exact Nat.lt_succ_self _
    · exact Nat.lt_succ_of_lt (h.ended_lt ticket other hmem)
  ended ticket other hmem hrunning := by
    obtain ⟨hrunning, hne⟩ := Slot.mem_running_finish.mp hrunning
    rcases List.mem_cons.mp hmem with heq | hmem
    · exact hne (Prod.mk.inj heq).1
    · exact h.ended ticket other hmem ((List.mem_cons.mp hrunning).resolve_left hne)
  isCancelled ticket other hmem hc := by
    rcases List.mem_cons.mp hmem with heq | hmem
    · obtain ⟨rfl, rfl⟩ := Prod.mk.inj heq
      have hlt := h.cancel.slot.invariant.cancelled_lt _ hc
      exact absurd hlt (Nat.lt_irrefl _)
    · exact h.isCancelled ticket other hmem (h.mem_cancelled_of_ended hmem hc)

theorem goesOn (h : traffic.Invariant) {flight : Flight} (hmem : flight ∈ traffic.flights)
    (hgoes : flight.GoesOn traffic.slot) :
    Invariant
      { traffic with
        flights := { flight with wait := flight.wait + 1 } :: traffic.others flight.ticket } where
  slot := h.slot
  flying ticket := by
    rw [h.flying]
    constructor
    · rintro ⟨other, hother, rfl⟩
      by_cases hsame : other.ticket = flight.ticket
      · exact ⟨_, List.mem_cons_self, hsame.symm⟩
      · exact ⟨other, List.mem_cons_of_mem _ (mem_others.mpr ⟨hother, hsame⟩), rfl⟩
    · rintro ⟨other, hother, rfl⟩
      rcases List.mem_cons.mp hother with rfl | hother
      · exact ⟨flight, hmem, rfl⟩
      · exact ⟨other, (mem_others.mp hother).1, rfl⟩
  waiting other hother := by
    rcases List.mem_cons.mp hother with rfl | hother
    · by_cases hc : flight.ticket ∈ traffic.slot.cancelled
      · exact absurd hgoes ((h.waiting flight hmem).not_goesOn hc)
      · rw [Flight.GoesOn, Flight.host_of_uncancelled hc] at hgoes
        exact ⟨Nat.succ_pos _, hgoes⟩
    · exact h.waiting other (mem_others.mp hother).1
  ended_lt := h.ended_lt
  ended := h.ended
  isCancelled := h.isCancelled

theorem ends (h : traffic.Invariant) {flight : Flight} {result : Result}
    (hmem : flight ∈ traffic.flights) (hends : flight.EndsWith traffic.slot result) :
    Invariant
      { slot := traffic.slot.finish flight.ticket
        flights := traffic.others flight.ticket
        ended := (flight.ticket, result) :: traffic.ended } where
  slot := h.slot.step (.finish ((h.flying _).mpr ⟨flight, hmem, rfl⟩))
  flying ticket := by
    rw [Slot.mem_running_finish, h.flying]
    constructor
    · rintro ⟨⟨other, hother, rfl⟩, hne⟩
      exact ⟨other, mem_others.mpr ⟨hother, hne⟩, rfl⟩
    · rintro ⟨other, hother, rfl⟩
      obtain ⟨hother, hne⟩ := mem_others.mp hother
      exact ⟨⟨other, hother, rfl⟩, hne⟩
  waiting other hother := h.waiting other (mem_others.mp hother).1
  ended_lt ticket other hother := by
    rcases List.mem_cons.mp hother with heq | hother
    · obtain ⟨rfl, rfl⟩ := Prod.mk.inj heq
      exact h.slot.invariant.running_lt _ ((h.flying _).mpr ⟨flight, hmem, rfl⟩)
    · exact h.ended_lt ticket other hother
  ended ticket other hother hrunning := by
    obtain ⟨hrunning, hne⟩ := Slot.mem_running_finish.mp hrunning
    rcases List.mem_cons.mp hother with heq | hother
    · exact hne (Prod.mk.inj heq).1
    · exact h.ended ticket other hother hrunning
  isCancelled ticket other hother hc := by
    rcases List.mem_cons.mp hother with heq | hother
    · obtain ⟨rfl, rfl⟩ := Prod.mk.inj heq
      exact ((h.waiting flight hmem).endsWith_of_cancelled hc).2 _ hends
    · exact h.isCancelled ticket other hother hc

theorem step (h : traffic.Invariant) (hstep : traffic.Step next) : next.Invariant := by
  cases hstep with
  | waits hwaits => exact h.waits hwaits
  | passes _ _ => exact h.passes _
  | goesOn hmem hgoes => exact h.goesOn hmem hgoes
  | ends hmem hends => exact h.ends hmem hends
  | cancel => exact h.cancel

end Invariant

theorem Reachable.invariant (h : traffic.Reachable) : traffic.Invariant := by
  induction h with
  | empty => exact invariant_empty
  | step _ hstep ih => exact ih.step hstep

end Traffic

/-- However bakes are started, cancelled and ended in a slot, it holds at most the newest one, which
has then neither ended nor been cancelled, all others that have not ended are cancelled, it is busy
exactly while one of them is not, and a bake that ends late leaves a newer one in it. So a bake that
is superseded or cancelled at a wait has nothing left but to end, and ends by the cancellation. -/
theorem slot_holds_newest :
    (∀ slot : Slot, slot.Reachable →
      (∀ ticket, slot.current = some ticket → ticket + 1 = slot.nextTicket ∧
        ticket ∈ slot.running ∧ ticket ∉ slot.cancelled) ∧
      (∀ ticket ∈ slot.running, slot.current ≠ some ticket → ticket ∈ slot.cancelled) ∧
      (slot.isBusy = true ↔ ∃ ticket ∈ slot.running, ticket ∉ slot.cancelled) ∧
      ∀ older ∈ slot.running, ∀ newer, slot.current = some newer → older ≠ newer →
        (slot.finish older).current = some newer ∧
          (slot.finish older).cancelled = slot.cancelled) ∧
    ∀ traffic : Traffic, traffic.Reachable →
      traffic.slot.Reachable ∧
      (∀ flight ∈ traffic.flights, flight.ticket ∈ traffic.slot.cancelled →
        ¬ flight.GoesOn traffic.slot ∧ (∃ result, flight.EndsWith traffic.slot result) ∧
          ∀ result, flight.EndsWith traffic.slot result → result.IsCancelled) ∧
      ∀ ticket result, (ticket, result) ∈ traffic.ended → ticket ∈ traffic.slot.cancelled →
        result.IsCancelled := by
  refine ⟨fun slot hslot => ?_, fun traffic htraffic => ?_⟩
  · have h := hslot.invariant
    refine ⟨fun ticket hcurrent => ?_, h.superseded, h.isBusy_iff, ?_⟩
    · exact ⟨h.newest ticket hcurrent, h.running ticket hcurrent, h.uncancelled ticket hcurrent⟩
    · intro older _ newer hcurrent hne
      exact ⟨Slot.current_finish_of_ne hcurrent hne, rfl⟩
  · have h := htraffic.invariant
    refine ⟨h.slot, fun flight hmem hc => ?_, h.isCancelled⟩
    have hwaits := h.waiting flight hmem
    exact ⟨hwaits.not_goesOn hc, hwaits.endsWith_of_cancelled hc⟩

/-- A pause of one slice. -/
def Recipe.nap : Recipe := ⟨1, [⟨"Sleep", [.number (.ofNat 1)], false, false⟩], .default⟩

private theorem comesToWait_nap :
    Registry.builtIn.ComesToWait .nap (.string "x") (Control.default.cancelledAt none) 1 := by
  refine ⟨⟨.builtIn, [⟨0, "Sleep", [.number (.ofNat 1)], false, false⟩], .default⟩, _, 0, rfl, .start,
    by decide, ?_⟩
  decide +kernel

/-- The pause, standing at its wait. -/
def Flight.nap (ticket : Nat) : Flight := ⟨ticket, .nap, .string "x", .default, 1⟩

/-- The first of two pauses is superseded by the second and ends by the cancellation. -/
theorem slot_holds_newest_naps :
    ∃ traffic result, Traffic.Reachable traffic ∧ (0, result) ∈ traffic.ended ∧
      0 ∈ traffic.slot.cancelled ∧ traffic.slot.current = some 1 ∧ result.IsCancelled := by
  have htwo : Traffic.Reachable ⟨⟨2, some 1, [1, 0], [0]⟩, [.nap 1, .nap 0], []⟩ :=
    (Traffic.Reachable.empty.step (.waits comesToWait_nap)).step (.waits comesToWait_nap)
  have hmem : Flight.nap 0 ∈ [.nap 1, .nap 0] := List.mem_cons_of_mem _ List.mem_cons_self
  obtain ⟨_, ⟨result, hends⟩, _⟩ := (slot_holds_newest.2 _ htwo).2.1 (.nap 0) hmem List.mem_cons_self
  have hended : Traffic.Reachable ⟨⟨2, some 1, [1], [0]⟩, [.nap 1], [(0, result)]⟩ :=
    htwo.step (.ends hmem hends)
  refine ⟨_, result, hended, List.mem_cons_self, List.mem_cons_self, rfl, ?_⟩
  exact (slot_holds_newest.2 _ hended).2.2 0 result List.mem_cons_self List.mem_cons_self

end Kitchen
