import Kitchen.Batch
import Kitchen.Proofs.Metrics.Postings
import Kitchen.Proofs.Recipe.Preparation
import Kitchen.Proofs.Run.Thread
import Mathlib.Algebra.GroupWithZero.Nat
import Mathlib.Algebra.Order.BigOperators.Group.List
import Mathlib.Data.List.Forall2

/-!
# Interleaved batches

A batch spawns a task for each input. The tasks take their steps in any order, one task at a time: it
makes the recipe ready, steps its thread, or ends its bake, and enters at most one posting in the
metrics that all tasks share. No step reads anything of another task. So each task comes to what the
bake of its input comes to on its own, and it has then posted what that bake would have posted; as
postings only raise counters, these come to the same sums in whatever order the tasks have run.
-/

namespace Kitchen

/-! ## Tasks -/

/-- The bake of one input of a batch. -/
inductive Task where
  | spawned (input : Dish)
  | running (plan : Plan) (thread : Thread)
  | done (result : Result)

/-- A step of a task, with what it enters in the metrics. -/
inductive Task.Step (registry : Registry) (recipe : Recipe) : Task → Option Posting → Task → Prop where
  | misfits {failure : Failure} (input : Dish) : registry.prepare recipe = .error failure →
      Step registry recipe (.spawned input) (some (.failure failure)) (.done (.error failure))
  | begins {plan : Plan} (input : Dish) : registry.prepare recipe = .ok plan →
      Step registry recipe (.spawned input) none (.running plan (plan.firstThread input .default))
  | advances {plan : Plan} {thread next : Thread} {call : Option String} (time : Nanoseconds) :
      plan.advance thread = some (next, call) →
      Step registry recipe (.running plan thread) (call.map (.call · time)) (.running plan next)
  | ends (plan : Plan) (finished : SectionEnd) (time : Nanoseconds) :
      Step registry recipe (.running plan ⟨.ended finished, []⟩)
        (some (.ofResult time (finished.toResult plan.options)))
        (.done (finished.toResult plan.options))

/-- One of some tasks takes a step. -/
inductive Task.OneSteps (registry : Registry) (recipe : Recipe) :
    List Task → Option Posting → List Task → Prop where
  | here {task next : Task} {posting : Option Posting} (rest : List Task) :
      task.Step registry recipe posting next →
      OneSteps registry recipe (task :: rest) posting (next :: rest)
  | there {rest next : List Task} {posting : Option Posting} (task : Task) :
      OneSteps registry recipe rest posting next →
      OneSteps registry recipe (task :: rest) posting (task :: next)

/-! ## Batches -/

/-- The tasks of a batch and the metrics that they share. -/
structure Batch where
  metrics : Metrics
  tasks : List Task

namespace Batch

/-- A step of a batch: a step of one of its tasks. -/
inductive Step (registry : Registry) (recipe : Recipe) : Batch → Batch → Prop where
  | task {tasks next : List Task} {posting : Option Posting} (metrics : Metrics) :
      Task.OneSteps registry recipe tasks posting next →
      Step registry recipe ⟨metrics, tasks⟩ ⟨posting.elim metrics metrics.post, next⟩

/-- What a batch may come to in a number of steps. -/
inductive Runs (registry : Registry) (recipe : Recipe) (start : Batch) : Nat → Batch → Prop where
  | start : Runs registry recipe start 0 start
  | step {n : Nat} {batch next : Batch} : Runs registry recipe start n batch →
      Step registry recipe batch next → Runs registry recipe start (n + 1) next

/-- All tasks are done, with some results. -/
def Returns (batch : Batch) (results : List Result) : Prop := batch.tasks = results.map .done

end Batch

namespace Chef

/-- The batch that the chef starts on some inputs. -/
def spawn (chef : Chef) (inputs : List Dish) : Batch := ⟨chef.metrics, inputs.map .spawned⟩

/-- The results are those of the separate bakes of the inputs, in their order, and each counter has
been raised by the sum of what it comes to if a chef who has not baked yet counts one of the bakes. -/
def BakesEach (chef : Chef) (recipe : Recipe) (inputs : List Dish) (results : List Result)
    (metrics : Metrics) : Prop :=
  ∃ attempts, List.Forall₂ (chef.registry.Attempts recipe · .default) inputs attempts ∧
    results = attempts.map (·.result) ∧
    ∀ counter : Counter, counter.read metrics = counter.read chef.metrics +
      (attempts.map fun attempt => counter.read ((new chef.registry).count attempt).metrics).sum

end Chef

/-! ## Isolation -/

/-- By how much a step raises a counter. -/
def Counter.raisedBy (posting : Option Posting) (counter : Counter) : Nat :=
  posting.elim 0 (·.raises counter)

theorem Metrics.Ordered.elim_post {metrics : Metrics} (h : metrics.Ordered)
    (posting : Option Posting) : (posting.elim metrics metrics.post).Ordered := by
  cases posting with
  | none => exact h
  | some posting => exact h.post posting

theorem Metrics.read_elim_post {metrics : Metrics} (h : metrics.Ordered) (posting : Option Posting)
    (counter : Counter) :
    counter.read (posting.elim metrics metrics.post) =
      counter.read metrics + counter.raisedBy posting := by
  cases posting with
  | none => rfl
  | some posting => exact read_post h posting counter

/-- What a chef who has not baked yet counts of a bake. -/
theorem Chef.read_count_new (registry : Registry) (result : Result) (log : Log) (counter : Counter) :
    counter.read ((new registry).count ⟨result, log, true⟩).metrics =
      counter.calledIn log.operations + (Posting.ofResult 0 result).raises counter := by
  refine (Metrics.read_addAttempt Metrics.ordered_zero result log counter).trans ?_
  rw [Metrics.read_zero, Nat.zero_add]

namespace Task

/-- What has happened to the task of an input, and by how much its postings have raised each counter:
its thread comes to nothing but what the bake of the input comes to, and it has posted all calls that
it does not owe. -/
inductive Sound (registry : Registry) (recipe : Recipe) (input : Dish) (posted : Counter → Nat) :
    Task → Prop where
  | spawned : (∀ counter, posted counter = 0) → Sound registry recipe input posted (.spawned input)
  | running {plan : Plan} {thread : Thread} {called : List String} :
      registry.prepare recipe = .ok plan →
      (∀ final, plan.ThreadEnds thread final →
        plan.EndsAt (plan.firstStage input .default) final) →
      (called ++ thread.owed).Perm thread.focus.log.operations →
      (∀ counter, posted counter = counter.calledIn called) →
      Sound registry recipe input posted (.running plan thread)
  | done {result : Result} {log : Log} :
      registry.Attempts recipe input .default ⟨result, log, true⟩ →
      (∀ counter, posted counter =
        counter.read ((Chef.new registry).count ⟨result, log, true⟩).metrics) →
      Sound registry recipe input posted (.done result)

variable {registry : Registry} {recipe : Recipe} {input : Dish} {posted : Counter → Nat}
  {task next : Task} {posting : Option Posting}

/-- The calls that are posted and owed after a step are those before it and those of the step. -/
private theorem perm_of_advance {plan : Plan} {thread next : Thread} {call : Option String}
    {called : List String} (hq : plan.registry.Quiet)
    (hadvance : plan.advance thread = some (next, call))
    (hcalled : (called ++ thread.owed).Perm thread.focus.log.operations) :
    (called ++ call.toList ++ next.owed).Perm next.focus.log.operations := by
  have hstep := (Plan.advances_of_advance hadvance).operations hq
  rw [List.perm_iff_count] at hstep hcalled ⊢
  intro name
  have hname := hstep name
  have hbefore := hcalled name
  simp only [List.count_append] at hname hbefore ⊢
  omega

theorem Sound.step (h : task.Sound registry recipe input posted) (hq : registry.Quiet)
    (hstep : task.Step registry recipe posting next) :
    next.Sound registry recipe input fun counter => posted counter + counter.raisedBy posting := by
  cases hstep with
  | misfits _ hp =>
    cases h with
    | spawned hzero =>
      refine .done ((Registry.attempts_iff_of_error hp).mpr rfl) fun counter => ?_
      rw [Chef.read_count_new, hzero]
      exact congrArg (· + _) (counter.calledIn_nil).symm
  | @begins plan _ hp =>
    cases h with
    | spawned hzero =>
      have hends : ∀ final, plan.ThreadEnds (plan.firstThread input .default) final →
          plan.EndsAt (plan.firstStage input .default) final := by
        rintro final ⟨finished, hfinished, rfl⟩
        exact hfinished
      have hcalled : (([] : List String) ++ (plan.firstThread input .default).owed).Perm
          (plan.firstThread input .default).focus.log.operations := .refl _
      refine .running hp hends hcalled fun counter => ?_
      rw [hzero, Counter.calledIn_nil]
      rfl
  | @advances plan thread next call time hadvance =>
    cases h with
    | @running _ _ called hp hends hcalled hposted =>
      -- A call that the thread makes moves from those that it owes to those that it has posted.
      have hquiet : plan.registry.Quiet := (Registry.prepare_eq_ok hp).2.1.symm ▸ hq
      have hends' : ∀ final, plan.ThreadEnds next final →
          plan.EndsAt (plan.firstStage input .default) final := fun final hfinal =>
        hends final ((Plan.advances_of_advance hadvance).threadEnds hfinal)
      refine .running hp hends' (perm_of_advance hquiet hadvance hcalled) fun counter => ?_
      rw [hposted, Counter.calledIn_append]
      cases call with
      | none => exact congrArg (_ + ·) counter.calledIn_nil.symm
      | some operation => rfl
  | ends plan finished time =>
    cases h with
    | @running _ _ called hp hends hcalled hposted =>
      have hfinished := hends finished ⟨finished, rfl, rfl⟩
      have hcalled' : called.Perm finished.log.operations := by
        rwa [show Thread.owed ⟨.ended finished, []⟩ = [] from rfl, List.append_nil] at hcalled
      refine .done ((Registry.attempts_iff hp).mpr ⟨finished, hfinished, rfl⟩) fun counter => ?_
      rw [Chef.read_count_new, hposted, Counter.calledIn_perm hcalled', ← Posting.raises_ofResult time]
      rfl

/-- What has happened to the tasks of some inputs, and by how much all their postings have raised each
counter. -/
inductive AllSound (registry : Registry) (recipe : Recipe) :
    List Dish → List Task → (Counter → Nat) → Prop where
  | nil {posted : Counter → Nat} : (∀ counter, posted counter = 0) →
      AllSound registry recipe [] [] posted
  | cons {input : Dish} {inputs : List Dish} {task : Task} {tasks : List Task}
      {posted first others : Counter → Nat} : task.Sound registry recipe input first →
      AllSound registry recipe inputs tasks others →
      (∀ counter, posted counter = first counter + others counter) →
      AllSound registry recipe (input :: inputs) (task :: tasks) posted

theorem allSound_spawned (registry : Registry) (recipe : Recipe) (inputs : List Dish) :
    AllSound registry recipe inputs (inputs.map .spawned) fun _ => 0 := by
  induction inputs with
  | nil => exact .nil fun _ => rfl
  | cons input inputs ih => exact .cons (.spawned fun _ => rfl) ih fun _ => rfl

theorem AllSound.step {inputs : List Dish} {tasks next : List Task}
    (h : AllSound registry recipe inputs tasks posted) (hq : registry.Quiet)
    (hstep : OneSteps registry recipe tasks posting next) :
    AllSound registry recipe inputs next fun counter =>
      posted counter + counter.raisedBy posting := by
  induction hstep generalizing inputs posted with
  | here rest hstep =>
    cases h with
    | cons hfirst hothers hsum =>
      refine .cons (hfirst.step hq hstep) hothers fun counter => ?_
      rw [hsum]
      omega
  | there task _ ih =>
    cases h with
    | cons hfirst hothers hsum =>
      refine .cons hfirst (ih hothers) fun counter => ?_
      rw [hsum]
      omega

/-- Tasks that are done have come to the results of the separate bakes. -/
theorem AllSound.exists_attempts {inputs : List Dish} {results : List Result}
    (h : AllSound registry recipe inputs (results.map .done) posted) :
    ∃ attempts, List.Forall₂ (registry.Attempts recipe · .default) inputs attempts ∧
      results = attempts.map (·.result) ∧
      ∀ counter, posted counter = (attempts.map fun attempt =>
        counter.read ((Chef.new registry).count attempt).metrics).sum := by
  induction results generalizing inputs posted with
  | nil =>
    cases h with
    | nil hzero => exact ⟨[], .nil, rfl, hzero⟩
  | cons result results ih =>
    cases h with
    | cons hfirst hothers hsum =>
      obtain ⟨attempts, hattempts, hresults, hposted⟩ := ih hothers
      cases hfirst with
      | done hattempt hfirst =>
        refine ⟨_ :: attempts, .cons hattempt hattempts, congrArg _ hresults, fun counter => ?_⟩
        rw [hsum, hfirst, hposted, List.map_cons, List.sum_cons]

end Task

namespace Batch

variable {registry : Registry} {recipe : Recipe} {inputs : List Dish} {metrics : Metrics}
  {start batch next : Batch}

/-- What has happened to a batch: its tasks are sound, and the counters have been raised by their
postings. -/
structure Invariant (registry : Registry) (recipe : Recipe) (inputs : List Dish)
    (initial : Metrics) (batch : Batch) : Prop where
  ordered : batch.metrics.Ordered
  sound : ∃ posted, Task.AllSound registry recipe inputs batch.tasks posted ∧
    ∀ counter : Counter, counter.read batch.metrics = counter.read initial + posted counter

theorem Invariant.step (h : batch.Invariant registry recipe inputs metrics) (hq : registry.Quiet)
    (hstep : batch.Step registry recipe next) : next.Invariant registry recipe inputs metrics := by
  cases hstep with
  | @task _ _ posting _ hstep =>
    obtain ⟨hordered, posted, hsound, hread⟩ := h
    refine ⟨hordered.elim_post posting, _, hsound.step hq hstep, fun counter => ?_⟩
    rw [Metrics.read_elim_post hordered, hread, Nat.add_assoc]

theorem Runs.invariant {chef : Chef} {n : Nat} (h : Runs chef.registry recipe (chef.spawn inputs) n batch)
    (hq : chef.registry.Quiet) (hordered : chef.metrics.Ordered) :
    batch.Invariant chef.registry recipe inputs chef.metrics := by
  induction h with
  | start => exact ⟨hordered, _, Task.allSound_spawned chef.registry recipe inputs, fun _ => rfl⟩
  | step _ hstep ih => exact ih.step hq hstep

end Batch

/-! ## Ends of batches -/

namespace Task

variable {registry : Registry} {recipe : Recipe} {task next : Task} {posting : Option Posting}
  {n : Nat}

/-- The task is done after a number of steps. -/
inductive Lasts (registry : Registry) (recipe : Recipe) : Nat → Task → Prop where
  | done (result : Result) : Lasts registry recipe 0 (.done result)
  | running {plan : Plan} {thread : Thread} {n : Nat} : plan.Lasts n thread →
      Lasts registry recipe (n + 1) (.running plan thread)
  | fits {plan : Plan} {input : Dish} {n : Nat} : registry.prepare recipe = .ok plan →
      plan.Lasts n (plan.firstThread input .default) →
      Lasts registry recipe (n + 2) (.spawned input)
  | misfits {failure : Failure} (input : Dish) : registry.prepare recipe = .error failure →
      Lasts registry recipe 1 (.spawned input)

theorem exists_lasts {input : Dish} {attempt : Attempt}
    (h : registry.Attempts recipe input .default attempt) :
    ∃ n, Lasts registry recipe n (.spawned input) := by
  cases hp : registry.prepare recipe with
  | error failure => exact ⟨1, .misfits input hp⟩
  | ok plan =>
    obtain ⟨finished, hends, _⟩ := (Registry.attempts_iff hp).mp h
    obtain ⟨n, hn⟩ := Plan.exists_lasts_firstThread hends
    exact ⟨n + 2, .fits hp hn⟩

theorem Lasts.step (h : task.Lasts registry recipe n)
    (hstep : task.Step registry recipe posting next) :
    ∃ m, n = m + 1 ∧ next.Lasts registry recipe m := by
  cases h with
  | done => cases hstep
  | running hlasts =>
    cases hstep with
    | advances _ hadvance =>
      cases hlasts with
      | ended finished => simp [Plan.advance] at hadvance
      | step hadvance' hlasts =>
        obtain ⟨rfl, rfl⟩ := Prod.mk.inj (Option.some.inj (hadvance.symm.trans hadvance'))
        exact ⟨_, rfl, .running hlasts⟩
    | ends plan finished time =>
      cases hlasts with
      | ended => exact ⟨0, rfl, .done _⟩
      | step hadvance _ => simp [Plan.advance] at hadvance
  | fits hp hlasts =>
    cases hstep with
    | misfits _ hp' =>
      rw [hp] at hp'
      exact absurd hp' (by simp)
    | begins _ hp' =>
      obtain rfl := Except.ok.inj (hp.symm.trans hp')
      exact ⟨_, rfl, .running hlasts⟩
  | misfits _ hp =>
    cases hstep with
    | misfits => exact ⟨0, rfl, .done _⟩
    | begins _ hp' =>
      rw [hp] at hp'
      exact absurd hp' (by simp)

/-- A task that is not done can take a step. -/
theorem done_or_step (registry : Registry) (recipe : Recipe) (task : Task) :
    (∃ result, task = .done result) ∨ ∃ posting next, task.Step registry recipe posting next := by
  cases task with
  | spawned input =>
    cases hp : registry.prepare recipe with
    | error failure => exact .inr ⟨_, _, .misfits input hp⟩
    | ok plan => exact .inr ⟨_, _, .begins input hp⟩
  | running plan thread =>
    rcases plan.exists_advance thread with ⟨finished, rfl⟩ | ⟨next, call, hadvance⟩
    · exact .inr ⟨_, _, .ends plan finished 0⟩
    · exact .inr ⟨_, _, .advances 0 hadvance⟩
  | done result => exact .inl ⟨result, rfl⟩

/-- The tasks are done after a number of steps of them all. -/
inductive AllLast (registry : Registry) (recipe : Recipe) : Nat → List Task → Prop where
  | nil : AllLast registry recipe 0 []
  | cons {n m : Nat} {task : Task} {tasks : List Task} : task.Lasts registry recipe n →
      AllLast registry recipe m tasks → AllLast registry recipe (n + m) (task :: tasks)

theorem exists_allLast {inputs : List Dish} {attempts : List Attempt}
    (h : List.Forall₂ (registry.Attempts recipe · .default) inputs attempts) :
    ∃ n, AllLast registry recipe n (inputs.map .spawned) := by
  induction h with
  | nil => exact ⟨0, .nil⟩
  | cons hattempt _ ih =>
    obtain ⟨n, hn⟩ := exists_lasts hattempt
    obtain ⟨m, hm⟩ := ih
    exact ⟨n + m, .cons hn hm⟩

theorem AllLast.step {tasks next : List Task} (h : AllLast registry recipe n tasks)
    (hstep : OneSteps registry recipe tasks posting next) :
    ∃ m, n = m + 1 ∧ AllLast registry recipe m next := by
  induction hstep generalizing n with
  | here rest hstep =>
    cases h with
    | @cons _ left _ _ hfirst hothers =>
      obtain ⟨m, rfl, hm⟩ := hfirst.step hstep
      exact ⟨m + left, Nat.add_right_comm m 1 left, .cons hm hothers⟩
  | there task _ ih =>
    cases h with
    | @cons left _ _ _ hfirst hothers =>
      obtain ⟨m, rfl, hm⟩ := ih hothers
      exact ⟨left + m, (Nat.add_assoc left m 1).symm, .cons hfirst hm⟩

/-- Tasks are done once nothing is left of them. -/
theorem AllLast.done_iff {tasks : List Task} (h : AllLast registry recipe n tasks) :
    (∃ results : List Result, tasks = results.map .done) ↔ n = 0 := by
  induction h with
  | nil => exact ⟨fun _ => rfl, fun _ => ⟨[], rfl⟩⟩
  | @cons n m task tasks hfirst _ ih =>
    constructor
    · rintro ⟨_ | ⟨result, results⟩, hdone⟩
      · simp at hdone
      · obtain ⟨rfl, hrest⟩ := List.cons.inj hdone
        obtain rfl := ih.mp ⟨results, hrest⟩
        cases hfirst
        rfl
    · intro hzero
      obtain ⟨rfl, rfl⟩ : n = 0 ∧ m = 0 := by omega
      obtain ⟨results, rfl⟩ := ih.mpr rfl
      cases hfirst with
      | done result => exact ⟨result :: results, rfl⟩

theorem all_done_or_step (registry : Registry) (recipe : Recipe) (tasks : List Task) :
    (∃ results : List Result, tasks = results.map .done) ∨
      ∃ posting next, OneSteps registry recipe tasks posting next := by
  induction tasks with
  | nil => exact .inl ⟨[], rfl⟩
  | cons task tasks ih =>
    rcases task.done_or_step registry recipe with ⟨result, rfl⟩ | ⟨posting, next, hstep⟩
    · rcases ih with ⟨results, rfl⟩ | ⟨posting, next, hstep⟩
      · exact .inl ⟨result :: results, rfl⟩
      · exact .inr ⟨posting, _, .there _ hstep⟩
    · exact .inr ⟨posting, _, .here tasks hstep⟩

end Task

/-! ## One bake after another -/

/-- Of bakes one after another each is the bake of its input, and all of them are counted. -/
theorem Chef.bakeBatch_eq_some {chef last : Chef} {fuel : Nat} {recipe : Recipe} {inputs : List Dish}
    {results : List Result} :
    chef.bakeBatch fuel recipe inputs = some (results, last) ↔ ∃ attempts,
      List.Forall₂ (chef.registry.bake fuel recipe · .default = some ·) inputs attempts ∧
      results = attempts.map (·.result) ∧ last = attempts.foldl count chef := by
  constructor
  · intro h
    induction inputs generalizing chef results with
    | nil =>
      obtain ⟨rfl, rfl⟩ : [] = results ∧ chef = last := by simpa [bakeBatch] using h
      exact ⟨[], .nil, rfl, rfl⟩
    | cons input inputs ih =>
      rw [bakeBatch, bake] at h
      cases hbake : chef.registry.bake fuel recipe input .default with
      | none => simp [hbake] at h
      | some attempt =>
        rw [hbake] at h
        obtain ⟨⟨rest, left⟩, hrest, heq⟩ := Option.map_eq_some_iff.mp h
        obtain ⟨rfl, rfl⟩ := Prod.mk.inj heq
        obtain ⟨attempts, hattempts, rfl, rfl⟩ := ih hrest
        exact ⟨attempt :: attempts, .cons hbake hattempts, rfl, rfl⟩
  · rintro ⟨attempts, hbakes, rfl, rfl⟩
    induction inputs generalizing chef attempts with
    | nil =>
      cases hbakes
      rfl
    | cons input inputs ih =>
      cases hbakes with
      | @cons _ attempt _ attempts hbake hbakes =>
        have hrest := @ih (chef.count attempt) attempts hbakes
        rw [bakeBatch, bake, hbake]
        exact congrArg (Option.map _) hrest

theorem Registry.bake_mono {registry : Registry} {fuel fuel' : Nat} (hle : fuel ≤ fuel')
    {recipe : Recipe} {input : Dish} {control : Control} {attempt : Attempt}
    (h : registry.bake fuel recipe input control = some attempt) :
    registry.bake fuel' recipe input control = some attempt := by
  unfold bake at h ⊢
  cases hp : registry.prepare recipe with
  | error failure => rwa [hp] at h
  | ok plan =>
    rw [hp] at h
    obtain ⟨finished, hrun, rfl⟩ := Option.map_eq_some_iff.mp h
    exact Option.map_eq_some_iff.mpr ⟨finished, Plan.runFrom_mono plan hle hrun, rfl⟩

/-- If the separate bakes end, they end one after another. -/
theorem Chef.exists_bakeBatch {chef : Chef} {recipe : Recipe} {inputs : List Dish}
    {attempts : List Attempt}
    (h : List.Forall₂ (chef.registry.Attempts recipe · .default) inputs attempts) :
    ∃ fuel last, chef.bakeBatch fuel recipe inputs = some (attempts.map (·.result), last) := by
  have hfuel : ∃ fuel,
      List.Forall₂ (chef.registry.bake fuel recipe · .default = some ·) inputs attempts := by
    induction h with
    | nil => exact ⟨0, .nil⟩
    | cons hattempt _ ih =>
      obtain ⟨n, hn⟩ := hattempt
      obtain ⟨m, hm⟩ := ih
      exact ⟨max n m, .cons (Registry.bake_mono (Nat.le_max_left n m) hn)
        (hm.imp fun _ _ => Registry.bake_mono (Nat.le_max_right n m))⟩
  obtain ⟨fuel, hbakes⟩ := hfuel
  exact ⟨fuel, _, bakeBatch_eq_some.mpr ⟨attempts, hbakes, rfl, rfl⟩⟩

private theorem Registry.counted_of_bake {registry : Registry} {fuel : Nat} {recipe : Recipe}
    {input : Dish} {control : Control} {attempt : Attempt}
    (h : registry.bake fuel recipe input control = some attempt) : attempt.counted = true := by
  have hattempt : registry.Attempts recipe input control attempt := ⟨fuel, h⟩
  cases hp : registry.prepare recipe with
  | error failure => rw [(attempts_iff_of_error hp).mp hattempt]
  | ok plan =>
    obtain ⟨finished, _, rfl⟩ := (attempts_iff hp).mp hattempt
    rfl

private theorem Chef.read_foldl_count {attempts : List Attempt} {chef : Chef}
    (hordered : chef.metrics.Ordered) (hcounted : ∀ attempt ∈ attempts, attempt.counted = true)
    (counter : Counter) :
    counter.read (attempts.foldl count chef).metrics = counter.read chef.metrics +
      (attempts.map fun attempt => counter.read ((new chef.registry).count attempt).metrics).sum := by
  induction attempts generalizing chef with
  | nil => rfl
  | cons attempt attempts ih =>
    obtain ⟨result, log, counted⟩ := attempt
    obtain rfl : counted = true := hcounted _ List.mem_cons_self
    have hnext : (chef.count ⟨result, log, true⟩).metrics.Ordered :=
      hordered.addAttempt ⟨result, log, true⟩
    have hrest := ih hnext fun attempt hmem => hcounted attempt (List.mem_cons_of_mem _ hmem)
    rw [List.foldl_cons, hrest, count, Metrics.read_addAttempt hordered, List.map_cons,
      List.sum_cons, read_count_new]
    dsimp only
    omega

/-- Bakes one after another come to the separate bakes. -/
theorem Chef.bakesEach_bakeBatch {chef last : Chef} {fuel : Nat} {recipe : Recipe}
    {inputs : List Dish} {results : List Result} (hordered : chef.metrics.Ordered)
    (h : chef.bakeBatch fuel recipe inputs = some (results, last)) :
    chef.BakesEach recipe inputs results last.metrics := by
  obtain ⟨attempts, hbakes, hresults, rfl⟩ := bakeBatch_eq_some.mp h
  have hcounted : ∀ attempt ∈ attempts, attempt.counted = true := by
    clear h hresults
    induction hbakes with
    | nil => simp
    | cons hbake _ ih =>
      exact List.forall_mem_cons.mpr ⟨Registry.counted_of_bake hbake, ih⟩
  exact ⟨attempts, hbakes.imp fun _ _ hbake => ⟨fuel, hbake⟩, hresults,
    read_foldl_count hordered hcounted⟩

/-! ## Every order of steps -/

/-- The separate bakes settle the results and the counters. -/
theorem Chef.BakesEach.unique {chef : Chef} {recipe : Recipe} {inputs : List Dish}
    {results results' : List Result} {metrics metrics' : Metrics}
    (h : chef.BakesEach recipe inputs results metrics)
    (h' : chef.BakesEach recipe inputs results' metrics') :
    results = results' ∧ ∀ counter : Counter, counter.read metrics = counter.read metrics' := by
  obtain ⟨attempts, hattempts, rfl, hread⟩ := h
  obtain ⟨attempts', hattempts', rfl, hread'⟩ := h'
  have hunique : Relator.RightUnique (chef.registry.Attempts recipe · .default) :=
    fun _ _ _ => Registry.Attempts.unique
  obtain rfl := hunique.forall₂ hattempts hattempts'
  exact ⟨rfl, fun counter => (hread counter).trans (hread' counter).symm⟩

namespace Batch

variable {registry : Registry} {recipe : Recipe} {start batch : Batch} {length n : Nat}

theorem returns_or_step (registry : Registry) (recipe : Recipe) (batch : Batch) :
    (∃ results, batch.Returns results) ∨ ∃ next, batch.Step registry recipe next := by
  rcases Task.all_done_or_step registry recipe batch.tasks with hdone | ⟨_, _, hstep⟩
  · exact .inl hdone
  · exact .inr ⟨_, .task batch.metrics hstep⟩

/-- Of the steps that the tasks last, those that are left have not been taken yet. -/
private theorem Runs.allLast (h : Runs registry recipe start n batch)
    (hstart : Task.AllLast registry recipe length start.tasks) :
    ∃ left, length = n + left ∧ Task.AllLast registry recipe left batch.tasks := by
  induction h with
  | start => exact ⟨length, (Nat.zero_add _).symm, hstart⟩
  | step _ hstep ih =>
    obtain ⟨left, rfl, hleft⟩ := ih
    cases hstep with
    | task _ hstep =>
      obtain ⟨m, rfl, hm⟩ := hleft.step hstep
      exact ⟨m, by omega, hm⟩

theorem Runs.returns_iff (h : Runs registry recipe start n batch)
    (hstart : Task.AllLast registry recipe length start.tasks) :
    n ≤ length ∧ ((∃ results, batch.Returns results) ↔ n = length) := by
  obtain ⟨left, rfl, hleft⟩ := h.allLast hstart
  exact ⟨Nat.le_add_right n left, hleft.done_iff.trans (by omega)⟩

/-- A batch whose tasks last a number of steps can take as many. -/
theorem exists_runs (hstart : Task.AllLast registry recipe length start.tasks) :
    ∃ batch results, Runs registry recipe start length batch ∧ batch.Returns results := by
  have hruns : ∀ n ≤ length, ∃ batch, Runs registry recipe start n batch := by
    intro n hle
    induction n with
    | zero => exact ⟨start, .start⟩
    | succ n ih =>
      obtain ⟨batch, hbatch⟩ := ih (Nat.le_of_succ_le hle)
      rcases batch.returns_or_step registry recipe with hreturns | ⟨next, hnext⟩
      · have hlength := (hbatch.returns_iff hstart).2.mp hreturns
        omega
      · exact ⟨next, hbatch.step hnext⟩
  obtain ⟨batch, hbatch⟩ := hruns length (Nat.le_refl _)
  obtain ⟨results, hresults⟩ := (hbatch.returns_iff hstart).2.mpr rfl
  exact ⟨batch, results, hbatch, hresults⟩

end Batch

/-- However the tasks of a batch are interleaved, a batch whose tasks are all done has come to the
separate bakes of its inputs, and until then one of them can go on. If the separate bakes end, every
order of steps leads there in the same number of steps. Bakes one after another are no different. -/
theorem Chef.batch_bakesEach (chef : Chef) (hq : chef.registry.Quiet)
    (hordered : chef.metrics.Ordered) (recipe : Recipe) (inputs : List Dish) :
    (∀ n batch, Batch.Runs chef.registry recipe (chef.spawn inputs) n batch →
      (∀ results, batch.Returns results → chef.BakesEach recipe inputs results batch.metrics) ∧
      ((∃ results, batch.Returns results) ∨ ∃ next, batch.Step chef.registry recipe next)) ∧
    (∀ fuel results last, chef.bakeBatch fuel recipe inputs = some (results, last) →
      chef.BakesEach recipe inputs results last.metrics) ∧
    ∀ attempts, List.Forall₂ (chef.registry.Attempts recipe · .default) inputs attempts →
      (∃ fuel last, chef.bakeBatch fuel recipe inputs = some (attempts.map (·.result), last)) ∧
      ∃ length,
        (∃ batch results, Batch.Runs chef.registry recipe (chef.spawn inputs) length batch ∧
          batch.Returns results) ∧
        ∀ n batch, Batch.Runs chef.registry recipe (chef.spawn inputs) n batch →
          n ≤ length ∧ ((∃ results, batch.Returns results) ↔ n = length) := by
  refine ⟨fun n batch hruns => ⟨fun results hreturns => ?_, ?_⟩,
    fun fuel results last h => bakesEach_bakeBatch hordered h,
    fun attempts hattempts => ⟨exists_bakeBatch hattempts, ?_⟩⟩
  · obtain ⟨_, posted, hsound, hread⟩ := hruns.invariant hq hordered
    rw [hreturns] at hsound
    obtain ⟨attempts, hattempts, hresults, hposted⟩ := hsound.exists_attempts
    refine ⟨attempts, hattempts, hresults, fun counter => ?_⟩
    rw [hread, hposted]
  · exact batch.returns_or_step chef.registry recipe
  · obtain ⟨length, hlength⟩ := Task.exists_allLast hattempts
    exact ⟨length, Batch.exists_runs hlength, fun n batch hruns => hruns.returns_iff hlength⟩

/-- A pause of two slices, and then digits are read. -/
def Recipe.napBeforeHex : Recipe :=
  ⟨1, [⟨"Sleep", [.number (.ofNat 60)], false, false⟩, ⟨"From Hex", [], false, false⟩], .default⟩

/-- Of two bakes that pause one fails, and both have been counted, whichever has gone on first. -/
theorem Chef.batch_bakesEach_naps :
    ∃ length batch results,
      Batch.Runs .builtIn .napBeforeHex ((Chef.new .builtIn).spawn [.string "41", .string "4"]) length
        batch ∧
      batch.Returns results ∧ results.map Except.toBool = [true, false] ∧
      [.calls "Sleep", .failures "From Hex", .completed, .failed].map (Counter.read batch.metrics) =
        [2, 1, 1, 1] := by
  have hquiet : (Chef.new .builtIn).registry.Quiet := Registry.accountable_builtIn.quiet
  obtain ⟨hinterleaved, hserial, hends⟩ := batch_bakesEach (.new .builtIn) hquiet
    Metrics.ordered_zero .napBeforeHex [.string "41", .string "4"]
  have hbaked : ((Chef.new .builtIn).bakeBatch 3 .napBeforeHex [.string "41", .string "4"]).map
      (fun baked => (baked.1.map Except.toBool,
        [Counter.calls "Sleep", .failures "From Hex", .completed, .failed].map
          (Counter.read baked.2.metrics))) = some ([true, false], [2, 1, 1, 1]) := by
    decide +kernel
  obtain ⟨⟨results, last⟩, hbatch, hvalues⟩ := Option.map_eq_some_iff.mp hbaked
  obtain ⟨hresults, hcounters⟩ := Prod.mk.inj hvalues
  have hlast := hserial 3 results last hbatch
  obtain ⟨attempts, hattempts, _⟩ := id hlast
  obtain ⟨_, length, ⟨batch, results', hruns, hreturns⟩, _⟩ := hends attempts hattempts
  obtain ⟨rfl, hsame⟩ := ((hinterleaved length batch hruns).1 results' hreturns).unique hlast
  refine ⟨length, batch, results', hruns, hreturns, hresults, ?_⟩
  rw [← hcounters]
  exact List.map_congr_left fun counter _ => hsame counter

end Kitchen
