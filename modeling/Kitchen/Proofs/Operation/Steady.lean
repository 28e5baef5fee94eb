import Kitchen.Bake.Run
import Kitchen.Proofs.Registry.Lookup

/-!
# Steady operations

While nobody cancels, a built-in transformation looks at its arguments and its input only: neither
the events so far nor the place of the step change what it gives. Its faults are its own, never
those of a branch.
-/

namespace Kitchen

/-! ## Control without cancellation -/

/-- Nobody cancels. -/
def Control.Uncancelled (control : Control) : Prop := control.cancelAt = none

namespace Control

theorem Uncancelled.isCancelled {control : Control} (h : control.Uncancelled) (log : Log) :
    control.isCancelled log = false := by
  simp [Control.isCancelled, show control.cancelAt = none from h]

theorem Uncancelled.forBranch {control : Control} (h : control.Uncancelled) :
    control.forBranch.Uncancelled := h

theorem uncancelled_default : Control.default.Uncancelled := rfl

end Control

/-! ## Faults -/

/-- The fault did not come out of a branch. -/
def Fault.IsOwn (fault : Fault) : Prop := ∀ failure, fault ≠ .branch failure

@[simp] theorem Fault.isOwn_invalid (message : String) : (Fault.invalid message).IsOwn := by
  simp [Fault.IsOwn]

@[simp] theorem Fault.isOwn_dish (error : DishError) : (Fault.dish error).IsOwn := by
  simp [Fault.IsOwn]

@[simp] theorem Fault.isOwn_cancelled : Fault.cancelled.IsOwn := by simp [Fault.IsOwn]

@[simp] theorem Fault.isOwn_broken (description : String) : (Fault.broken description).IsOwn := by
  simp [Fault.IsOwn, Fault.broken]

/-- No fault of the result came out of a branch. -/
def OwnFaults {α : Type} (result : Except Fault α) : Prop :=
  ∀ fault, result = .error fault → fault.IsOwn

@[simp] theorem ownFaults_error {α : Type} {fault : Fault} :
    OwnFaults (.error fault : Except Fault α) ↔ fault.IsOwn := by simp [OwnFaults]

/-- The fault tells neither of a branch nor of a cancellation. -/
structure Fault.IsPlain (fault : Fault) : Prop where
  isOwn : fault.IsOwn
  ne_cancelled : fault ≠ .cancelled

@[simp] theorem Fault.isPlain_invalid (message : String) : (Fault.invalid message).IsPlain :=
  ⟨isOwn_invalid message, by simp⟩

@[simp] theorem Fault.isPlain_dish (error : DishError) : (Fault.dish error).IsPlain :=
  ⟨isOwn_dish error, by simp⟩

@[simp] theorem Fault.isPlain_broken (description : String) : (Fault.broken description).IsPlain :=
  ⟨isOwn_broken description, by simp [Fault.broken]⟩

/-- No fault of the result tells of a branch or of a cancellation. -/
def PlainFaults {α : Type} (result : Except Fault α) : Prop :=
  ∀ fault, result = .error fault → fault.IsPlain

section PlainFaults

variable {α β ε ε₁ : Type}

theorem PlainFaults.own {result : Except Fault α} (h : PlainFaults result) : OwnFaults result :=
  fun fault hf => (h fault hf).isOwn

@[simp] theorem plainFaults_ok (a : α) : PlainFaults (.ok a) := by simp [PlainFaults]

@[simp] theorem plainFaults_pure (a : α) : PlainFaults (pure a) := plainFaults_ok a

@[simp] theorem plainFaults_error {fault : Fault} :
    PlainFaults (.error fault : Except Fault α) ↔ fault.IsPlain := by simp [PlainFaults]

@[simp] theorem plainFaults_throw {fault : Fault} :
    PlainFaults (throw fault : Except Fault α) ↔ fault.IsPlain := plainFaults_error

theorem PlainFaults.bind {result : Except Fault α} {f : α → Except Fault β}
    (h : PlainFaults result) (hf : ∀ a, PlainFaults (f a)) : PlainFaults (result >>= f) := by
  cases result with
  | error fault => exact plainFaults_error.mpr (h fault rfl)
  | ok a => exact hf a

@[simp] theorem mapError_ok (f : ε → ε₁) (a : α) :
    (Except.ok a : Except ε α).mapError f = .ok a := rfl

@[simp] theorem mapError_error (f : ε → ε₁) (error : ε) :
    (Except.error error : Except ε α).mapError f = .error (f error) := rfl

theorem plainFaults_mapError {f : ε → Fault} (hf : ∀ error, (f error).IsPlain)
    (result : Except ε α) : PlainFaults (result.mapError f) := by
  cases result with
  | error error => exact plainFaults_error.mpr (hf error)
  | ok a => exact plainFaults_ok a

end PlainFaults

/-! ## Steady transformations -/

/-- While nobody cancels, the operation looks at arguments and input only, and no fault of it comes
out of a branch. -/
structure Operation.Steady (operation : Operation) : Prop where
  transform_fst : ∀ {context context' : Context} (args : List Argument) (dish : Dish)
    (log log' : Log), context.control.Uncancelled → context'.control.Uncancelled →
    (operation.transform context args dish log).1 = (operation.transform context' args dish log').1
  isOwn : ∀ {context : Context} {args : List Argument} {dish : Dish} {log : Log} {fault : Fault},
    (operation.transform context args dish log).1 = .error (.fault fault) → fault.IsOwn

namespace Operation

theorem bake_fst (operation : Operation) (context : Context) (args : List Argument)
    (dish : Dish) (log : Log) :
    (operation.bake context args dish log).1 =
      match dish.convert operation.descriptor.input with
      | .error error => .error (.dish error)
      | .ok input =>
        match (operation.transform context args input log).1 with
        | .error halt => .error halt.contained
        | .ok output => (output.convert operation.descriptor.output).mapError .dish := by
  unfold Operation.bake
  cases dish.convert operation.descriptor.input with
  | error error => rfl
  | ok input =>
    dsimp only
    rcases operation.transform context args input log with ⟨halt | output, next⟩ <;> rfl

variable {operation : Operation} {context context' : Context}

/-- Baked with a steady operation, a dish comes out the same whatever has happened so far. -/
theorem Steady.bake_fst (h : operation.Steady) (args : List Argument) (dish : Dish)
    (log log' : Log) (hc : context.control.Uncancelled) (hc' : context'.control.Uncancelled) :
    (operation.bake context args dish log).1 = (operation.bake context' args dish log').1 := by
  rw [Operation.bake_fst, Operation.bake_fst]
  cases dish.convert operation.descriptor.input with
  | error error => rfl
  | ok input => simp only [h.transform_fst args input log log' hc hc']

/-- Baking a dish adds no fault of a branch to those of the body. -/
theorem ownFaults_bake {args : List Argument} {log : Log}
    (h : ∀ input fault, (operation.transform context args input log).1 = .error (.fault fault) →
      fault.IsOwn) (dish : Dish) : OwnFaults (operation.bake context args dish log).1 := by
  rw [Operation.bake_fst]
  cases dish.convert operation.descriptor.input with
  | error error => exact ownFaults_error.mpr (Fault.isOwn_dish error)
  | ok input =>
    dsimp only
    split
    · rename_i halt hhalt
      cases halt with
      | fault fault => exact ownFaults_error.mpr (h input fault hhalt)
      | crash text => exact ownFaults_error.mpr (Fault.isOwn_broken _)
    · exact (plainFaults_mapError Fault.isPlain_dish _).own

theorem Steady.ownFaults_bake (h : operation.Steady) (args : List Argument) (dish : Dish)
    (log : Log) : OwnFaults (operation.bake context args dish log).1 :=
  Operation.ownFaults_bake (fun _ _ => h.isOwn) dish

end Operation

/-- The body is a function of arguments and input, with plain faults only. -/
def Operation.Functional (operation : Operation) : Prop :=
  ∃ f, operation.transform = .ofFunction f ∧ ∀ args dish, PlainFaults (f args dish)

theorem Operation.Functional.steady {operation : Operation} (h : operation.Functional) :
    operation.Steady where
  transform_fst args dish _ _ _ _ := by
    obtain ⟨f, ht, _⟩ := h
    rw [ht]
    rfl
  isOwn := by
    intro context args dish log fault hf
    obtain ⟨f, ht, hplain⟩ := h
    rw [ht] at hf
    change (f args dish).mapError Halt.fault = _ at hf
    cases hr : f args dish with
    | error cause =>
      rw [hr] at hf
      obtain rfl : cause = fault := by simpa using hf
      exact (hplain args dish cause hr).isOwn
    | ok output => simp [hr] at hf

private theorem plainFaults_asBytes (dish : Dish) : PlainFaults (dish.asBytes.mapError .dish) :=
  plainFaults_mapError Fault.isPlain_dish _

private theorem plainFaults_asText (dish : Dish) : PlainFaults (dish.asText.mapError .dish) :=
  plainFaults_mapError Fault.isPlain_dish _

private theorem plainFaults_asJson (dish : Dish) : PlainFaults (dish.asJson.mapError .dish) :=
  plainFaults_mapError Fault.isPlain_dish _

private theorem plainFaults_upperStarts (scope : LetterCase.Scope) (text : String) :
    PlainFaults (LetterCase.upperStarts scope text) := by
  unfold LetterCase.upperStarts
  split
  · simp
  · exact plainFaults_error.mpr (Fault.isPlain_broken _)

private theorem plainFaults_toUpper (args : List Argument) (dish : Dish) :
    PlainFaults (LetterCase.toUpper args dish) := by
  have hstarts (scope : LetterCase.Scope) (text : String) :
      PlainFaults (return Dish.string (← LetterCase.upperStarts scope text)) :=
    (plainFaults_upperStarts scope text).bind fun _ => by simp
  refine (plainFaults_asText dish).bind fun text => ?_
  split
  · simp
  · exact hstarts .word text
  · exact hstarts .sentence text
  · exact hstarts .paragraph text
  · simp

private theorem plainFaults_reverse (args : List Argument) (dish : Dish) :
    PlainFaults (Reversal.reverse args dish) := by
  refine (plainFaults_asBytes dish).bind fun bytes => ?_
  split
  · simp
  · refine PlainFaults.bind ?_ fun _ => by simp
    unfold Reversal.reverseCharacters
    split <;> simp
  · simp
  · simp

private theorem plainFaults_patternOf (mode find : String) :
    PlainFaults (Replacement.patternOf mode find) := by
  unfold Replacement.patternOf
  dsimp only
  split
  · simp
  · split
    · simp
    · split <;> simp

private theorem plainFaults_findReplace (args : List Argument) (dish : Dish) :
    PlainFaults (Replacement.findReplace args dish) := by
  refine (plainFaults_asText dish).bind fun text => ?_
  rcases toggleAt args 0 with ⟨find, mode⟩
  refine (plainFaults_patternOf mode find).bind fun pattern => ?_
  dsimp only
  split
  · split <;> simp
  · simp

private theorem plainFaults_fromBase64 (args : List Argument) (dish : Dish) :
    PlainFaults (Encoding.fromBase64 args dish) := by
  refine (plainFaults_asText dish).bind fun text => ?_
  dsimp only
  split <;> simp

private theorem plainFaults_fromHex (args : List Argument) (dish : Dish) :
    PlainFaults (Encoding.fromHex args dish) := by
  refine (plainFaults_asText dish).bind fun text => ?_
  split <;> simp

private theorem waitSlices_uncancelled {context : Context} (h : context.control.Uncancelled)
    (total left elapsed : Nat) (log : Log) :
    (Pause.waitSlices context total left elapsed log).1 = true := by
  induction left generalizing elapsed log with
  | zero => simp [Pause.waitSlices, h.isCancelled]
  | succ left ih => simp [Pause.waitSlices, h.isCancelled, ih]

private theorem sleep_uncancelled {context : Context} (h : context.control.Uncancelled)
    (args : List Argument) (dish : Dish) (log : Log) :
    (Pause.sleep context args dish log).1 = .ok dish := by
  have hw := waitSlices_uncancelled h (Pause.timeAt args 0)
    ((Pause.timeAt args 0 + Pause.sliceLength - 1) / Pause.sliceLength) 0 log
  unfold Pause.sleep
  dsimp only
  split
  · rfl
  · rename_i hs
    rw [hs] at hw
    simp at hw

theorem steady_sleep : Pause.operation.Steady where
  transform_fst args dish log log' h h' :=
    (sleep_uncancelled h args dish log).trans (sleep_uncancelled h' args dish log').symm
  isOwn := by
    intro context args dish log fault hf
    change (Pause.sleep context args dish log).1 = _ at hf
    unfold Pause.sleep at hf
    dsimp only at hf
    split at hf
    · simp at hf
    · obtain rfl : Fault.cancelled = fault := by simpa using hf
      exact Fault.isOwn_cancelled

theorem Registry.functional_bodiless (name : String) : (Registry.bodiless name).Functional :=
  ⟨_, rfl, fun _ _ => by simp⟩

theorem Registry.steady_bodiless (name : String) : (Registry.bodiless name).Steady :=
  (functional_bodiless name).steady

/-- A built-in operation controls the flow, is a function of arguments and input, or is a pause. -/
theorem mem_builtIn_functional {operation : Operation} (h : operation ∈ builtInOperations) :
    operation ∈ Flow.operations ∨
      operation.descriptor.flowControl = false ∧
        (operation.Functional ∨ operation = Pause.operation) := by
  rcases List.mem_append.mp h with h | h
  · exact .inl h
  · right
    simp only [List.mem_cons, List.not_mem_nil, or_false] at h
    rcases h with rfl | rfl | rfl | rfl | rfl | rfl | rfl | rfl | rfl | rfl | rfl | rfl
    · exact ⟨rfl, .inl ⟨_, rfl, plainFaults_toUpper⟩⟩
    · exact ⟨rfl, .inl ⟨_, rfl, fun _ dish => (plainFaults_asText dish).bind fun _ => by simp⟩⟩
    · exact ⟨rfl, .inl ⟨_, rfl, plainFaults_reverse⟩⟩
    · exact ⟨rfl, .inl ⟨_, rfl, plainFaults_findReplace⟩⟩
    · exact ⟨rfl, .inl ⟨_, rfl, fun _ dish => (plainFaults_asBytes dish).bind fun _ => by simp⟩⟩
    · exact ⟨rfl, .inl ⟨_, rfl, plainFaults_fromBase64⟩⟩
    · exact ⟨rfl, .inl ⟨_, rfl, fun _ dish => (plainFaults_asBytes dish).bind fun _ => by simp⟩⟩
    · exact ⟨rfl, .inl ⟨_, rfl, plainFaults_fromHex⟩⟩
    · exact ⟨rfl, .inl ⟨_, rfl, fun _ dish => (plainFaults_asBytes dish).bind fun _ => by simp⟩⟩
    · exact ⟨rfl, .inl ⟨_, rfl, fun _ dish => (plainFaults_asJson dish).bind fun _ => by simp⟩⟩
    · exact ⟨rfl, .inl ⟨_, rfl, fun _ dish => (plainFaults_asJson dish).bind fun _ => by simp⟩⟩
    · exact ⟨rfl, .inr rfl⟩

/-- A built-in operation controls the flow, or it is a steady transformation. -/
theorem mem_builtIn_cases {operation : Operation} (h : operation ∈ builtInOperations) :
    operation ∈ Flow.operations ∨
      operation.descriptor.flowControl = false ∧ operation.Steady := by
  rcases mem_builtIn_functional h with hflow | ⟨hf, hfunction | rfl⟩
  · exact .inl hflow
  · exact .inr ⟨hf, hfunction.steady⟩
  · exact .inr ⟨hf, steady_sleep⟩

end Kitchen
