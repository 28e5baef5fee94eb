import Kitchen.Proofs.Operation.Steering
import Kitchen.Proofs.Registers.Binding

/-!
# Capturing

What a register step binds: the texts of the groups in the first match with the dish, each under the
next listed name, else under the name of the group, else under the next number. No other
flow-control operation changes the registers.
-/

namespace Kitchen

theorem Regex.Matcher.length_of_captures? {matcher : Matcher} {text : String}
    {groups : List (Option String)} (h : matcher.captures? text = some groups) :
    groups.length = matcher.groupNames.length := by
  obtain ⟨found, -, rfl⟩ := Option.map_eq_some_iff.mp h
  simp

namespace Flow

/-- The pattern of a register step under the flags that it sets. -/
def extractor (args : List Argument) : Except Fault Regex.Matcher :=
  compile
    { Regex.Flags.default with
      caseInsensitive := boolAt args 2, multiLine := boolAt args 3, dotAll := boolAt args 4 }
    (textAt args 0)

/-! ## Groups -/

/-- The binding of a group: under the first listed name, its own name or the next number. -/
def groupBinding (listed groupName group : Option String) : Binding :=
  match listed, groupName with
  | some name, _ => .named name (group.getD "")
  | none, some name => .named name (group.getD "")
  | none, none => .numbered (group.getD "")

def groupBindings : List String → List (Option String) → List (Option String) → List Binding
  | names, groupName :: groupNames, group :: groups =>
    groupBinding names.head? groupName group :: groupBindings names.tail groupNames groups
  | _, _, _ => []

theorem bindGroups_eq (registers : Registers) (names : List String)
    (groupNames groups : List (Option String)) :
    bindGroups registers names groupNames groups =
      registers.recordAll (groupBindings names groupNames groups) := by
  induction groupNames generalizing registers names groups with
  | nil => rw [bindGroups.eq_def, groupBindings.eq_def]; rfl
  | cons groupName groupNames ih =>
    cases groups with
    | nil => rw [bindGroups.eq_def, groupBindings.eq_def]; rfl
    | cons group groups =>
      have hgroup : bindGroups registers names (groupName :: groupNames) (group :: groups) =
          bindGroups (registers.record (groupBinding names.head? groupName group)) names.tail
            groupNames groups := by
        cases names <;> cases groupName <;> rfl
      rw [hgroup, ih, groupBindings, Registers.recordAll_cons]

/-- The names of groups that have no listed name, where `next` is the next number. -/
def unlistedNames : Nat → List (Option String) → List String
  | _, [] => []
  | next, some name :: rest => name :: unlistedNames next rest
  | next, none :: rest => toString next :: unlistedNames (next + 1) rest

/-- The groups are bound under the listed names first, then under names of their own and numbers. -/
theorem boundNames_groupBindings {next : Nat} {names : List String}
    {groupNames groups : List (Option String)} (hnames : names.length ≤ groupNames.length)
    (hgroups : groups.length = groupNames.length) :
    Registers.boundNames next (groupBindings names groupNames groups) =
      names ++ unlistedNames next (groupNames.drop names.length) := by
  induction groupNames generalizing next names groups with
  | nil =>
    obtain rfl : names = [] := List.length_eq_zero_iff.mp (Nat.le_zero.mp hnames)
    rfl
  | cons groupName groupNames ih =>
    cases groups with
    | nil => simp at hgroups
    | cons group groups =>
      have hrest : groups.length = groupNames.length := Nat.succ.inj hgroups
      cases names with
      | nil =>
        have htail (next : Nat) := @ih next [] groups (Nat.zero_le _) hrest
        cases groupName <;>
          simp [groupBindings, groupBinding, Registers.boundNames, Binding.nameAt,
            Binding.numberAfter, Binding.isNumbered, unlistedNames, htail]
      | cons name names =>
        have htail := @ih next names groups (Nat.le_of_succ_le_succ hnames) hrest
        simp [groupBindings, groupBinding, Registers.boundNames, Binding.nameAt,
          Binding.numberAfter, Binding.isNumbered, htail]

/-- A listed name holds the text of its group, unless a later group without a listed name is bound
under the same name. -/
theorem get?_groupBindings {registers : Registers} {names : List String}
    {groupNames groups : List (Option String)} (hnodup : names.Nodup)
    (hnames : names.length ≤ groupNames.length) (hgroups : groups.length = groupNames.length)
    {i : Nat} {name : String} (hname : names[i]? = some name)
    (hlast : name ∉ unlistedNames registers.nextNumber (groupNames.drop names.length)) :
    (registers.recordAll (groupBindings names groupNames groups)).get? name =
      some ((groups.getD i none).getD "") := by
  induction names generalizing registers groupNames groups i with
  | nil => simp at hname
  | cons first rest ih =>
    obtain ⟨groupName, groupNames, rfl⟩ : ∃ groupName others, groupNames = groupName :: others :=
      List.exists_cons_of_length_pos (Nat.lt_of_lt_of_le (Nat.succ_pos _) hnames)
    obtain ⟨group, groups, rfl⟩ : ∃ group others, groups = group :: others :=
      List.exists_cons_of_length_pos (by rw [hgroups]; exact Nat.succ_pos _)
    have hrest : groups.length = groupNames.length := Nat.succ.inj hgroups
    have hfits : rest.length ≤ groupNames.length := Nat.le_of_succ_le_succ hnames
    obtain ⟨hfirst, hnodup⟩ := List.nodup_cons.mp hnodup
    change (Registers.recordAll (registers.bind first (group.getD ""))
      (groupBindings rest groupNames groups)).get? name = _
    cases i with
    | zero =>
      obtain rfl : first = name := Option.some.inj hname
      rw [Registers.get?_recordAll_of_notMem, Registers.get?_bind, if_pos rfl]
      · rfl
      · -- The other listed names are different ones, and the unlisted names are excluded.
        rw [boundNames_groupBindings hfits hrest, List.mem_append, not_or]
        exact ⟨hfirst, hlast⟩
    | succ i => exact ih hnodup hfits hrest hname hlast

theorem ne_nil_of_mem_registerNames {list name : String} (h : name ∈ registerNames list) :
    name.toList ≠ [] := by
  obtain ⟨chars, -, hname⟩ := List.mem_filterMap.mp h
  split at hname
  · cases hname
  · rename_i hne
    obtain rfl := Option.some.inj hname
    simpa using hne

/-! ## The step -/

/-- What a register step binds: nothing where its pattern has no match. -/
def matchBindings (matcher : Regex.Matcher) (names : List String) (text : String) : List Binding :=
  match matcher.captures? text with
  | none => []
  | some groups => groupBindings names matcher.groupNames groups

theorem registerAction_eq (steps : List Step) (args : List Argument) (state : State) :
    registerAction steps args state = (do
      let matcher ← extractor args
      let text ← state.text
      return { state with
        registers := state.registers.recordAll
          (matchBindings matcher (registerNames (textAt args 1)) text) }) := by
  rw [registerAction, extractor]
  cases compile _ (textAt args 0) with
  | error fault => rfl
  | ok matcher =>
    cases state.text with
    | error fault => rfl
    | ok text =>
      change (match matcher.captures? text with | none => _ | some _ => _) = Except.ok _
      rw [matchBindings]
      cases matcher.captures? text with
      | none => rfl
      | some groups => rw [← bindGroups_eq]; rfl

/-- What a register step binds in a state; a step that fails binds nothing. -/
def registerBindings (args : List Argument) (state : State) : List Binding :=
  match extractor args, state.text with
  | .ok matcher, .ok text => matchBindings matcher (registerNames (textAt args 1)) text
  | _, _ => []

theorem registerAction_eq_ok {steps : List Step} {args : List Argument} {state next : State}
    (h : registerAction steps args state = .ok next) :
    next = { state with registers := state.registers.recordAll (registerBindings args state) } := by
  rw [registerAction_eq] at h
  rw [registerBindings]
  cases hmatcher : extractor args with
  | error fault => simp [hmatcher, Bind.bind, Except.bind] at h
  | ok matcher =>
    cases htext : state.text with
    | error fault => simp [hmatcher, htext, Bind.bind, Except.bind] at h
    | ok text =>
      rw [hmatcher, htext] at h
      exact (Except.ok.inj h).symm

private theorem jumpTo_registers (steps : List Step) (name : String) (maxJumps : Nat)
    (state : State) : (jumpTo steps name maxJumps state).registers = state.registers := by
  rw [jumpTo]
  split
  · split <;> rfl
  · rfl

def bindings (name : String) (args : List Argument) (state : State) : List Binding :=
  if name = register.name then registerBindings args state else []

/-- An operation that acts on the state changes the registers by what it binds alone. -/
theorem registers_of_mem {operation : Operation} (h : operation ∈ operations) {action : FlowAction}
    (ha : operation.flow = .act action) {steps : List Step} {args : List Argument}
    {state next : State} (hn : action steps args state = .ok next) :
    next.registers = state.registers.recordAll (bindings operation.name args state) := by
  have stays {name : String} (hname : name ≠ register.name)
      (hsame : next.registers = state.registers) :
      next.registers = state.registers.recordAll (bindings name args state) := by
    rw [bindings, if_neg hname, Registers.recordAll_nil, hsame]
  simp only [operations, List.mem_cons, List.not_mem_nil, or_false] at h
  rcases h with rfl | rfl | rfl | rfl | rfl | rfl | rfl | rfl
  · obtain rfl := FlowBody.act.inj ha
    obtain rfl := Except.ok.inj hn
    exact stays (by decide) rfl
  · obtain rfl := FlowBody.act.inj ha
    obtain rfl := Except.ok.inj hn
    exact stays (by decide) rfl
  · obtain rfl := FlowBody.act.inj ha
    obtain rfl := Except.ok.inj hn
    exact stays (by decide) rfl
  · obtain rfl := FlowBody.act.inj ha
    obtain rfl := Except.ok.inj hn
    exact stays (by decide) (jumpTo_registers steps _ _ state)
  · obtain rfl := FlowBody.act.inj ha
    rcases conditionalJumpAction_cases hn with rfl | rfl
    · exact stays (by decide) rfl
    · exact stays (by decide) (jumpTo_registers steps _ _ state)
  · obtain rfl := FlowBody.act.inj ha
    rw [registerAction_eq_ok hn]
    rfl
  · simp [fork, Operation.ofFlow] at ha
  · obtain rfl := FlowBody.act.inj ha
    obtain rfl := Except.ok.inj hn
    exact stays (by decide) rfl

end Flow

namespace Registry

theorem operation_register : builtIn.operation Flow.register.name = Flow.register :=
  operation_builtIn_name (by simp [builtInOperations, Flow.operations])

theorem registers_builtIn {name : String} {action : FlowAction}
    (hf : (builtIn.operation name).descriptor.flowControl = true)
    (ha : (builtIn.operation name).flow = .act action) {steps : List Step} {args : List Argument}
    {state next : State} (hn : action steps args state = .ok next) :
    next.registers = state.registers.recordAll (Flow.bindings name args state) := by
  rcases operation_builtIn name with ⟨hmem, hname⟩ | hnone
  · rcases mem_builtIn_cases hmem with hflow | ⟨hnoFlow, -⟩
    · have hregisters := Flow.registers_of_mem hflow ha hn
      rwa [hname] at hregisters
    · rw [hf] at hnoFlow
      exact absurd hnoFlow (by simp)
  · rw [hnone] at hf
    exact absurd hf (by simp [bodiless, Operation.ofTransform, Descriptor.plain])

end Registry
end Kitchen
