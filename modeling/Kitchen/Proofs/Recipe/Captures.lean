import Kitchen.Proofs.Registers.Substitution
import Kitchen.Proofs.Run.Bindings

/-!
# Captures

What a register step leaves to the steps behind it. A group without a name is bound under the count
of such groups before it, whether or not that number has been given as a name. A listed name can be
any text, but only a word can be referred to.
-/

namespace Kitchen

/-! ## Numbered captures -/

/-- Behind any bindings, a text without a name is bound under the count of such texts before it, and
no other register changes. The number was free if and only if no binding had given it as a name. The
registers at every stage of a run come of a sequence of bindings, if those at its start do. -/
theorem Registry.numbered_captures (history : List Binding) (value : String) :
    (let registers := Registers.empty.recordAll history
      let name := toString (history.countP Binding.isNumbered)
      registers.numberedName = name ∧
        (registers.bindNumbered value).get? name = some value ∧
        (∀ other, other ≠ name →
          (registers.bindNumbered value).get? other = registers.get? other) ∧
        (registers.get? name = none ↔ ∀ taken, .named name taken ∉ history)) ∧
    ∀ (plan : Plan) (root stage : Stage) (n : Nat),
      plan.registry = .builtIn → root.state.registers = Registers.empty.recordAll history →
      plan.Reaches root stage n →
      ∃ later, plan.Remembers root stage later ∧
        stage.state.registers = Registers.empty.recordAll (history ++ later) := by
  refine ⟨?_, fun plan root stage n hr hroot h => ?_⟩
  · intro registers name
    have hname : registers.numberedName = name := Registers.numberedName_recordAll history
    have hget (other : String) : (registers.bindNumbered value).get? other =
        if other = name then some value else registers.get? other := by
      rw [← hname]
      exact registers.get?_record (.numbered value) other
    have hfree : registers.get? registers.numberedName = none ↔
        ∀ taken, .named registers.numberedName taken ∉ history :=
      Registers.get?_numberedName_eq_none history
    refine ⟨hname, ?_, fun other hother => ?_, ?_⟩
    · rw [hget, if_pos rfl]
    · rw [hget, if_neg hother]
    · rwa [hname] at hfree
  · obtain ⟨later, hlater⟩ := h.exists_remembers
    refine ⟨later, hlater, ?_⟩
    rw [hlater.registers hr, hroot, Registers.recordAll_append]

/-- A register step under no flags. -/
def Step.capture (index : Nat) (pattern names : String) : Step :=
  ⟨index, "Register", [.text pattern, .text names, .bool false, .bool false, .bool false], false,
    false⟩

/-- The pattern of a group around one letter. -/
def Regex.Matcher.letter (code : Nat) : Matcher :=
  ⟨#[.save 2, .take [(code, code)], .save 3], [none]⟩

/-- What the pattern captures is what its run has saved. -/
private theorem captures?_letter {code : Nat} {text : String} {run : Regex.Run}
    (h : Regex.Run.firstFrom? (Regex.Matcher.letter code).program text.toList.toArray
      (6 * (text.toList.toArray.size + 1) + 1) (text.toList.toArray.size + 1) 0 ∅ = some run) :
    (Regex.Matcher.letter code).captures? text =
      some [((run.toMatch 1).group text.toList.toArray 1).map String.ofList] := by
  have hfind : (Regex.Matcher.letter code).findFrom? text.toList.toArray 0 =
      some (run.toMatch 1) := congrArg (Option.map _) h
  rw [Regex.Matcher.captures?, hfind]
  rfl

private theorem captures?_letterA :
    (Regex.Matcher.letter 97).captures? "ab" = some [some "a"] := by
  have hrun : Regex.Run.firstFrom? (Regex.Matcher.letter 97).program "ab".toList.toArray
      (6 * ("ab".toList.toArray.size + 1) + 1) ("ab".toList.toArray.size + 1) 0 ∅ =
        some ⟨3, 1, [(3, 1), (2, 0), (0, 0)]⟩ := by cbv
  exact captures?_letter hrun

private theorem captures?_letterB :
    (Regex.Matcher.letter 98).captures? "ab" = some [some "b"] := by
  have hrun : Regex.Run.firstFrom? (Regex.Matcher.letter 98).program "ab".toList.toArray
      (6 * ("ab".toList.toArray.size + 1) + 1) ("ab".toList.toArray.size + 1) 0 ∅ =
        some ⟨3, 2, [(3, 2), (2, 1), (0, 1)]⟩ := by cbv
  exact captures?_letter hrun

section Letter

variable {plan : Plan} {stage : Stage} {index code : Nat} {pattern names : String}

private theorem extractor_letter
    (hargs : stage.state.argsFor (.capture index pattern names) =
      (Step.capture index pattern names).args)
    (hpattern : Regex.Matcher.compile .default pattern = .ok (.letter code)) :
    Flow.extractor (stage.state.argsFor (.capture index pattern names)) = .ok (.letter code) := by
  rw [hargs]
  change Flow.compile .default pattern = _
  rw [Flow.compile, hpattern]
  rfl

private theorem bindingsAt_letter {text group : String} {listed : List String}
    (hturn : plan.turnAt stage = .dispatch (.capture index pattern names))
    (hargs : stage.state.argsFor (.capture index pattern names) =
      (Step.capture index pattern names).args)
    (hpattern : Regex.Matcher.compile .default pattern = .ok (.letter code))
    (htext : stage.state.text = .ok text)
    (hcaptures : (Regex.Matcher.letter code).captures? text = some [some group])
    (hnames : Flow.registerNames names = listed) :
    plan.bindingsAt stage = Flow.groupBindings listed [none] [some group] := by
  rw [Plan.bindingsAt_register hturn rfl (extractor_letter hargs hpattern) htext,
    Flow.matchBindings, hcaptures, hargs, ← hnames]
  rfl

end Letter

/-- A step that gives a number as a name, and a step that gives no name. -/
def Recipe.takenNumber : Recipe :=
  ⟨1, [⟨"Register", [.text "(a)", .text "0", .bool false], false, false⟩,
    ⟨"Register", [.text "(b)", .text "", .bool false], false, false⟩], .default⟩

def Plan.takenNumber : Plan :=
  ⟨.builtIn, [.capture 0 "(a)" "0", .capture 1 "(b)" ""], .default⟩

/-- The stage behind the first step. -/
def Stage.takenNumber : Stage :=
  ⟨.default, 0, ⟨1, .string "ab", 0, Registers.empty.bind "0" "a", 0, 2, .running⟩,
    [.dispatched 0 "Register"]⟩

private theorem reaches_takenNumber :
    Plan.takenNumber.Reaches (Plan.takenNumber.firstStage (.string "ab") .default)
      Stage.takenNumber 0 := by
  let root := Plan.takenNumber.firstStage (.string "ab") .default
  have hturn : Plan.takenNumber.turnAt root = .dispatch (.capture 0 "(a)" "0") := rfl
  have hargs : root.state.argsFor (.capture 0 "(a)" "0") = (Step.capture 0 "(a)" "0").args := by
    decide +kernel
  have hnames : Flow.registerNames "0" = ["0"] := by decide +kernel
  have hmove := Plan.moveAt_register rfl hturn rfl (extractor_letter hargs rfl) rfl
  rw [bindingsAt_letter hturn hargs rfl rfl captures?_letterA hnames] at hmove
  exact Plan.Reaches.start.go hmove

theorem Registry.numbered_captures_takenNumber :
    (Registers.empty.recordAll [.numbered "a", .named "x" "y"]).get? "1" = none ∧
      ((Registers.empty.recordAll [.numbered "a", .named "x" "y"]).bindNumbered "b").get? "1" =
        some "b" ∧
      ∃ history,
        Plan.takenNumber.Remembers (Plan.takenNumber.firstStage (.string "ab") .default)
          .takenNumber history ∧
        Stage.takenNumber.state.registers = Registers.empty.recordAll history := by
  have hother : ∀ taken, .named "1" taken ∉ [Binding.numbered "a", .named "x" "y"] := by simp
  obtain ⟨⟨-, hvalue, -, hfree⟩, -⟩ := numbered_captures [.numbered "a", .named "x" "y"] "b"
  obtain ⟨-, hruns⟩ := numbered_captures [] "b"
  have hstage := hruns .takenNumber _ _ 0 rfl rfl reaches_takenNumber
  exact ⟨hfree.mpr hother, hvalue, hstage⟩

/-- The second step finds its number taken. -/
theorem Registry.not_numbered_captures_takenNumber :
    ¬ ∀ (recipe : Recipe) (plan : Plan) (input : Dish) (control : Control) (stage : Stage) (n : Nat)
      (before after : List Binding) (value : String),
      Registry.builtIn.prepare recipe = .ok plan →
      plan.Reaches (plan.firstStage input control) stage n →
      plan.bindingsAt stage = before ++ .numbered value :: after →
      let registers := stage.state.registers.recordAll before
      registers.get? registers.numberedName = none := by
  intro h
  have hturn : Plan.takenNumber.turnAt .takenNumber = .dispatch (.capture 1 "(b)" "") := rfl
  have hargs : Stage.takenNumber.state.argsFor (.capture 1 "(b)" "") =
      (Step.capture 1 "(b)" "").args := by decide +kernel
  have hnames : Flow.registerNames "" = [] := by decide +kernel
  have hbindings := bindingsAt_letter hturn hargs rfl rfl captures?_letterB hnames
  have hfree := h .takenNumber .takenNumber (.string "ab") .default .takenNumber 0 [] [] "b" rfl
    reaches_takenNumber hbindings
  exact absurd hfree (by decide +kernel)

/-! ## Listed names -/

/-- A text can only bring in registers that words name. -/
theorem Registers.substitute_bind {registers : Registers} {name : String}
    (h : ¬ ∀ c ∈ name.toList, Text.isWord c = true) (value text : String) :
    (registers.bind name value).substitute text = registers.substitute text := by
  refine substitute_congr text fun word hword => ?_
  have hne : String.ofList word ≠ name := by
    rintro rfl
    exact h (by rwa [String.toList_ofList])
  rw [get?_bind, if_neg hne]

/-- What a register step captures under a listed name can be referred to by that name if it is a
word, and by no text if it is none, where no group behind the listed names is bound under the same
name. A step whose pattern does not match changes no register, and no register step changes the dish
or the count of jumps. -/
theorem Registry.register_names_usable {plan : Plan} {stage : Stage} {step : Step}
    {matcher : Regex.Matcher} {text : String} (hr : plan.registry = .builtIn)
    (hturn : plan.turnAt stage = .dispatch step) (hname : step.operation = Flow.register.name)
    (hmatcher : Flow.extractor (stage.state.argsFor step) = .ok matcher)
    (htext : stage.state.text = .ok text) :
    ∃ registers,
      plan.moveAt stage =
        .go { stage.state with progress := stage.state.progress + 1, registers, phase := .running }
          (plan.announced stage.control step stage.state stage.log) ∧
      (matcher.captures? text = none → registers = stage.state.registers) ∧
      ∀ groups, matcher.captures? text = some groups →
        let names := Flow.registerNames (textAt (stage.state.argsFor step) 1)
        names.Nodup → names.length ≤ matcher.groupNames.length →
        ∀ i name, names[i]? = some name →
          name ∉ Flow.unlistedNames stage.state.registers.nextNumber
            (matcher.groupNames.drop names.length) →
          let captured := (groups.getD i none).getD ""
          registers.get? name = some captured ∧
            ((∀ c ∈ name.toList, Text.isWord c = true) →
              registers.substitute ("$R\x7b" ++ name ++ "\x7d") = captured) ∧
            ((¬ ∀ c ∈ name.toList, Text.isWord c = true) → ∀ other text,
              (registers.bind name other).substitute text = registers.substitute text) := by
  have hbindings := Plan.bindingsAt_register hturn hname hmatcher htext
  refine ⟨_, Plan.moveAt_register hr hturn hname hmatcher htext, fun hnone => ?_, ?_⟩
  · rw [hbindings, Flow.matchBindings, hnone]
    rfl
  · intro groups hgroups names hnodup hlength i name hi hlast captured
    -- The name is bound to its group, and no later group is bound to the same name.
    have hget : (stage.state.registers.recordAll (plan.bindingsAt stage)).get? name =
        some captured := by
      rw [hbindings, Flow.matchBindings, hgroups]
      exact Flow.get?_groupBindings hnodup hlength (Regex.Matcher.length_of_captures? hgroups) hi
        hlast
    refine ⟨hget, fun hword => ?_, fun hword other text => Registers.substitute_bind hword other text⟩
    have hne := Flow.ne_nil_of_mem_registerNames (List.mem_of_getElem? hi)
    have hwell : (Reference.braced name.toList).IsWellFormed := ⟨hne, hword⟩
    have hwritten : "$R\x7b" ++ name ++ "\x7d" =
        String.ofList (Reference.braced name.toList).chars := by
      apply String.toList_injective
      simp [Reference.chars]
    rw [hwritten]
    refine Registers.substitute_reference _ hwell ?_
    rw [Reference.name, String.ofList_toList]
    exact hget

/-- One register step with a list of names. -/
def Recipe.capturing (names : String) : Recipe :=
  ⟨1, [⟨"Register", [.text "(a)", .text names, .bool false], false, false⟩], .default⟩

def Plan.capturing (names : String) : Plan := ⟨.builtIn, [.capture 0 "(a)" names], .default⟩

section Capturing

variable {names : String} {listed : List String}

private theorem turnAt_capturing (names : String) :
    (Plan.capturing names).turnAt ((Plan.capturing names).firstStage (.string "ab") .default) =
      .dispatch (.capture 0 "(a)" names) := rfl

private theorem registerNames_argsFor {state : State}
    (hargs : state.argsFor (.capture 0 "(a)" names) = (Step.capture 0 "(a)" names).args)
    (hnames : Flow.registerNames names = listed) :
    Flow.registerNames (textAt (state.argsFor (.capture 0 "(a)" names)) 1) = listed := by
  rw [hargs, ← hnames]
  rfl

end Capturing

theorem Registry.register_names_usable_letter :
    let stage := (Plan.capturing "letter").firstStage (.string "ab") .default
    ∃ registers log,
      (Plan.capturing "letter").moveAt stage =
        .go { stage.state with progress := 1, registers, phase := .running } log ∧
      registers.get? "letter" = some "a" ∧ registers.substitute "$R\x7bletter\x7d" = "a" := by
  intro stage
  have hargs : stage.state.argsFor (.capture 0 "(a)" "letter") =
      (Step.capture 0 "(a)" "letter").args := by decide +kernel
  have hlisted : Flow.registerNames "letter" = ["letter"] := by decide +kernel
  have hword : "letter".toList.all Text.isWord = true := by decide +kernel
  obtain ⟨registers, hmove, -, hmatch⟩ := register_names_usable rfl (turnAt_capturing "letter") rfl
    (extractor_letter hargs rfl) rfl
  have hbound := hmatch _ captures?_letterA
  rw [registerNames_argsFor hargs hlisted] at hbound
  obtain ⟨hget, husable, -⟩ := hbound (by decide) (by decide) 0 "letter" rfl (by decide)
  exact ⟨registers, _, hmove, hget, husable (List.all_eq_true.mp hword)⟩

/-- A name with a hyphen is bound, but a reference to it stays as it is written. -/
theorem Registry.not_register_names_usable_hyphen :
    ¬ ∀ (recipe : Recipe) (plan : Plan) (input : Dish) (control : Control) (stage : Stage) (n : Nat)
      (step : Step) (matcher : Regex.Matcher) (text : String) (groups : List (Option String))
      (next : State) (log : Log) (i : Nat) (name : String),
      Registry.builtIn.prepare recipe = .ok plan →
      plan.Reaches (plan.firstStage input control) stage n →
      plan.turnAt stage = .dispatch step → step.operation = Flow.register.name →
      Flow.extractor (stage.state.argsFor step) = .ok matcher → stage.state.text = .ok text →
      matcher.captures? text = some groups → plan.moveAt stage = .go next log →
      let names := Flow.registerNames (textAt (stage.state.argsFor step) 1)
      names.Nodup → names.length ≤ matcher.groupNames.length → names[i]? = some name →
      next.registers.substitute ("$R\x7b" ++ name ++ "\x7d") = (groups.getD i none).getD "" := by
  intro h
  let stage := (Plan.capturing "user-id").firstStage (.string "ab") .default
  have hturn := turnAt_capturing "user-id"
  have hargs : stage.state.argsFor (.capture 0 "(a)" "user-id") =
      (Step.capture 0 "(a)" "user-id").args := by decide +kernel
  have hmatcher : Flow.extractor (stage.state.argsFor (.capture 0 "(a)" "user-id")) =
      .ok (.letter 97) := extractor_letter hargs rfl
  have hlisted : Flow.registerNames "user-id" = ["user-id"] := by decide +kernel
  have hmove := Plan.moveAt_register rfl hturn rfl hmatcher rfl
  have husable := h (.capturing "user-id") _ (.string "ab") .default stage 0 _ _ "ab" _ _ _ 0
    "user-id" rfl .start hturn rfl hmatcher rfl captures?_letterA hmove
  rw [registerNames_argsFor hargs hlisted,
    bindingsAt_letter hturn hargs rfl rfl captures?_letterA hlisted] at husable
  exact absurd (husable (by decide) (by decide) rfl) (by decide +kernel)

end Kitchen
