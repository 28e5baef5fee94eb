import Kitchen.Number.Power
import Kitchen.Operation.Basic
import Kitchen.Regex.Matcher
import Kitchen.Text.Search

/-!
# Flow control

The operations that steer a bake. They take and leave the state of the bake; the run goes on behind
the step at which they leave the cursor.
-/

namespace Kitchen.Flow

open Text

/-- The descriptor of a flow-control operation. -/
def descriptor (name description : String) (parameters : List Parameter) : Descriptor :=
  { Descriptor.plain name .string .string with description, parameters, flowControl := true }

/-! ## Markers -/

/-- An operation that marks a place in a recipe and does nothing. -/
def marker (name description : String) (parameters : List Parameter) : Operation :=
  .ofFlow (descriptor name description parameters) (.act fun _ _ state => .ok state)

/-- A target of jumps. -/
def label : Operation :=
  marker labelName "Marks a position that Jump and Conditional Jump can move to."
    [.string "Name" ""]

/-- The end of the section of a fork. -/
def merge : Operation :=
  marker mergeName "Ends the section started by Fork and joins the branch outputs." []

def comment : Operation :=
  marker "Comment" "Does nothing; annotates the recipe." [.text "Comment" ""]

/-! ## Jumps -/

/-- The bound on jumps that holds where none is given. -/
def defaultMaxJumps : Nat := 10

/-- The parameter for the bound on jumps. -/
def maxJumpsParameter : Parameter :=
  (Parameter.number "Maximum jumps (if jumping backwards)" (.ofNat defaultMaxJumps)).range
    (some (.ofNat 0)) none

/-- The bound on jumps at a position of the arguments: a whole number of 32 bits. -/
def maxJumpsAt (args : List Argument) (i : Nat) : Nat :=
  match numberAt? args i with
  | some x => x.toNatClamped (twoTo 32 - 1)
  | none => defaultMaxJumps

/-- Forgets the jumps taken. -/
def fallThrough (state : State) : State := { state with jumpsTaken := 0 }

/-- Moves the cursor to a label in the scope while jumps are left; otherwise falls through. -/
def jumpTo (steps : List Step) (name : String) (maxJumps : Nat) (state : State) : State :=
  match state.findLabel? steps name with
  | some target =>
    if state.jumpsTaken < maxJumps then
      { state with progress := target, jumpsTaken := state.jumpsTaken + 1 }
    else fallThrough state
  | none => fallThrough state

def jump : Operation :=
  .ofFlow
    (descriptor "Jump" "Moves execution to the named Label."
      [.string "Label name" "", maxJumpsParameter])
    (.act fun steps args state => .ok (jumpTo steps (textAt args 0) (maxJumpsAt args 1) state))

/-- The fault of a pattern that is no regular expression. -/
def patternFault (pattern : String) (error : Regex.PatternError) : Fault :=
  .invalid s!"Invalid regular expression '{pattern}': {error.message}"

def compile (flags : Regex.Flags) (pattern : String) : Except Fault Regex.Matcher :=
  (Regex.Matcher.compile flags pattern).mapError (patternFault pattern)

/-- Jumps to a label if the dish matches a pattern, or if it does not. An empty pattern never
jumps. -/
def conditionalJumpAction (steps : List Step) (args : List Argument) (state : State) :
    Except Fault State := do
  let pattern := textAt args 0
  if pattern.isEmpty then return fallThrough state
  let text ← state.text
  let matcher ← compile .default pattern
  if matcher.isMatch text != boolAt args 1 then
    return jumpTo steps (textAt args 2) (maxJumpsAt args 3) state
  else return fallThrough state

/-- Jumps on a condition. -/
def conditionalJump : Operation :=
  .ofFlow
    (descriptor "Conditional Jump"
      "Jumps to the named Label if the dish matches a regular expression."
      [.string "Match (regex)" "", .boolean "Invert match" false, .string "Label name" "",
        maxJumpsParameter])
    (.act conditionalJumpAction)

/-! ## Registers -/

/-- The names in a list with commas. -/
def registerNames (list : String) : List String :=
  ((splitAt (· == ',') list.toList).map trimChars).filterMap fun name =>
    if name.isEmpty then none else some (String.ofList name)

/-- Binds the texts of groups: under the next given name, else under the name of the group, else
under a number. -/
def bindGroups (registers : Registers) :
    List String → List (Option String) → List (Option String) → Registers
  | names, groupName :: groupNames, group :: groups =>
    let value := group.getD ""
    let bound := match names.head?, groupName with
      | some name, _ => registers.bind name value
      | none, some name => registers.bind name value
      | none, none => registers.bindNumbered value
    bindGroups bound names.tail groupNames groups
  | _, _, _ => registers

/-- Binds what the groups of a pattern hold in its first match with the dish. -/
def registerAction (_ : List Step) (args : List Argument) (state : State) : Except Fault State := do
  let flags : Regex.Flags :=
    { Regex.Flags.default with
      caseInsensitive := boolAt args 2, multiLine := boolAt args 3, dotAll := boolAt args 4 }
  let matcher ← compile flags (textAt args 0)
  let text ← state.text
  match matcher.captures? text with
  | none => return state
  | some groups =>
    let names := registerNames (textAt args 1)
    return { state with
      registers := bindGroups state.registers names matcher.groupNames groups }

/-- Remembers parts of the dish. -/
def register : Operation :=
  let uses := "Captures regex groups from the dish into registers "
  .ofFlow
    (descriptor "Register" (uses ++ "usable as $R\x7bname\x7d in later arguments.")
      [.string "Extractor" "([\\s\\S]*)", .string "Register names" "",
        .boolean "Case insensitive" true, .boolean "Multiline matching" false,
        .boolean "Dot matches all" false])
    (.act registerAction)

/-! ## Forks and returns -/

/-- Splits the dish and runs the steps up to a merge on every piece. -/
def fork : Operation :=
  .ofFlow
    (descriptor "Fork" "Splits the dish and runs the steps up to Merge on each piece separately."
      [.string "Split delimiter" "\\n", .string "Merge delimiter" "\\n",
        .boolean "Ignore errors" false])
    .fork

/-- The pieces of a text between the occurrences of a delimiter; an empty delimiter splits into
characters, so an empty text has no pieces then. -/
def pieces (text delimiter : String) : List String :=
  if delimiter.isEmpty then text.toList.map fun c => String.ofList [c]
  else (splitOn (· == ·) delimiter.toList text.toList).map String.ofList

/-- The text that a branch gives: markup as it is, all else as a string. -/
def branchOutput : Dish → Except Fault String
  | .html markup => .ok markup
  | dish => match dish.convert .string with
    | .ok value => value.asText.mapError .dish
    | .error error => .error (.dish error)

/-- Moves the cursor to the last step of the scope, so that the run ends. -/
def returnAction (_ : List Step) (_ : List Argument) (state : State) : Except Fault State :=
  .ok { state with progress := max (state.scopeEnd - 1) state.progress }

/-- Ends the bake, or the branch in which it stands. -/
def leave : Operation :=
  .ofFlow (descriptor "Return" "Ends the bake here, or the current branch inside a Fork." [])
    (.act returnAction)

def operations : List Operation :=
  [label, merge, comment, jump, conditionalJump, register, fork, leave]

end Kitchen.Flow
