import Kitchen.Dish.Basic

/-!
# Usage

The commands and how they are written: a name, then options, which may take a value, and other
arguments in any order. Behind two hyphens nothing is an option. An option may be given once.
-/

namespace Kitchen

/-- What a bake on the command line is asked for. -/
structure BakeRequest where
  recipe : String
  /-- The file to read; otherwise the input is read. -/
  input : Option String
  /-- The file to write; otherwise the output is written. -/
  output : Option String
  outputKind : Option Kind
  ignoreBreakpoints : Bool
  printMetrics : Bool
  metricsJson : Option String
  metricsExposition : Option String
  /-- The file for a summary of the bake or its failure. -/
  report : Option String
  deriving DecidableEq, Repr, Inhabited

/-- What a batch on the command line is asked for. -/
structure BatchRequest where
  recipe : String
  patterns : List String
  outputDirectory : String
  printMetrics : Bool
  deriving DecidableEq, Repr, Inhabited

inductive Command where
  | bake (request : BakeRequest)
  | batch (request : BatchRequest)
  | validate (recipe : String)
  | listOperations
  | describe (operation : String)
  deriving DecidableEq, Repr, Inhabited

/-- What stands for a command where there is none to run. -/
inductive NoCommand where
  /-- The arguments write no command. -/
  | misuse
  | help
  | version
  deriving DecidableEq, Repr, Inhabited

/-- What may stand as a value. -/
inductive ValueForm where
  /-- A path, which is not empty. -/
  | path
  | text
  /-- The name of a kind. -/
  | kind
  deriving DecidableEq, Repr, Inhabited

/-- A text may stand as a value. -/
def ValueForm.admits (form : ValueForm) (value : String) : Bool :=
  match form with
  | path => !value.isEmpty
  | text => true
  | kind => (Kind.ofLabel? value).isSome

/-- The options and arguments of a command. -/
structure Form where
  arguments : List ValueForm
  /-- Any number of further arguments. -/
  further : Option ValueForm
  /-- Options with a value. -/
  options : List (String × ValueForm)
  flags : List String
  deriving Repr, Inhabited

/-- Options and arguments as they are given. -/
structure Given where
  arguments : List String
  options : List (String × String)
  flags : List String
  deriving Repr, Inhabited

namespace Form

def addArgument (form : Form) (given : Given) (value : String) : Except NoCommand Given :=
  match (form.arguments[given.arguments.length]?).or form.further with
  | some expected =>
    if expected.admits value then .ok { given with arguments := given.arguments ++ [value] }
    else .error .misuse
  | none => .error .misuse

def addArguments (form : Form) (given : Given) (values : List String) : Except NoCommand Given :=
  values.foldlM form.addArgument given

/-- Takes an option with its value. -/
def addOption (given : Given) (name : String) (expected : ValueForm) (value : String) :
    Except NoCommand Given :=
  if (given.options.lookup name).isSome || !expected.admits value then .error .misuse
  else .ok { given with options := (name, value) :: given.options }

/-- Takes an option without a value. -/
def addFlag (given : Given) (name : String) : Except NoCommand Given :=
  if given.flags.contains name then .error .misuse
  else .ok { given with flags := name :: given.flags }

/-- What an argument is by the look of it. -/
inductive Look where
  | value
  /-- Two hyphens. -/
  | divider
  | long (name : String) (attached : Option String)
  | short (letter : Char)

/-- What an argument is by the look of it. A hyphen alone is a value. -/
def look (argument : String) : Look :=
  match argument.toList with
  | ['-', '-'] => .divider
  | '-' :: '-' :: body =>
    let name := String.ofList (body.takeWhile (· != '='))
    match body.dropWhile (· != '=') with
    | [] => .long name none
    | _ :: attached => .long name (some (String.ofList attached))
  | '-' :: letter :: _ => .short letter
  | _ => .value

/-- The argument has the look of a value. -/
def isValue (argument : String) : Bool :=
  match look argument with
  | .value => true
  | _ => false

/-- What a letter behind a hyphen asks for. -/
def ofLetter (letter : Char) (versioned : Bool) : NoCommand :=
  if letter == 'h' then .help
  else if versioned && letter == 'V' then .version
  else .misuse

/-- Reads options and arguments from left to right, up to the first thing that is wrong. -/
def read (form : Form) : List String → Given → Except NoCommand Given
  | [], given => .ok given
  | argument :: rest, given =>
    match look argument with
    | .value => form.addArgument given argument >>= form.read rest
    | .divider => form.addArguments given rest
    | .short letter => .error (ofLetter letter false)
    | .long "help" none => .error .help
    | .long name attached =>
      match form.options.lookup name, attached with
      | some expected, some value => addOption given name expected value >>= form.read rest
      | some expected, none =>
        match rest with
        | value :: rest =>
          if isValue value then addOption given name expected value >>= form.read rest
          else .error .misuse
        | [] => .error .misuse
      | none, none =>
        if form.flags.contains name then addFlag given name >>= form.read rest else .error .misuse
      | none, some _ => .error .misuse

/-- Reads everything behind the name of a command. -/
def readAll (form : Form) (arguments : List String) : Except NoCommand Given := do
  let given ← form.read arguments ⟨[], [], []⟩
  let least := form.arguments.length + (if form.further.isSome then 1 else 0)
  if given.arguments.length < least then throw .misuse
  return given

end Form

namespace Given

def argument (given : Given) (i : Nat) : String := given.arguments.getD i ""

def option? (given : Given) (name : String) : Option String := given.options.lookup name

/-- An option without a value is given. -/
def has (given : Given) (name : String) : Bool := given.flags.contains name

end Given

namespace Command

def bakeForm : Form :=
  ⟨[.path], none,
    [("input", .path), ("output", .path), ("output-type", .kind), ("metrics-json", .path),
      ("metrics-prometheus", .path), ("report", .path)],
    ["ignore-breakpoints", "print-metrics"]⟩

def batchForm : Form := ⟨[.path], some .text, [("output-dir", .path)], ["print-metrics"]⟩

/-- The form of a command with one argument. -/
def oneArgument (form : ValueForm) : Form := ⟨[form], none, [], []⟩

/-- The form of a command without arguments. -/
def noArgument : Form := ⟨[], none, [], []⟩

def bakeOf (given : Given) : BakeRequest where
  recipe := given.argument 0
  input := given.option? "input"
  output := given.option? "output"
  outputKind := (given.option? "output-type").bind Kind.ofLabel?
  ignoreBreakpoints := given.has "ignore-breakpoints"
  printMetrics := given.has "print-metrics"
  metricsJson := given.option? "metrics-json"
  metricsExposition := given.option? "metrics-prometheus"
  report := given.option? "report"

/-- The request for a batch, which must name a directory. -/
def batchOf (given : Given) : Except NoCommand BatchRequest :=
  match given.option? "output-dir" with
  | some directory =>
    .ok ⟨given.argument 0, given.arguments.drop 1, directory, given.has "print-metrics"⟩
  | none => .error .misuse

def names : List String := ["bake", "batch", "validate", "list-operations", "describe", "help"]

/-- The command that asks for help: about everything, or about a command. -/
def helpOf : List String → NoCommand
  | [] => .help
  | [name] => if names.contains name then .help else .misuse
  | _ => .misuse

def ofArguments : List String → Except NoCommand Command
  | "bake" :: rest => (bakeForm.readAll rest).map fun given => bake (bakeOf given)
  | "batch" :: rest => do return batch (← batchOf (← batchForm.readAll rest))
  | "validate" :: rest =>
    ((oneArgument .path).readAll rest).map fun given => validate (given.argument 0)
  | "list-operations" :: rest => (noArgument.readAll rest).map fun _ => listOperations
  | "describe" :: rest =>
    ((oneArgument .text).readAll rest).map fun given => describe (given.argument 0)
  | "help" :: rest => .error (helpOf rest)
  | first :: _ =>
    match Form.look first with
    | .short letter => .error (Form.ofLetter letter true)
    | .long "help" none => .error .help
    | .long "version" none => .error .version
    | _ => .error .misuse
  | [] => .error .misuse

end Command
end Kitchen
