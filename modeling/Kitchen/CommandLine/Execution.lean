import Kitchen.CommandLine.Host
import Kitchen.CommandLine.Report
import Kitchen.CommandLine.Usage
import Kitchen.Metrics.Exposition
import Kitchen.Operation.BuiltIn
import Kitchen.Recipe.OfNode
import Kitchen.Validation

/-!
# Execution of commands

What the commands do with the system around them. A command ends well or with the first fault that
it meets; what it has written before the fault stays.
-/

namespace Kitchen

/-- Why a command does not end well. -/
inductive CommandFault where
  | unreadableRecipe (path : String)
  | badRecipe (path : String)
  | unreadableInput (path : String)
  | badPattern (pattern : String)
  | noMatch (pattern : String)
  | noOutputDirectory (path : String)
  | noDirectory (path : String)
  | noFile (path : String)
  | unwritableOutput (path : String)
  | unwritableMetrics (path : String)
  | unservable (kind : Kind)
  | bake (failure : Failure)
  | bakes (failed total : Nat)
  | invalidRecipe
  | unknownOperation (message : String)
  /-- The turns or visits allowed did not suffice. -/
  | exhausted

def CommandFault.message : CommandFault → String
  | unreadableRecipe path => s!"Failed to read recipe file: {path}"
  | badRecipe path => s!"Failed to parse recipe YAML: {path}"
  | unreadableInput path => s!"Failed to read input file: {path}"
  | badPattern pattern => s!"Invalid glob pattern: {pattern}"
  | noMatch pattern => s!"No inputs matched pattern: {pattern}"
  | noOutputDirectory path => s!"Failed to create output directory: {path}"
  | noDirectory path => s!"Failed to create directory: {path}"
  | noFile path => s!"Failed to create file: {path}"
  | unwritableOutput path => s!"Failed to write output file: {path}"
  | unwritableMetrics path => s!"Failed to write Prometheus metrics: {path}"
  | unservable kind => s!"Failed to serialise {kind.label} dish for output"
  | bake failure =>
    s!"Bake failed at step {failure.step} ('{failure.operation}'): {failure.message}"
  | bakes failed total => s!"{failed} of {total} bake(s) failed"
  | invalidRecipe => "Recipe validation failed"
  | unknownOperation message => message
  | exhausted => "Gave up: the turns allowed did not suffice"

abbrev CommandM (m : Type → Type) := ExceptT CommandFault m

namespace Host

variable {m : Type → Type} [Monad m]

/-! ## Reading -/

/-- Asks for something that must be there. -/
def need (request : m (Option α)) (fault : CommandFault) : CommandM m α := do
  match ← (request : CommandM m (Option α)) with
  | some answer => return answer
  | none => throw fault

/-- Asks for something that must be done. -/
def must (request : m Bool) (fault : CommandFault) : CommandM m Unit := do
  if !(← (request : CommandM m Bool)) then throw fault

/-- Reads a recipe from a file. -/
def readRecipe (host : Host m) (path : String) : CommandM m Recipe := do
  let bytes ← need (host.readFile path) (.unreadableRecipe path)
  let text ← need (pure (Text.utf8Decode bytes).toOption) (.unreadableRecipe path)
  need (pure (Recipe.ofText? text)) (.badRecipe path)

/-- Reads a file as a dish. -/
def readDish (host : Host m) (path : String) : CommandM m Dish := do
  return .byteArray (← need (host.readFile path) (.unreadableInput path))

/-- Reads a file, or else the input, as a dish. -/
def readInput (host : Host m) : Option String → CommandM m Dish
  | some path => host.readDish path
  | none => return .byteArray (← host.input)

/-! ## Writing -/

/-- Makes the directory around a path. -/
def makeParent (host : Host m) (path : String) : CommandM m Unit := do
  match Path.parent? path with
  | some directory =>
    if !directory.isEmpty then must (host.makeDirectory directory) (.noDirectory directory)
  | none => return

/-- Writes a file and makes the directory around it. -/
def write (host : Host m) (path : String) (content : List UInt8) (fault : CommandFault) :
    CommandM m Unit := do
  host.makeParent path
  must (host.writeFile path content) fault

def writeReport (host : Host m) (path : String) (report : Json) : CommandM m Unit :=
  host.write path (Text.utf8Encode (reportText report)) (.noFile path)

/-- Writes what a request asks for about metrics. -/
def writeMetrics (host : Host m) (request : BakeRequest) (metrics : Metrics) : CommandM m Unit := do
  if request.printMetrics then host.note metrics.toJson.compact
  if let some path := request.metricsJson then host.writeReport path metrics.toJson
  if let some path := request.metricsExposition then
    host.write path (Text.utf8Encode metrics.exposition) (.unwritableMetrics path)

end Host

/-- The bytes of a dish for a file; markup is written as it is. -/
def Dish.served (dish : Dish) : Except CommandFault (List UInt8) :=
  match dish with
  | .html markup => .ok (Text.utf8Encode markup)
  | dish => ((dish.convert .byteArray).bind Dish.asBytes).mapError fun _ => .unservable dish.kind

namespace Host

variable {m : Type → Type} [Monad m]

/-- Writes a dish to a file, or else to the output. -/
def writeDish (host : Host m) (path : Option String) (dish : Dish) : CommandM m Unit := do
  let bytes ← dish.served
  match path with
  | some path => host.write path bytes (.unwritableOutput path)
  | none => host.output bytes

/-! ## Commands -/

/-- Bakes one input. A bake that stops at a breakpoint gives the dish as it stands. -/
def bake (host : Host m) (fuel : Nat) (request : BakeRequest) : CommandM m Unit := do
  let recipe ← host.readRecipe request.recipe
  let options := { recipe.options with
    outputKind := request.outputKind.or recipe.options.outputKind }
  let input ← host.readInput request.input
  let control := { Control.default with honourBreakpoints := !request.ignoreBreakpoints }
  let baked := (Chef.new .builtIn).bake fuel { recipe with options } input control
  let (attempt, chef) ← need (pure baked) .exhausted
  host.writeMetrics request chef.metrics
  if let some path := request.report then host.writeReport path (resultJson attempt.result)
  match attempt.result with
  | .error failure => throw (.bake failure)
  | .ok outcome =>
    if let .paused step := outcome.status then
      host.note s!"Paused at breakpoint {step}; writing the dish as it stands"
    host.writeDish request.output outcome.dish

/-- The files that patterns stand for, every pattern for at least one. -/
def expand (host : Host m) (fuel : Nat) : List String → CommandM m (List String)
  | [] => return []
  | pattern :: rest => do
    let glob ← need (pure (Glob.ofText? pattern)) (.badPattern pattern)
    let found ← need (host.filesOf fuel glob) .exhausted
    if found.isEmpty then throw (.noMatch pattern)
    return found ++ (← host.expand fuel rest)

/-- The path of the output for an input. -/
def outputPath (directory input : String) : String :=
  let name := (Path.fileName? input).getD ""
  Path.join directory ((if name.isEmpty then "dish" else Path.stem name) ++ ".out")

/-- Writes the results of a batch, and says how many bakes have failed. -/
def writeResults (host : Host m) (directory : String) : List (String × Result) → CommandM m Nat
  | [] => return 0
  | (input, .ok outcome) :: rest => do
    host.writeDish (outputPath directory input) outcome.dish
    host.writeResults directory rest
  | (input, .error failure) :: rest => do
    host.note s!"{input}: {failure.display}"
    return (← host.writeResults directory rest) + 1

/-- Bakes all files that patterns stand for. -/
def batch (host : Host m) (fuel : Nat) (request : BatchRequest) : CommandM m Unit := do
  let recipe ← host.readRecipe request.recipe
  let inputs ← host.expand fuel request.patterns
  let directory := request.outputDirectory
  must (host.makeDirectory directory) (.noOutputDirectory directory)
  let dishes ← inputs.mapM host.readDish
  let (results, chef) ← need (pure ((Chef.new .builtIn).bakeBatch fuel recipe dishes)) .exhausted
  let failed ← host.writeResults directory (inputs.zip results)
  if request.printMetrics then host.note chef.metrics.toJson.compact
  if failed ≠ 0 then throw (.bakes failed inputs.length)

def validate (host : Host m) (path : String) : CommandM m Unit := do
  let recipe ← host.readRecipe path
  let report := Registry.builtIn.validate recipe
  for warning in report.warnings do host.note warning
  for error in report.errors do host.note error
  if !report.isOk then throw .invalidRecipe

/-- The width of the names in a list of operations. -/
def nameWidth : Nat := 20

/-- The line of an operation in a list. -/
def operationLine (descriptor : Descriptor) : String :=
  let kinds := if descriptor.flowControl then "flow"
    else s!"{descriptor.input.label} -> {descriptor.output.label}"
  descriptor.name.pushn ' ' (nameWidth - descriptor.name.length) ++ s!" {kinds}\n"

def listOperations (host : Host m) : CommandM m Unit :=
  let lines := Registry.builtIn.operations.map fun operation => operationLine operation.descriptor
  host.output (Text.utf8Encode (String.join lines))

def describe (host : Host m) (name : String) : CommandM m Unit :=
  match Registry.builtIn.resolve name with
  | .ok operation => host.output (Text.utf8Encode (reportText operation.descriptor.toJson ++ "\n"))
  | .error message => throw (.unknownOperation message)

def run (host : Host m) (fuel : Nat) : Command → CommandM m Unit
  | .bake request => host.bake fuel request
  | .batch request => host.batch fuel request
  | .validate recipe => host.validate recipe
  | .listOperations => host.listOperations
  | .describe operation => host.describe operation

end Host

/-! ## Endings -/

/-- The code with which a command ends, and the message of its fault. -/
structure Ending where
  code : Nat
  message : Option String
  deriving DecidableEq, Repr, Inhabited

namespace Ending

def success : Ending := ⟨0, none⟩

def ofFault (fault : CommandFault) : Ending := ⟨1, some fault.message⟩

/-- The ending where the arguments write no command. -/
def misuse : Ending := ⟨2, none⟩

end Ending

/-- The name and the version of the program. -/
def programVersion : String := "bakehouse 0.1.0"

def helpText : String :=
  "Run recipes of chained data operations over files or stdin\n\n" ++
  "Usage: bakehouse <COMMAND>\n\nCommands:\n" ++
  String.join (Command.names.map fun name => s!"  {name}\n")

/-- Runs the command that arguments write. -/
def Host.execute {m : Type → Type} [Monad m] (host : Host m) (fuel : Nat)
    (arguments : List String) : m Ending := do
  match Command.ofArguments arguments with
  | .error .misuse => return .misuse
  | .error .help =>
    host.output (Text.utf8Encode helpText)
    return .success
  | .error .version =>
    host.output (Text.utf8Encode (programVersion ++ "\n"))
    return .success
  | .ok command =>
    match ← (host.run fuel command).run with
    | .ok () => return .success
    | .error fault => return .ofFault fault

end Kitchen
