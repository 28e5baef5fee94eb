import Kitchen.Operation.BuiltIn

/-!
# Specimens

Operations that show each way in which a body can behave: they keep values of every kind, give
values of another kind than they declare, refuse, break, crash and report. They serve to try out
what runs them.
-/

namespace Kitchen.Specimen

/-- A transformation by name and kinds with a given body. -/
def transformation (name : String) (input output : Kind) (body : Dish → Except Halt Dish) :
    Operation :=
  .ofTransform (.plain name input output) fun _ _ dish log => (body dish, log)

def onText (name : String) (output : Kind) (body : String → Except Halt Dish) : Operation :=
  transformation name .string output fun dish =>
    match dish.asText with
    | .ok text => body text
    | .error error => .error (.fault (.dish error))

/-- A transformation that never gives a dish. -/
def failing (name : String) (halt : Halt) : Operation :=
  transformation name .string .string fun _ => .error halt

/-! ## Kinds -/

/-- The word for a kind in the names of specimens. -/
def kindWord : Kind → String
  | .byteArray => "Bytes"
  | .arrayBuffer => "Buffer"
  | .string => "Text"
  | .number => "Number"
  | .bigNumber => "Big"
  | .json => "Json"
  | .listFile => "Files"
  | .html => "Html"

/-- Gives its input, of a kind. -/
def keep (kind : Kind) : Operation := transformation ("Keep " ++ kindWord kind) kind kind .ok

/-- Gives its input, text, where another kind is declared. -/
def textAs (kind : Kind) : Operation :=
  transformation ("Text As " ++ kindWord kind) .string kind .ok

/-- Gives markup where text is declared. -/
def markupAsText : Operation := onText "Html As Text" .string fun text => .ok (.html text)

def bold : Operation := onText "Markup" .html fun text => .ok (.html ("<b>" ++ text ++ "</b>"))

/-- Twice a number, if it fits into 64 bits. -/
def double : Operation :=
  transformation "Double" .number .number fun dish =>
    match dish with
    | .number n =>
      if fitsInt64 (2 * n.toInt) then .ok (.number (n + n))
      else .error (.fault (.invalid "overflow"))
    | _ => .error (.fault (.invalid "overflow"))

/-! ## Faults and crashes -/

def broken : Operation := failing "Broken" (.fault (.broken "index 7 out of bounds"))

/-- Breaks by a cause with a history. -/
def chained : Operation := failing "Chained" (.fault (.defect ⟨"outer", ["inner"]⟩))

def refuse : Operation :=
  onText "Refuse" .string fun text => .error (.fault (.invalid ("refused: " ++ text)))

def badDish : Operation := failing "Bad Dish" (.fault (.dish (.noConversionPath .html .json)))

def stop : Operation := failing "Stop" (.fault .cancelled)

def explode : Operation := failing "Explode" (.crash (some "slice index 9 out of range"))

/-- Crashes with a text of its own. -/
def explodeText : Operation :=
  onText "Explode Text" .string fun text => .error (.crash (some ("boom: " ++ text)))

def explodeOdd : Operation := failing "Explode Odd" (.crash none)

/-- Crashes on one text and keeps all else. -/
def later : Operation :=
  transformation "Later" .string .string fun dish =>
    match dish with
    | .string "boom" => .error (.crash (some "gave up"))
    | dish => .ok dish

/-! ## Context, flow and arguments -/

/-- Reports what it sees of its context, with percentages beyond the cap, in between and absent. -/
def report : Operation :=
  .ofTransform (.plain "Report" .string .string) fun context _ dish log =>
    if context.control.isCancelled log then (.error (.fault .cancelled), log)
    else
      let log := context.report s!"{context.operation}#{context.step}" (some 250) log
      let log := context.report "half" (some 50) log
      (.ok dish, context.report "none" none log)

/-- Claims to control the flow but has no body for it. -/
def badFlow : Operation :=
  let descriptor := { Descriptor.plain "Bad Flow" .string .string with flowControl := true }
  .ofTransform descriptor fun _ _ dish log => (.ok dish, log)

/-- An argument as JSON; numbers are given by their text. -/
def argumentJson : Argument → Json
  | .bool b => .bool b
  | .number x => .ofMembers [("number", .string (Binary64.plain.text x))]
  | .text s => .string s
  | .toggle s option => .ofMembers [("string", .string s), ("option", .string option)]

def echoArguments : Operation :=
  .ofFunction
    { Descriptor.plain "Echo Args" .string .json with
      parameters :=
        [.string "S" "s",
          (Parameter.number "N" (.ofNat 3)).range (some (.ofNat 0)) (some (.ofNat 10)),
          .boolean "B" false, .option "O" ["Fast", "Slow"], .toggle "T" "" ["Hex", "UTF8"],
          .text "X" ""] }
    fun args _ => .ok (.json (.array (args.map argumentJson)))

def operations : List Operation :=
  Kind.all.map keep ++ [double, bold] ++
    [Kind.number, Kind.bigNumber, Kind.json, Kind.listFile, Kind.html, Kind.byteArray].map textAs ++
    [markupAsText, broken, chained, refuse, badDish, stop, explode, explodeText, explodeOdd, later,
      report, badFlow, echoArguments]

/-- The built-in operations and the specimens. -/
def registry : Registry := Registry.builtIn.registerAll operations

end Kitchen.Specimen
