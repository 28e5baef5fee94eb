import Kitchen.Regex.Syntax

/-!
# Matching programs

An expression as a list of instructions. A run starts at the first instruction and has matched when
it comes past the last one. Where a run may go on in two ways, the instruction says which way is
preferred.
-/

namespace Kitchen.Regex

/-- An instruction. Offsets count from the instruction itself. -/
inductive Instruction where
  /-- Takes a character of a set. -/
  | take (chars : CharSet)
  | look (kind : Look)
  /-- Remembers the position. -/
  | save (slot : Nat)
  /-- Goes on in two ways, the preferred one first. -/
  | fork (first second : Int)
  | jump (offset : Int)
  deriving DecidableEq, Repr, Inhabited

/-- The instructions of a run; runs end behind the last one. -/
abbrev Code := List Instruction

namespace Code

/-- Goes on at the next instruction or at an offset; a greedy choice prefers the next
instruction. -/
def choice (greedy : Bool) (offset : Int) : Instruction :=
  if greedy then .fork 1 offset else .fork offset 1

/-- At least one copy. -/
def plus (body : Code) (greedy : Bool) : Code :=
  body ++ [if greedy then .fork (-body.length) 1 else .fork 1 (-body.length)]

/-- Any number of copies. A body that can match the empty text is tried at least once where a copy
is preferred, so that preferences hold inside it. -/
def star (body : Code) (greedy nonempty : Bool) : Code :=
  if nonempty then
    choice greedy (body.length + 2) :: body ++ [.jump (-(body.length + 1))]
  else choice greedy (body.length + 2) :: plus body greedy

/-- At most a number of copies, each of which may be the last. -/
def optional (body : Code) (greedy : Bool) : Nat → Code
  | 0 => []
  | n + 1 =>
    let rest := optional body greedy n
    choice greedy (body.length + rest.length + 1) :: body ++ rest

def copies (body : Code) (n : Nat) : Code := (List.replicate n body).flatten

/-- The copies that a repetition asks for. -/
def repetition (body : Code) (greedy nonempty : Bool) (least : Nat) : Option Nat → Code
  | some most => copies body least ++ optional body greedy (most - least)
  | none => match least with
    | 0 => star body greedy nonempty
    | n + 1 => copies body n ++ plus body greedy

/-- Two choices, the first one preferred. -/
def either (first second : Code) : Code :=
  .fork 1 (first.length + 2) :: first ++ .jump (second.length + 1) :: second

end Code

namespace Expr

mutual

def code : Expr → Code
  | empty => []
  | set chars => [.take chars]
  | look kind => [.look kind]
  | concat items => sequenceCode items
  | alternate choices => choiceCode choices
  | repeated body least most greedy => (code body).repetition greedy body.isNonempty least most
  | capture index _ body => .save (2 * index) :: code body ++ [.save (2 * index + 1)]
  | group body => code body

/-- The instructions of expressions one after another. -/
def sequenceCode : List Expr → Code
  | [] => []
  | e :: rest => code e ++ sequenceCode rest

/-- The instructions of a choice between expressions, the earlier ones preferred. -/
def choiceCode : List Expr → Code
  | [] => []
  | [e] => code e
  | e :: rest => .either (code e) (choiceCode rest)

end

/-! ## Groups -/

mutual

/-- The groups of an expression that remember, by index and name. -/
def groups : Expr → List (Nat × Option String)
  | empty => []
  | set _ => []
  | look _ => []
  | concat items => listGroups items
  | alternate choices => listGroups choices
  | repeated body _ _ _ => groups body
  | capture index name body => (index, name) :: groups body
  | group body => groups body

def listGroups : List Expr → List (Nat × Option String)
  | [] => []
  | e :: rest => groups e ++ listGroups rest

end

/-- The names of the groups from the first to the one of the greatest index. -/
def groupNames (e : Expr) : List (Option String) :=
  let found := e.groups
  let count := found.foldl (fun n group => max n group.1) 0
  (List.range' 1 count).map fun index => (found.lookup index).join

/-! ## Size -/

/-- The bytes that one state of a matcher takes. -/
def stateBytes : Nat := 32

/-- The number of encoded lengths that the characters of a range have. -/
def encodedLengths (lo hi : Nat) : Nat :=
  ([(0, 0x7F), (0x80, 0x7FF), (0x800, 0xFFFF), (0x10000, 0x10FFFF)].filter fun (first, last) =>
    decide (lo ≤ last) && decide (first ≤ hi)).length

/-- The bytes of a state with a way on for every range. A range beyond ASCII takes several states, for
the bytes of its characters. -/
def rangeBytes (chars : CharSet) : Nat :=
  chars.foldl (fun n (lo, hi) => n + if hi < 0x80 then 8 else 60 * encodedLengths lo hi) stateBytes

/-- The bytes that a set takes. A single character takes a state for each of its bytes. -/
def setBytes (chars : CharSet) : Nat :=
  match chars with
  | [(lo, hi)] => if lo = hi then stateBytes * (Char.ofNat lo).utf8Size else rangeBytes [(lo, hi)]
  | chars => rangeBytes chars

mutual

/-- The bytes that an expression takes, with all copies written out. -/
def bytes : Expr → Nat
  | empty => stateBytes
  | set chars => setBytes chars
  | look _ => stateBytes
  | concat items => listBytes items
  | alternate choices => stateBytes + listBytes choices
  | repeated body least most _ => max 1 (most.getD (least + 1)) * (bytes body + stateBytes)
  | capture _ _ body => 2 * stateBytes + bytes body
  | group body => bytes body

/-- The bytes that several expressions take. -/
def listBytes : List Expr → Nat
  | [] => 0
  | e :: rest => bytes e + listBytes rest

end

end Expr
end Kitchen.Regex
