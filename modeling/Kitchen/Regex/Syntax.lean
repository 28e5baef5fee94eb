import Kitchen.Regex.CharSet

/-!
# Regular expressions

The expressions that patterns stand for, with all flags resolved: an expression says by itself which
characters it takes and where it asserts something about its surroundings.
-/

namespace Kitchen.Regex

/-- Assertions about a position between two characters. -/
inductive Look where
  | textStart
  | textEnd
  | lineStart
  | lineEnd
  /-- Line start and end where a carriage return also ends lines. -/
  | returnLineStart
  | returnLineEnd
  | wordBoundary (unicode : Bool)
  | notWordBoundary (unicode : Bool)
  | wordStart (unicode : Bool)
  | wordEnd (unicode : Bool)
  | wordStartHalf (unicode : Bool)
  | wordEndHalf (unicode : Bool)
  deriving DecidableEq, Repr, Inhabited

inductive Expr where
  | empty
  | set (chars : CharSet)
  | look (kind : Look)
  | concat (items : List Expr)
  | alternate (choices : List Expr)
  /-- At least `min` and, if it is given, at most `max` copies; as many as possible if greedy. -/
  | repeated (body : Expr) (min : Nat) (max : Option Nat) (greedy : Bool)
  /-- A group that remembers where it matched. -/
  | capture (index : Nat) (name : Option String) (body : Expr)
  | group (body : Expr)
  deriving Repr, Inhabited

namespace Expr

mutual

/-- The expression matches nothing but the empty text. -/
def isEmptyOnly : Expr → Bool
  | empty => true
  | set _ => false
  | look _ => true
  | concat items => areEmptyOnly items
  | alternate choices => areEmptyOnly choices
  | repeated body _ _ _ => isEmptyOnly body
  | capture _ _ body => isEmptyOnly body
  | group body => isEmptyOnly body

/-- All expressions match nothing but the empty text. -/
def areEmptyOnly : List Expr → Bool
  | [] => true
  | e :: rest => isEmptyOnly e && areEmptyOnly rest

end

mutual

/-- The expression cannot match the empty text, though it can match some text. -/
def isNonempty : Expr → Bool
  | empty => false
  | set chars => !chars.isEmpty
  | look _ => false
  | concat items => anyNonempty items
  | alternate choices => allNonempty choices
  | repeated body min _ _ => decide (0 < min) && isNonempty body
  | capture _ _ body => isNonempty body
  | group body => isNonempty body

/-- Some expression cannot match the empty text. -/
def anyNonempty : List Expr → Bool
  | [] => false
  | e :: rest => isNonempty e || anyNonempty rest

/-- No expression can match the empty text. -/
def allNonempty : List Expr → Bool
  | [] => true
  | e :: rest => isNonempty e && allNonempty rest

end

mutual

def depth : Expr → Nat
  | empty => 0
  | set _ => 0
  | look _ => 0
  | concat items => 1 + maxDepth items
  | alternate choices => 1 + maxDepth choices
  | repeated body _ _ _ => 1 + depth body
  | capture _ _ body => 1 + depth body
  | group body => 1 + depth body

/-- The depth of the deepest expression. -/
def maxDepth : List Expr → Nat
  | [] => 0
  | e :: rest => max (depth e) (maxDepth rest)

end

/-- Copies of an expression. Repeating what only matches the empty text is the same as matching it
at most once; no copies are the empty expression, and one copy is the expression itself. -/
def copies (body : Expr) (least : Nat) (most : Option Nat) (greedy : Bool) : Expr :=
  let (least, most) :=
    if body.isEmptyOnly then (min least 1, some (min (most.getD 1) 1)) else (least, most)
  match least, most with
  | 0, some 0 => .empty
  | 1, some 1 => .group body
  | least, most => .repeated body least most greedy

end Expr
end Kitchen.Regex
