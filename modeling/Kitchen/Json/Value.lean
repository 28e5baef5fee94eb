import Kitchen.Number.Binary64

/-!
# JSON values

Documents with their members in the order of first appearance. A whole number that 64 bits hold is
kept exactly; every other number is a binary64 number.
-/

namespace Kitchen

inductive JsonNumber where
  /-- A whole number from `-2 ^ 63` below `2 ^ 64`. -/
  | whole (n : Int)
  | binary (x : Binary64)
  deriving DecidableEq, Repr, Inhabited

/-- A document. -/
inductive Json where
  | null
  | bool (b : Bool)
  | number (n : JsonNumber)
  | string (text : String)
  | array (items : List Json)
  | object (members : List (String × Json))
  deriving Repr, Inhabited

namespace Json

/-- Puts a member into an object: a known key keeps its place and takes the new value. -/
def insertMember (key : String) (value : Json) : List (String × Json) → List (String × Json)
  | [] => [(key, value)]
  | (k, v) :: rest => if k = key then (k, value) :: rest else (k, v) :: insertMember key value rest

/-- The object of members that may repeat keys. -/
def ofMembers (members : List (String × Json)) : Json :=
  .object (members.foldl (fun object (key, value) => insertMember key value object) [])

def field? (key : String) : Json → Option Json
  | object members => members.lookup key
  | _ => none

def ofInt (n : Int) : Json := .number (.whole n)

def ofNat (n : Nat) : Json := .number (.whole n)

end Json
end Kitchen
