import Kitchen.Operation.Basic

/-!
# Registries

Operations by name. A name stands for one operation: a later one takes the place of an earlier.
-/

namespace Kitchen

/-- Operations in the order of their names. -/
structure Registry where
  operations : List Operation

namespace Registry

def empty : Registry := ⟨[]⟩

/-- Puts an operation into a list ordered by name. -/
def insertByName (operation : Operation) : List Operation → List Operation
  | [] => [operation]
  | first :: rest =>
    if operation.name = first.name then operation :: rest
    else if operation.name < first.name then operation :: first :: rest
    else first :: insertByName operation rest

/-- The registry with an operation more. -/
def register (registry : Registry) (operation : Operation) : Registry :=
  ⟨insertByName operation registry.operations⟩

/-- The registry with several operations more, in their order. -/
def registerAll (registry : Registry) (operations : List Operation) : Registry :=
  operations.foldl register registry

def get? (registry : Registry) (name : String) : Option Operation :=
  registry.operations.find? fun operation => operation.name == name

/-- The names of all operations, in order. -/
def names (registry : Registry) : List String := registry.operations.map Operation.name

/-- The message for a name that no operation has. -/
def unknownMessage (registry : Registry) (name : String) : String :=
  s!"Unknown operation '{name}'. Available operations: " ++ ", ".intercalate registry.names

/-- The operation of a name, or the message that there is none. -/
def resolve (registry : Registry) (name : String) : Except String Operation :=
  match registry.get? name with
  | some operation => .ok operation
  | none => .error (registry.unknownMessage name)

end Registry
end Kitchen
