import Kitchen.Metrics.Basic

/-!
# Batches

Baking many inputs by one recipe. A failure concerns its own input only.
-/

namespace Kitchen

def Chef.bakeBatch (chef : Chef) (fuel : Nat) (recipe : Recipe) :
    List Dish → Option (List Result × Chef)
  | [] => some ([], chef)
  | input :: rest =>
    match chef.bake fuel recipe input .default with
    | none => none
    | some (attempt, chef) =>
      (chef.bakeBatch fuel recipe rest).map fun (results, chef) => (attempt.result :: results, chef)

end Kitchen
