import Std.Data.ExtTreeMap

namespace Runbook

abbrev Dict (α : Type) : Type := Std.ExtTreeMap String α

namespace Dict

variable {α : Type}

/-- The map of a list of pairs; of a repeated key the last pair counts. -/
def ofPairs (pairs : List (String × α)) : Dict α :=
  pairs.foldl (fun map pair => map.insert pair.1 pair.2) ∅

def override (first second : Dict α) : Dict α :=
  second.toList.foldl (fun map pair => map.insert pair.1 pair.2) first

@[simp] theorem ofPairs_nil : ofPairs ([] : List (String × α)) = ∅ := rfl

theorem ofPairs_append_singleton (pairs : List (String × α)) (key : String) (value : α) :
    ofPairs (pairs ++ [(key, value)]) = (ofPairs pairs).insert key value := by
  simp [ofPairs, List.foldl_append]

end Dict

end Runbook
