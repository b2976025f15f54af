/-!
Contract: values under keys, in the order in which the keys were first set.

Owns `Table.set` on lists of pairs. Main statements: `lookup_set_self` and `lookup_set_of_ne` say what
every key holds afterwards, and `keys_set` that a key keeps its place.
-/

namespace ImportBoundary.Table

variable {α β : Type} [BEq α]

def set (key : α) (value : β) : List (α × β) → List (α × β)
  | [] => [(key, value)]
  | entry :: rest => if entry.1 == key then (key, value) :: rest else entry :: set key value rest

variable [LawfulBEq α]

/-- The key that is set holds its value. -/
@[simp] theorem lookup_set_self (key : α) (value : β) (entries : List (α × β)) :
    (set key value entries).lookup key = some value := by
  induction entries with
  | nil => simp [set]
  | cons entry rest inductionHypothesis =>
    obtain ⟨first, held⟩ := entry
    by_cases same : first = key
    · simp [set, same]
    · have other : (key == first) = false := beq_false_of_ne (Ne.symm same)
      simp [set, same, List.lookup_cons, other, inductionHypothesis]

/-- Every other key holds what it held. -/
theorem lookup_set_of_ne {key other : α} (different : other ≠ key) (value : β)
    (entries : List (α × β)) :
    (set key value entries).lookup other = entries.lookup other := by
  induction entries with
  | nil => simp [set, List.lookup_cons, beq_false_of_ne different]
  | cons entry rest inductionHypothesis =>
    obtain ⟨first, held⟩ := entry
    by_cases same : first = key
    · simp [set, same, List.lookup_cons, beq_false_of_ne different]
    · simp [set, same, List.lookup_cons, inductionHypothesis]

/-- A key that is there keeps its place, and a new one comes last. -/
theorem keys_set [DecidableEq α] (key : α) (value : β) (entries : List (α × β)) :
    (set key value entries).map Prod.fst =
      if key ∈ entries.map Prod.fst then entries.map Prod.fst
      else entries.map Prod.fst ++ [key] := by
  induction entries with
  | nil => simp [set]
  | cons entry rest inductionHypothesis =>
    by_cases same : entry.1 = key
    · simp [set, same]
    · have different : ¬ key = entry.1 := fun equal => same equal.symm
      by_cases member : key ∈ rest.map Prod.fst
      · simp [set, same, inductionHypothesis, member, -List.mem_map]
      · simp [set, same, inductionHypothesis, member, different, -List.mem_map]

end ImportBoundary.Table
