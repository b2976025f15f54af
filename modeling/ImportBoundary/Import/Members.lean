import ImportBoundary.Import.Marked

/-!
Contract: the members of a namespace that a source accesses.

Owns `Source.membersOf`, the member names in the order of their first access, each once, and the
statement that hands an import's names on.
-/

namespace ImportBoundary.Source

/-- The names without the later repetitions. -/
def firstOccurrences : List String → List String
  | [] => []
  | name :: rest => name :: (firstOccurrences rest).filter (· ≠ name)

/-- The member of the namespace that a node accesses, if it accesses one. -/
def accessOf (source : Source) (namespaceName : String) (node : Node) :
    Except Failure (Option String) := do
  match ← source.memberParts node with
  | some (object, member) => .ok (if object = namespaceName then some member else none)
  | none => .ok none

/-- The members of a namespace that the source accesses, in the order of their first access. -/
def membersOf (source : Source) (namespaceName : String) : Except Failure (List String) :=
  (gather (source.accessOf namespaceName) source.root.walk).map firstOccurrences

/-- The statement that hands the names of an import on. -/
def exportStatement (source : Source) (parts : ImportParts) : Except Failure String := do
  let members ← match nonEmpty parts.namespaceName with
    | some name => source.membersOf name
    | none => .ok []
  .ok (parts.exportStatement members)

end ImportBoundary.Source
