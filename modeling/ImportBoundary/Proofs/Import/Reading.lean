import ImportBoundary.Proofs.Build.Emission
import ImportBoundary.Proofs.Import.Exports
import ImportBoundary.Proofs.Import.Legible

/-!
Contract: what can be read from a well-formed source.

Owns that every node of such a source has a text, and from it that the modules of its imports can all
be made. Also owns the one thing that a grammar promises about the literal an import names its
source with: it is not empty unless it is faulty.

Main statements: `exists_boundariesOf`, and `nonempty_of_literals`, by which the imports of a clean
source have source nodes to replace.
-/

namespace ImportBoundary.Source

variable {source : Source}

/-! ## Texts -/

theorem WellFormed.legible (wellFormed : source.WellFormed)
    (encoded : Utf8.IsEncoded source.octets) : source.Legible := by
  intro node inTree
  have orderly := wellFormed.tree node inTree
  obtain ⟨atStart, atStop⟩ := wellFormed.boundaries node inTree
  obtain ⟨text, decoded⟩ := (encoded.slice orderly.start_le_stop atStart atStop).decoded
  refine ⟨text, ?_⟩
  show (Utf8.decode (source.slice node)).mapError Failure.undecodable = .ok text
  rw [slice, Node.extent, decoded]
  rfl

/-! ## Modules -/

theorem Legible.exists_membersFor (legible : source.Legible) (parts : ImportParts) :
    ∃ members, source.membersFor parts = .ok members := by
  unfold membersFor
  split
  · exact legible.exists_membersOf _
  · exact ⟨[], rfl⟩

theorem exists_boundariesOf (wellFormed : source.WellFormed)
    (encoded : Utf8.IsEncoded source.octets) (root : FilePath) (imports : List MarkedImport) :
    ∃ boundaries, source.boundariesOf root imports = .ok boundaries := by
  apply exists_mapM
  intro marked _
  obtain ⟨members, collected⟩ := (wellFormed.legible encoded).exists_membersFor marked.parts
  exact ⟨_, boundaryOf_eq_ok_iff.mpr ⟨members, collected, rfl⟩⟩

/-! ## The literals of import sources -/

/-- The literal with which an import names its source is not empty, unless something in it is a fault.
A grammar that writes literals between quotes keeps this for every text. -/
def LiteralsWritten (source : Source) : Prop :=
  ∀ statement ∈ source.root.walk, statement.kind = "import_statement" →
    ∀ literal ∈ statement.child? "source",
      literal.start < literal.stop ∨ ∃ inner ∈ literal.walk, inner.isFault = true

instance (source : Source) : Decidable source.LiteralsWritten :=
  inferInstanceAs (Decidable (∀ statement ∈ source.root.walk,
    statement.kind = "import_statement" → ∀ literal ∈ statement.child? "source",
      literal.start < literal.stop ∨ ∃ inner ∈ literal.walk, inner.isFault = true))

/-- A clean source has no faulty node. -/
theorem isFault_eq_false (clean : source.ensureClean = .ok ()) {node : Node}
    (inTree : node ∈ source.root.walk) : node.isFault = false := by
  have noFaults : source.syntaxFaults = [] := by
    unfold ensureClean at clean
    split at clean
    · assumption
    · cases clean
  apply Bool.eq_false_iff.mpr
  exact List.filter_eq_nil_iff.mp noFaults node inTree

theorem nonempty_of_literals (literals : source.LiteralsWritten)
    (clean : source.ensureClean = .ok ()) {imports : List MarkedImport}
    (found : source.markedImports = .ok imports) :
    ∀ marked ∈ imports, marked.sourceNode.start < marked.sourceNode.stop := by
  intro marked isImport
  obtain ⟨statement, inTree, read⟩ := exists_mem_of_mem_gather found isImport
  have reads := reads_of_markedImport? read
  have isChild := Node.mem_children_of_child? reads.sourceNode_eq
  rcases literals statement inTree reads.isStatement _ reads.sourceNode_eq with
    nonempty | ⟨inner, within, isFault⟩
  · exact nonempty
  · have inSource : inner ∈ source.root.walk :=
      Node.mem_walk_trans inTree (Node.mem_walk_of_child isChild within)
    rw [isFault_eq_false clean inSource] at isFault
    cases isFault

end ImportBoundary.Source
