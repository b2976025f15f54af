import ImportBoundary.Import.Marked
import ImportBoundary.Proofs.Collecting
import ImportBoundary.Proofs.Import.Written
import ImportBoundary.Proofs.Syntax.DocumentOrder
import ImportBoundary.Proofs.Text.Utf8

/-!
Contract: where the marked imports of a source stand in its text.

Owns what the reading of a marked import says about its nodes and parts, well-formed sources, and
the order of source nodes and attribute clauses in them.

Main statements: `reads_of_markedImport?` says from which nodes a marked import is read, and
`pairwise_markedImports` that the ranges of marked imports follow one another.
-/

namespace ImportBoundary

namespace Source

/-! ## What a marked import is read from -/

/-- The nodes and parts of a marked import, as they are read from its statement. Without an import
clause nothing is bound. -/
structure Reads (source : Source) (statement : Node) (marked : MarkedImport) : Prop where
  isStatement : statement.kind = "import_statement"
  isMarked : source.isMarked statement = .ok true
  node_eq : marked.node = statement
  sourceNode_eq : statement.child? "source" = some marked.sourceNode
  attributeNode_eq : statement.firstOfKind? "import_attribute" = some marked.attributeNode
  text_sourceNode : source.text marked.sourceNode = .ok marked.parts.source
  bindsNothing : marked.parts.hasClause = false → marked.parts.BindsNothing

/-- The bindings of a clause leave what else is known of an import. -/
private theorem hasClause_addBinding {source : Source} {parts bound : ImportParts} {child : Node}
    (added : source.addBinding parts child = .ok bound) : bound.hasClause = parts.hasClause := by
  unfold addBinding at added
  split at added
  · obtain ⟨name, _, result⟩ := bind_eq_ok_iff.mp added
    cases result
    rfl
  · split at added
    · split at added
      · cases added
        rfl
      · obtain ⟨name, _, result⟩ := bind_eq_ok_iff.mp added
        cases result
        rfl
    · split at added
      · obtain ⟨specifiers, _, result⟩ := bind_eq_ok_iff.mp added
        cases result
        rfl
      · cases added
        rfl

private theorem hasClause_addBindings {source : Source} {children : List Node}
    {parts bound : ImportParts} (added : children.foldlM source.addBinding parts = .ok bound) :
    bound.hasClause = parts.hasClause := by
  induction children generalizing parts with
  | nil =>
      cases added
      rfl
  | cons child rest inductionHypothesis =>
      rw [List.foldlM_cons] at added
      obtain ⟨next, first, remaining⟩ := bind_eq_ok_iff.mp added
      rw [inductionHypothesis remaining, hasClause_addBinding first]

theorem reads_of_markedImport? {source : Source} {statement : Node} {marked : MarkedImport}
    (found : source.markedImport? statement = .ok (some marked)) :
    source.Reads statement marked := by
  unfold markedImport? at found
  by_cases isStatement : statement.kind = "import_statement"
  · rw [if_neg (by simp [isStatement])] at found
    obtain ⟨isMarked, marks, read⟩ := bind_eq_ok_iff.mp found
    cases isMarked with
    | false => cases read
    | true =>
        rw [if_pos rfl] at read
        split at read
        · rename_i sourceNode attributeNode isSource isAttribute
          obtain ⟨bound, bindings, rest⟩ := bind_eq_ok_iff.mp read
          obtain ⟨text, sourceText, result⟩ := bind_eq_ok_iff.mp rest
          cases result
          refine ⟨isStatement, marks, rfl, isSource, isAttribute, sourceText, ?_⟩
          intro noClause
          simp only [hasClause_addBindings bindings] at noClause
          cases clause : statement.firstOfKind? "import_clause" with
          | none =>
              rw [clause] at bindings
              cases bindings
              exact ⟨rfl, rfl, rfl⟩
          | some node => simp [clause] at noClause
        · cases read
  · rw [if_pos (by simpa using isStatement)] at found
    cases found

/-! ## Texts and ranges -/

/-- A node with a text that is not empty has a range that is not empty. -/
theorem start_lt_stop_of_text {source : Source} {node : Node} {text : String}
    (read : source.text node = .ok text) (written : text ≠ "") : node.start < node.stop := by
  apply Nat.lt_of_not_le
  intro empty
  have noOctets : source.slice node = [] := by
    rw [slice, show node.extent = 0 from Nat.sub_eq_zero_of_le empty, List.take_zero]
  have nothing : Utf8.decode [] = .ok "" := by
    simp [Utf8.decode, Utf8.decodeFrom, Except.map]
  rw [Source.text, noOctets, nothing] at read
  cases read
  exact written rfl

private theorem exists_mark_of_anyMark {source : Source} {entries : List Node}
    (found : source.anyMark entries = .ok true) : ∃ entry ∈ entries, source.isMark entry = .ok true := by
  induction entries with
  | nil => cases found
  | cons entry rest inductionHypothesis =>
      rw [anyMark] at found
      obtain ⟨isMark, marks, remaining⟩ := bind_eq_ok_iff.mp found
      cases isMark with
      | true => exact ⟨entry, List.mem_cons_self, marks⟩
      | false =>
          obtain ⟨other, member, otherMarks⟩ := inductionHypothesis remaining
          exact ⟨other, List.mem_cons_of_mem entry member, otherMarks⟩

/-- The text of a mark is written between quotes, so its range is not empty. -/
private theorem start_lt_stop_of_unquoted {source : Source} {node : Node}
    (unquoted : source.unquoted node = .ok markValue) : node.start < node.stop := by
  unfold Source.unquoted at unquoted
  obtain ⟨text, read, content⟩ := bind_eq_ok_iff.mp unquoted
  apply start_lt_stop_of_text read
  rintro rfl
  rw [if_neg (by simp)] at content
  have isMark : "" = markValue := by simpa using content
  exact absurd isMark (by decide)

private theorem exists_value_of_isMark {source : Source} {entry : Node}
    (marks : source.isMark entry = .ok true) :
    ∃ value ∈ entry.children, value.start < value.stop := by
  unfold isMark at marks
  split at marks
  · cases marks
  · split at marks
    · rename_i key value isKey isValue
      split at marks
      · cases marks
      · refine ⟨value, List.mem_of_find?_eq_some isValue, ?_⟩
        have isClient : ∀ keyText : String, (if keyText = markKey then
            source.unquoted value >>= fun valueText => .ok (decide (valueText = markValue))
            else .ok false) = Except.ok true → source.unquoted value = .ok markValue := by
          intro keyText compared
          split at compared
          · obtain ⟨valueText, unquoted, result⟩ := bind_eq_ok_iff.mp compared
            have same : valueText = markValue := by simpa using result
            rw [unquoted, same]
          · cases compared
        apply start_lt_stop_of_unquoted
        dsimp only at marks
        split at marks
        · obtain ⟨keyText, _, compared⟩ := bind_eq_ok_iff.mp marks
          exact isClient keyText compared
        · obtain ⟨keyText, _, compared⟩ := bind_eq_ok_iff.mp marks
          exact isClient keyText compared
    · cases marks

/-! ## Well-formed sources -/

/-- The tree is well formed, no range cuts a character, no import statement stands inside another,
and the source of a marked import stands before its attribute clause. -/
structure WellFormed (source : Source) : Prop where
  tree : source.root.WellFormed
  boundaries : ∀ node ∈ source.root.walk,
    Utf8.IsBoundary source.octets node.start ∧ Utf8.IsBoundary source.octets node.stop
  importsApart : ∀ node ∈ source.root.walk, node.kind = "import_statement" →
    ∀ child ∈ node.children, ∀ inner ∈ child.walk, inner.kind ≠ "import_statement"
  sourceFirst : ∀ imports, source.markedImports = .ok imports →
    ∀ marked ∈ imports, marked.sourceNode.stop ≤ marked.attributeNode.start

instance (source : Source) : Decidable source.WellFormed :=
  let importsOf := source.markedImports.toOption
  have importsOf_eq (imports : List MarkedImport) :
      imports ∈ importsOf ↔ source.markedImports = .ok imports := by
    cases found : source.markedImports <;> simp [importsOf, found, Except.toOption]
  decidable_of_iff (source.root.WellFormed ∧
      (∀ node ∈ source.root.walk,
        Utf8.IsBoundary source.octets node.start ∧ Utf8.IsBoundary source.octets node.stop) ∧
      (∀ node ∈ source.root.walk, node.kind = "import_statement" →
        ∀ child ∈ node.children, ∀ inner ∈ child.walk, inner.kind ≠ "import_statement") ∧
      ∀ imports ∈ importsOf,
        ∀ marked ∈ imports, marked.sourceNode.stop ≤ marked.attributeNode.start)
    ⟨fun ⟨tree, boundaries, importsApart, sourceFirst⟩ =>
        ⟨tree, boundaries, importsApart, fun imports found =>
          sourceFirst imports ((importsOf_eq imports).mpr found)⟩,
      fun wellFormed =>
        ⟨wellFormed.tree, wellFormed.boundaries, wellFormed.importsApart, fun imports found =>
          wellFormed.sourceFirst imports ((importsOf_eq imports).mp found)⟩⟩

/-- A marked import statement as the grammar reads it: `import`, a clause, `from`, a source, and the
mark as its only attribute, with one blank between them. -/
def markedStatement (clause : Node) (sourceStart sourceStop : Nat) : Node :=
  let token (kind : String) (start stop : Nat) : Node := ⟨kind, start, stop, false, false, none, []⟩
  let literal (start stop : Nat) (field : String) : Node :=
    ⟨"string", start, stop, true, false, some field, []⟩
  let mark : Node := ⟨"pair", sourceStop + 8, sourceStop + 21, true, false, none,
    [⟨"property_identifier", sourceStop + 8, sourceStop + 11, true, false, some "key", []⟩,
      token ":" (sourceStop + 11) (sourceStop + 12),
      literal (sourceStop + 13) (sourceStop + 21) "value"]⟩
  let object : Node := ⟨"object", sourceStop + 6, sourceStop + 23, true, false, none,
    [token "\x7b" (sourceStop + 6) (sourceStop + 7), mark,
      token "\x7d" (sourceStop + 22) (sourceStop + 23)]⟩
  ⟨"import_statement", 0, sourceStop + 24, true, false, none,
    [token "import" 0 6, clause, token "from" (sourceStart - 5) (sourceStart - 1),
      literal sourceStart sourceStop "source",
      ⟨"import_attribute", sourceStop + 1, sourceStop + 23, true, false, none,
        [token "with" (sourceStop + 1) (sourceStop + 5), object]⟩,
      token ";" (sourceStop + 23) (sourceStop + 24)]⟩

section Placement

variable {source : Source} {statement : Node} {marked : MarkedImport}

/-- The attribute clause of a marked import holds the mark, so its range is not empty. -/
private theorem attributeNode_start_lt_stop (wellFormed : statement.WellFormed)
    (reads : source.Reads statement marked) :
    marked.attributeNode.start < marked.attributeNode.stop := by
  have isMarked := reads.isMarked
  rw [Source.isMarked, reads.attributeNode_eq, Option.bind_some] at isMarked
  cases isObject : marked.attributeNode.firstOfKind? "object" with
  | none =>
      rw [isObject] at isMarked
      cases isMarked
  | some object =>
      rw [isObject] at isMarked
      obtain ⟨entry, named, marks⟩ := exists_mark_of_anyMark isMarked
      obtain ⟨value, isValue, nonempty⟩ := exists_value_of_isMark marks
      have clauseFormed := wellFormed.child (Node.mem_children_of_firstOfKind? reads.attributeNode_eq)
      have valueWithin : value ∈ marked.attributeNode.walk :=
        Node.mem_walk_of_child (Node.mem_children_of_firstOfKind? isObject)
          (Node.mem_walk_of_child (List.mem_filter.mp named).1
            (Node.mem_walk_of_child isValue (Node.mem_walk_self value)))
      have enclosed := clauseFormed.enclosed valueWithin
      omega

/-- Where the nodes of a marked import stand: the source node before the attribute clause, both
within the statement, and no end of them within a character. -/
structure Placed (source : Source) (marked : MarkedImport) : Prop where
  within_start : marked.node.start ≤ marked.sourceNode.start
  source_le : marked.sourceNode.start ≤ marked.sourceNode.stop
  source_before : marked.sourceNode.stop < marked.attributeNode.stop
  within_stop : marked.attributeNode.stop ≤ marked.node.stop
  source_start : Utf8.IsBoundary source.octets marked.sourceNode.start
  source_stop : Utf8.IsBoundary source.octets marked.sourceNode.stop
  attribute_stop : Utf8.IsBoundary source.octets marked.attributeNode.stop

/-- A marked import is placed wherever its own source stands first, whatever else is marked. -/
theorem placed_of_sourceFirst (tree : source.root.WellFormed)
    (boundaries : ∀ node ∈ source.root.walk,
      Utf8.IsBoundary source.octets node.start ∧ Utf8.IsBoundary source.octets node.stop)
    {imports : List MarkedImport} (found : source.markedImports = .ok imports)
    (member : marked ∈ imports)
    (sourceFirst : marked.sourceNode.stop ≤ marked.attributeNode.start) : source.Placed marked := by
  obtain ⟨statement, inTree, read⟩ := exists_mem_of_mem_gather found member
  have reads := reads_of_markedImport? read
  have isSource := Node.mem_children_of_child? reads.sourceNode_eq
  have isAttribute := Node.mem_children_of_firstOfKind? reads.attributeNode_eq
  have below : ∀ child ∈ statement.children, child ∈ source.root.walk := fun child isChild =>
    Node.mem_walk_trans inTree (Node.mem_walk_of_child isChild (Node.mem_walk_self child))
  have statementFormed : statement.WellFormed := fun inner within =>
    tree inner (Node.mem_walk_trans inTree within)
  have orderly := tree statement inTree
  have sourceOrderly := tree marked.sourceNode (below _ isSource)
  have attributeNonempty := attributeNode_start_lt_stop statementFormed reads
  have sourceBoundaries := boundaries _ (below _ isSource)
  have attributeBoundaries := boundaries _ (below _ isAttribute)
  have nodeEq := reads.node_eq
  constructor
  · rw [nodeEq]
    exact (orderly.enclosed _ isSource).1
  · exact sourceOrderly.start_le_stop
  · omega
  · rw [nodeEq]
    exact (orderly.enclosed _ isAttribute).2
  · exact sourceBoundaries.1
  · exact sourceBoundaries.2
  · exact attributeBoundaries.2

theorem WellFormed.placed (wellFormed : source.WellFormed) {imports : List MarkedImport}
    (found : source.markedImports = .ok imports) (member : marked ∈ imports) :
    source.Placed marked :=
  placed_of_sourceFirst wellFormed.tree wellFormed.boundaries found member
    (wellFormed.sourceFirst imports found marked member)

/-- The ranges of marked imports follow one another, as their statements do. -/
theorem pairwise_markedImports (tree : source.root.WellFormed)
    (importsApart : ∀ node ∈ source.root.walk, node.kind = "import_statement" →
      ∀ child ∈ node.children, ∀ inner ∈ child.walk, inner.kind ≠ "import_statement")
    {imports : List MarkedImport} (found : source.markedImports = .ok imports) :
    imports.Pairwise fun left right => left.node.stop ≤ right.node.start := by
  refine pairwise_of_gather found (Node.pairwise_walk tree
    (fun node => node.kind = "import_statement") importsApart) ?_
  intro left right leftFound rightFound ordered leftRead rightRead
  have leftReads := reads_of_markedImport? leftRead
  have rightReads := reads_of_markedImport? rightRead
  rw [leftReads.node_eq, rightReads.node_eq]
  exact ordered leftReads.isStatement rightReads.isStatement

end Placement

end Source

end ImportBoundary
