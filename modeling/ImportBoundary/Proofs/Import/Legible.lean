import ImportBoundary.Import.Members
import ImportBoundary.Proofs.Collecting
import ImportBoundary.Proofs.Syntax.DocumentOrder

/-!
Contract: sources whose nodes all have texts.

Owns that whatever is read of such a source can be read: its marked imports, the accesses to members
of a namespace, and the members themselves. Nothing is asked of the tree, neither that ranges are
nested nor that it is free of faults.

Main statements: `Legible.exists_markedImports` and `Legible.exists_membersOf`.
-/

namespace ImportBoundary.Source

/-- Every node has a text. -/
def Legible (source : Source) : Prop :=
  ∀ node ∈ source.root.walk, ∃ text, source.text node = .ok text

instance (source : Source) : Decidable source.Legible :=
  decidable_of_iff (∀ node ∈ source.root.walk, (source.text node).isOk = true)
    ⟨fun areOk node inTree => exists_of_isOk (areOk node inTree), fun legible node inTree => by
      obtain ⟨text, read⟩ := legible node inTree
      rw [read]
      rfl⟩

namespace Legible

variable {source : Source} (legible : source.Legible)
include legible

theorem exists_text_of_child {node child : Node} (inTree : node ∈ source.root.walk)
    (isChild : child ∈ node.children) : ∃ text, source.text child = .ok text :=
  legible child (Node.mem_walk_of_mem_children inTree isChild)

theorem exists_unquoted {node : Node} (inTree : node ∈ source.root.walk) :
    ∃ text, source.unquoted node = .ok text := by
  apply exists_bind (legible node inTree)
  intro text
  split
  · exact ⟨_, rfl⟩
  · exact ⟨text, rfl⟩

/-! ## Marked imports -/

theorem exists_isMark {entry : Node} (inTree : entry ∈ source.root.walk) :
    ∃ marks, source.isMark entry = .ok marks := by
  unfold isMark
  split
  · exact ⟨false, rfl⟩
  · split
    · rename_i key value isKey isValue
      have keyInTree := Node.mem_walk_of_mem_children inTree (Node.mem_children_of_child? isKey)
      have valueInTree := Node.mem_walk_of_mem_children inTree (Node.mem_children_of_child? isValue)
      have readsValue : ∀ keyText : String, ∃ marks, (do
          if keyText = markKey then
            let valueText ← source.unquoted value
            Except.ok (decide (valueText = markValue))
          else Except.ok false) = .ok marks := by
        intro keyText
        split
        · apply exists_bind (legible.exists_unquoted valueInTree)
          intro valueText
          exact ⟨_, rfl⟩
        · exact ⟨false, rfl⟩
      split
      · exact ⟨false, rfl⟩
      · dsimp only
        split
        · exact exists_bind (legible.exists_unquoted keyInTree) readsValue
        · exact exists_bind (legible key keyInTree) readsValue
    · exact ⟨false, rfl⟩

theorem exists_anyMark {entries : List Node} (inTree : ∀ entry ∈ entries, entry ∈ source.root.walk) :
    ∃ marks, source.anyMark entries = .ok marks := by
  induction entries with
  | nil => exact ⟨false, rfl⟩
  | cons entry rest inductionHypothesis =>
      apply exists_bind (legible.exists_isMark (inTree entry List.mem_cons_self))
      intro found
      cases found with
      | true => exact ⟨true, rfl⟩
      | false =>
          exact inductionHypothesis fun other member =>
            inTree other (List.mem_cons_of_mem entry member)

theorem exists_isMarked {statement : Node} (inTree : statement ∈ source.root.walk) :
    ∃ marks, source.isMarked statement = .ok marks := by
  unfold isMarked
  split
  · exact ⟨false, rfl⟩
  · rename_i attributes isObject
    obtain ⟨clause, isClause, ofClause⟩ := Option.bind_eq_some_iff.mp isObject
    have clauseInTree :=
      Node.mem_walk_of_mem_children inTree (Node.mem_children_of_firstOfKind? isClause)
    have objectInTree :=
      Node.mem_walk_of_mem_children clauseInTree (Node.mem_children_of_firstOfKind? ofClause)
    apply legible.exists_anyMark
    intro entry isEntry
    exact Node.mem_walk_of_mem_children objectInTree (Node.mem_children_of_namedChildren isEntry)

theorem exists_specifierOf {node : Node} (inTree : node ∈ source.root.walk) :
    ∃ specifier, source.specifierOf node = .ok specifier := by
  have readsName : ∃ name, source.text ((node.child? "name").getD node) = .ok name := by
    cases isName : node.child? "name" with
    | none => exact legible node inTree
    | some name => exact legible.exists_text_of_child inTree (Node.mem_children_of_child? isName)
  have readsAlias : ∃ renamed, source.text? (node.child? "alias") = .ok renamed := by
    cases isAlias : node.child? "alias" with
    | none => exact ⟨none, rfl⟩
    | some renamed =>
        obtain ⟨text, read⟩ :=
          legible.exists_text_of_child inTree (Node.mem_children_of_child? isAlias)
        exact ⟨some text, by rw [text?, read]; rfl⟩
  apply exists_bind readsName
  intro name
  apply exists_bind readsAlias
  intro renamed
  exact ⟨_, rfl⟩

theorem exists_addBinding {child : Node} (inTree : child ∈ source.root.walk) (parts : ImportParts) :
    ∃ bound, source.addBinding parts child = .ok bound := by
  unfold addBinding
  split
  · apply exists_bind (legible child inTree)
    intro name
    exact ⟨_, rfl⟩
  · split
    · split
      · exact ⟨parts, rfl⟩
      · rename_i identifier isIdentifier
        apply exists_bind
          (legible.exists_text_of_child inTree (Node.mem_children_of_firstOfKind? isIdentifier))
        intro name
        exact ⟨_, rfl⟩
    · split
      · have readsEntries : ∃ specifiers, (child.namedChildren.filter fun entry =>
            entry.kind == "import_specifier").mapM source.specifierOf = .ok specifiers := by
          apply exists_mapM
          intro entry isEntry
          apply legible.exists_specifierOf
          exact Node.mem_walk_of_mem_children inTree
            (Node.mem_children_of_namedChildren (List.mem_filter.mp isEntry).1)
        apply exists_bind readsEntries
        intro specifiers
        exact ⟨_, rfl⟩
      · exact ⟨parts, rfl⟩

theorem exists_markedImport? {statement : Node} (inTree : statement ∈ source.root.walk) :
    ∃ found, source.markedImport? statement = .ok found := by
  unfold markedImport?
  split
  · exact ⟨none, rfl⟩
  · apply exists_bind (legible.exists_isMarked inTree)
    intro marks
    split
    · split
      · rename_i sourceNode attributeNode isSource _
        have bindings : ∀ child ∈
            ((statement.firstOfKind? "import_clause").map Node.namedChildren).getD [],
              ∀ parts, ∃ bound, source.addBinding parts child = .ok bound := by
          intro child isBinding
          cases isClause : statement.firstOfKind? "import_clause" with
          | none =>
              rw [isClause] at isBinding
              cases isBinding
          | some clause =>
              rw [isClause] at isBinding
              have clauseInTree :=
                Node.mem_walk_of_mem_children inTree (Node.mem_children_of_firstOfKind? isClause)
              exact legible.exists_addBinding (Node.mem_walk_of_mem_children clauseInTree
                (Node.mem_children_of_namedChildren isBinding))
        apply exists_bind (exists_foldlM bindings _)
        intro bound
        apply exists_bind
          (legible.exists_text_of_child inTree (Node.mem_children_of_child? isSource))
        intro sourceText
        exact ⟨_, rfl⟩
      · exact ⟨none, rfl⟩
    · exact ⟨none, rfl⟩

theorem exists_markedImports : ∃ imports, source.markedImports = .ok imports :=
  exists_gather fun _ inTree => legible.exists_markedImport? inTree

/-! ## Members -/

theorem exists_memberParts {node : Node} (inTree : node ∈ source.root.walk) :
    ∃ parts, source.memberParts node = .ok parts := by
  unfold memberParts
  split
  · split
    · rename_i object member content
      have isContent : ∀ child ∈ [object, member], ∃ text, source.text child = .ok text := by
        intro child listed
        rw [← content] at listed
        exact legible.exists_text_of_child inTree (Node.mem_children_of_namedContent listed)
      split
      · apply exists_bind (isContent object List.mem_cons_self)
        intro objectName
        apply exists_bind (isContent member (List.mem_cons_of_mem _ List.mem_cons_self))
        intro memberName
        exact ⟨_, rfl⟩
      · exact ⟨none, rfl⟩
    · exact ⟨none, rfl⟩
  · exact ⟨none, rfl⟩

theorem exists_accessOf {node : Node} (inTree : node ∈ source.root.walk) (namespaceName : String) :
    ∃ found, source.accessOf namespaceName node = .ok found := by
  apply exists_bind (legible.exists_memberParts inTree)
  intro accessed
  cases accessed with
  | none => exact ⟨none, rfl⟩
  | some pair => exact ⟨_, rfl⟩

theorem exists_membersOf (namespaceName : String) :
    ∃ members, source.membersOf namespaceName = .ok members := by
  obtain ⟨found, gathered⟩ : ∃ found,
      gather (source.accessOf namespaceName) source.root.walk = .ok found :=
    exists_gather fun _ inTree => legible.exists_accessOf inTree namespaceName
  exact ⟨firstOccurrences found, map_eq_ok_iff.mpr ⟨found, gathered, rfl⟩⟩

end Legible

end ImportBoundary.Source
