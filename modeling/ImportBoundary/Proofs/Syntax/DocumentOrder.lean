import ImportBoundary.Syntax.Node

/-!
Contract: the nodes of a tree in document order.

Owns induction over the children of a node, the equality of the walk over a stack with the
recursive traversal, well-formed trees, and where the nodes of such a tree stand.

Main statements: `walk_eq_preorder`, and `pairwise_walk`, by which nodes of a sort that never stands
below itself have their ranges one after the other in the order of the walk.
-/

namespace ImportBoundary.Node

/-! ## The walk -/

theorem preorder_eq (node : Node) : node.preorder = node :: preorderAll node.children := by
  cases node
  rw [preorder]

theorem preorderAll_append (left right : List Node) :
    preorderAll (left ++ right) = preorderAll left ++ preorderAll right := by
  induction left with
  | nil => rfl
  | cons node rest inductionHypothesis =>
      simp only [List.cons_append, preorderAll, inductionHypothesis, List.append_assoc]

theorem preorderAll_eq_flatMap (nodes : List Node) : preorderAll nodes = nodes.flatMap preorder := by
  induction nodes with
  | nil => rfl
  | cons node rest inductionHypothesis =>
      rw [preorderAll, List.flatMap_cons, inductionHypothesis]

/-- The stack holds the trees still to be visited, and the walk visits them one after the other. -/
theorem walkStack_eq_preorderAll (stack : List Node) : walkStack stack = preorderAll stack := by
  induction stack using walkStack.induct with
  | case1 => rw [walkStack, preorderAll]
  | case2 node rest inductionHypothesis =>
      rw [walkStack, inductionHypothesis, preorderAll_append, preorderAll, preorder_eq,
        List.cons_append]

/-- The walk over a stack is the recursive traversal. -/
theorem walk_eq_preorder (root : Node) : root.walk = root.preorder := by
  rw [walk, walkStack_eq_preorderAll, preorderAll, preorderAll, List.append_nil]

theorem walk_eq (root : Node) : root.walk = root :: root.children.flatMap walk := by
  have walks : walk = preorder := funext walk_eq_preorder
  rw [walks, preorder_eq, preorderAll_eq_flatMap]

theorem mem_walk_self (root : Node) : root ∈ root.walk := by
  rw [walk_eq]
  exact List.mem_cons_self

theorem mem_walk_of_child {root child inner : Node} (isChild : child ∈ root.children)
    (within : inner ∈ child.walk) : inner ∈ root.walk := by
  rw [walk_eq]
  exact List.mem_cons_of_mem root (List.mem_flatMap.mpr ⟨child, isChild, within⟩)

private theorem count_le_countAll {node : Node} {nodes : List Node} (member : node ∈ nodes) :
    node.count ≤ countAll nodes := by
  induction nodes with
  | nil => cases member
  | cons head rest inductionHypothesis =>
      rw [countAll]
      rcases List.mem_cons.mp member with rfl | later
      · exact Nat.le_add_right _ _
      · have := inductionHypothesis later
        omega

/-- What holds of every node whose children it holds of holds of all nodes. -/
@[elab_as_elim]
theorem inductionOnChildren {motive : Node → Prop}
    (step : ∀ node, (∀ child ∈ node.children, motive child) → motive node) (node : Node) :
    motive node := by
  apply step node
  intro child isChild
  exact inductionOnChildren step child
termination_by node.count
decreasing_by
  have := count_le_countAll isChild
  rw [count_eq node]
  omega

/-- Below a node of a tree are only nodes of the tree. -/
theorem mem_walk_trans {root node inner : Node} (member : node ∈ root.walk)
    (within : inner ∈ node.walk) : inner ∈ root.walk := by
  induction root using inductionOnChildren with
  | step root inductionHypothesis =>
      rw [walk_eq] at member
      rcases List.mem_cons.mp member with rfl | below
      · exact within
      · obtain ⟨child, isChild, inChild⟩ := List.mem_flatMap.mp below
        exact mem_walk_of_child isChild (inductionHypothesis child isChild inChild)

theorem mem_walk_of_mem_children {root node child : Node} (member : node ∈ root.walk)
    (isChild : child ∈ node.children) : child ∈ root.walk :=
  mem_walk_trans member (mem_walk_of_child isChild (mem_walk_self child))

theorem count_le_of_mem_walk {root inner : Node} (within : inner ∈ root.walk) :
    inner.count ≤ root.count := by
  induction root using inductionOnChildren with
  | step root inductionHypothesis =>
      rw [walk_eq] at within
      rcases List.mem_cons.mp within with rfl | below
      · exact Nat.le_refl _
      · obtain ⟨child, isChild, inChild⟩ := List.mem_flatMap.mp below
        have ofChild := inductionHypothesis child isChild inChild
        have ofRoot := count_le_countAll isChild
        rw [count_eq root]
        omega

/-- No node stands below itself. -/
theorem not_mem_walk_of_child {node child : Node} (isChild : child ∈ node.children) :
    node ∉ child.walk := by
  intro within
  have smaller := count_le_of_mem_walk within
  have larger := count_le_countAll isChild
  rw [count_eq node] at smaller
  omega

/-! ## Children by role -/

section Roles

variable {node child : Node}

theorem mem_children_of_namedChildren (isNamed : child ∈ node.namedChildren) :
    child ∈ node.children :=
  (List.mem_filter.mp isNamed).1

theorem mem_children_of_namedContent (isContent : child ∈ node.namedContent) :
    child ∈ node.children :=
  mem_children_of_namedChildren (List.mem_filter.mp isContent).1

theorem mem_children_of_firstNamed? (found : node.firstNamed? = some child) :
    child ∈ node.children :=
  mem_children_of_namedChildren (List.mem_of_mem_head? found)

theorem mem_children_of_firstOfKind? {kind : String} (found : node.firstOfKind? kind = some child) :
    child ∈ node.children :=
  mem_children_of_namedChildren (List.mem_of_find?_eq_some found)

theorem mem_children_of_child? {field : String} (found : node.child? field = some child) :
    child ∈ node.children :=
  List.mem_of_find?_eq_some found

end Roles

/-! ## Well-formed trees -/

/-- The children of a node lie within its range, one after the other. -/
structure Orderly (node : Node) : Prop where
  start_le_stop : node.start ≤ node.stop
  enclosed : ∀ child ∈ node.children, node.start ≤ child.start ∧ child.stop ≤ node.stop
  apart : node.children.Pairwise fun left right => left.stop ≤ right.start

instance (node : Node) : Decidable node.Orderly :=
  decidable_of_iff (node.start ≤ node.stop ∧
      (∀ child ∈ node.children, node.start ≤ child.start ∧ child.stop ≤ node.stop) ∧
      node.children.Pairwise fun left right => left.stop ≤ right.start)
    ⟨fun ⟨ordered, enclosed, apart⟩ => ⟨ordered, enclosed, apart⟩,
      fun orderly => ⟨orderly.start_le_stop, orderly.enclosed, orderly.apart⟩⟩

/-- Ranges are nested as the nodes are, and those of siblings are ordered and disjoint. -/
def WellFormed (root : Node) : Prop :=
  ∀ node ∈ root.walk, node.Orderly

instance (root : Node) : Decidable root.WellFormed :=
  inferInstanceAs (Decidable (∀ node ∈ root.walk, node.Orderly))

theorem WellFormed.child {root child : Node} (wellFormed : root.WellFormed)
    (isChild : child ∈ root.children) : child.WellFormed :=
  fun inner within => wellFormed inner (mem_walk_of_child isChild within)

/-- Every node of a well-formed tree lies within the range of the tree. -/
theorem WellFormed.enclosed {root inner : Node} (wellFormed : root.WellFormed)
    (within : inner ∈ root.walk) : root.start ≤ inner.start ∧ inner.stop ≤ root.stop := by
  induction root using inductionOnChildren with
  | step root inductionHypothesis =>
      have orderly := wellFormed root (mem_walk_self root)
      rw [walk_eq] at within
      rcases List.mem_cons.mp within with rfl | below
      · exact ⟨Nat.le_refl _, Nat.le_refl _⟩
      · obtain ⟨child, isChild, inChild⟩ := List.mem_flatMap.mp below
        have ofRoot := orderly.enclosed child isChild
        have ofChild := inductionHypothesis child isChild (wellFormed.child isChild) inChild
        omega

/-- Nodes of a sort that never stands below itself have their ranges one after the other. Two nodes
in document order are a node and one below it, or lie in different subtrees of one node. -/
theorem pairwise_walk {root : Node} (wellFormed : root.WellFormed) (sort : Node → Prop)
    (flat : ∀ node ∈ root.walk, sort node →
      ∀ child ∈ node.children, ∀ inner ∈ child.walk, ¬ sort inner) :
    root.walk.Pairwise fun left right => sort left → sort right → left.stop ≤ right.start := by
  induction root using inductionOnChildren with
  | step root inductionHypothesis =>
      rw [walk_eq, List.pairwise_cons, List.pairwise_flatMap]
      refine ⟨?_, ?_, ?_⟩
      · intro inner below isRoot isInner
        obtain ⟨child, isChild, inChild⟩ := List.mem_flatMap.mp below
        exact absurd isInner (flat root (mem_walk_self root) isRoot child isChild inner inChild)
      · intro child isChild
        apply inductionHypothesis child isChild (wellFormed.child isChild)
        intro node within
        exact flat node (mem_walk_of_child isChild within)
      · -- Nodes of different children are as far apart as the children are.
        have orderly := wellFormed root (mem_walk_self root)
        refine orderly.apart.imp_of_mem ?_
        intro left right isLeft isRight apart inLeft withinLeft inRight withinRight _ _
        have ofLeft := (wellFormed.child isLeft).enclosed withinLeft
        have ofRight := (wellFormed.child isRight).enclosed withinRight
        omega

end ImportBoundary.Node
