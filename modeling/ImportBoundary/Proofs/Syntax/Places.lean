import ImportBoundary.Proofs.Syntax.DocumentOrder
import Mathlib.Data.List.Basic
import Mathlib.Data.List.Pairwise

/-!
Contract: where the nodes of a tree stand.

Owns the list of places as a list of nodes with what is above them, and how the ranges of two nodes
of a well-formed tree lie to each other.

Main statements: `map_node_places`, by which places are listed in document order,
`WellFormed.nested_or_apart`, and `WellFormed.parent_unique`, by which a node that occupies octets
stands at one place.
-/

namespace ImportBoundary.Node

/-! ## Places -/

private theorem placesUnderAll_eq_flatMap (above nodes : List Node) :
    placesUnderAll above nodes = nodes.flatMap (placesUnder above) := by
  induction nodes with
  | nil => rfl
  | cons node rest inductionHypothesis =>
      rw [placesUnderAll, List.flatMap_cons, inductionHypothesis]

theorem placesUnder_eq (above : List Node) (node : Node) :
    placesUnder above node =
      ⟨node, above⟩ :: node.children.flatMap (placesUnder (node :: above)) := by
  cases node
  rw [placesUnder, placesUnderAll_eq_flatMap]

private theorem map_node_placesUnder (above : List Node) (node : Node) :
    (placesUnder above node).map Place.node = node.walk := by
  induction node using inductionOnChildren generalizing above with
  | step node inductionHypothesis =>
      rw [placesUnder_eq, walk_eq, List.map_cons, List.map_flatMap]
      congr 1
      exact List.flatMap_congr fun child isChild => inductionHypothesis child isChild _

/-- Places are listed as the nodes are, in document order. -/
theorem map_node_places (root : Node) : root.places.map Place.node = root.walk :=
  map_node_placesUnder [] root

theorem mem_walk_of_mem_places {root : Node} {place : Place} (member : place ∈ root.places) :
    place.node ∈ root.walk := by
  rw [← map_node_places]
  exact List.mem_map_of_mem member

theorem exists_place {root node : Node} (member : node ∈ root.walk) :
    ∃ place ∈ root.places, place.node = node := by
  rw [← map_node_places] at member
  exact List.mem_map.mp member

private theorem mem_placesUnder_of_child {above : List Node} {root child : Node} {place : Place}
    (member : place ∈ placesUnder above root) (isChild : child ∈ place.node.children) :
    ⟨child, place.node :: place.above⟩ ∈ placesUnder above root := by
  induction root using inductionOnChildren generalizing above with
  | step root inductionHypothesis =>
      rw [placesUnder_eq, List.mem_cons, List.mem_flatMap] at member ⊢
      right
      rcases member with rfl | ⟨other, isOther, inOther⟩
      · refine ⟨child, isChild, ?_⟩
        rw [placesUnder_eq]
        exact List.mem_cons_self
      · exact ⟨other, isOther, inductionHypothesis other isOther inOther⟩

/-- A child of a node stands below it and everything above it. -/
theorem mem_places_of_child {root child : Node} {place : Place} (member : place ∈ root.places)
    (isChild : child ∈ place.node.children) :
    ⟨child, place.node :: place.above⟩ ∈ root.places :=
  mem_placesUnder_of_child member isChild

private theorem mem_above_of_mem_placesUnder {above : List Node} {root : Node} {place : Place}
    (member : place ∈ placesUnder above root) {upper : Node} (isAbove : upper ∈ place.above) :
    upper ∈ above ∨ upper ∈ root.walk := by
  induction root using inductionOnChildren generalizing above with
  | step root inductionHypothesis =>
      rw [placesUnder_eq] at member
      rcases List.mem_cons.mp member with rfl | below
      · exact .inl isAbove
      · obtain ⟨child, isChild, inChild⟩ := List.mem_flatMap.mp below
        rcases inductionHypothesis child isChild inChild with higher | within
        · rcases List.mem_cons.mp higher with rfl | outside
          · exact .inr (mem_walk_self _)
          · exact .inl outside
        · exact .inr (mem_walk_of_child isChild within)

/-- Above a place of a tree are only nodes of the tree. -/
theorem mem_walk_of_mem_above {root : Node} {place : Place} (member : place ∈ root.places)
    {upper : Node} (isAbove : upper ∈ place.above) : upper ∈ root.walk := by
  rcases mem_above_of_mem_placesUnder member isAbove with impossible | within
  · cases impossible
  · exact within

/-! ## Ranges -/

theorem encloses_iff {node other : Node} :
    node.encloses other = true ↔ node.start ≤ other.start ∧ other.stop ≤ node.stop := by
  rw [encloses, Bool.and_eq_true, decide_eq_true_iff, decide_eq_true_iff]

/-- One of two nodes ends before the other begins. -/
def Apart (left right : Node) : Prop :=
  left.stop ≤ right.start ∨ right.stop ≤ left.start

instance : Std.Symm Apart where
  symm _ _ := Or.symm

/-- Two different children of a node lie apart. -/
theorem Orderly.apart_of_ne {node first second : Node} (orderly : node.Orderly)
    (isFirst : first ∈ node.children) (isSecond : second ∈ node.children)
    (different : first ≠ second) : first.Apart second := by
  have siblings : node.children.Pairwise Apart := orderly.apart.imp Or.inl
  exact siblings.forall isFirst isSecond different

/-- Of two nodes of a well-formed tree one encloses the other, unless they lie apart. -/
theorem WellFormed.nested_or_apart {root left right : Node} (wellFormed : root.WellFormed)
    (isLeft : left ∈ root.walk) (isRight : right ∈ root.walk) :
    left.encloses right = true ∨ right.encloses left = true ∨ left.Apart right := by
  induction root using inductionOnChildren with
  | step root inductionHypothesis =>
      have leftWithin := wellFormed.enclosed isLeft
      have rightWithin := wellFormed.enclosed isRight
      rw [walk_eq] at isLeft isRight
      rcases List.mem_cons.mp isLeft with rfl | belowLeft
      · exact .inl (encloses_iff.mpr rightWithin)
      rcases List.mem_cons.mp isRight with rfl | belowRight
      · exact .inr (.inl (encloses_iff.mpr leftWithin))
      obtain ⟨first, isFirst, inFirst⟩ := List.mem_flatMap.mp belowLeft
      obtain ⟨second, isSecond, inSecond⟩ := List.mem_flatMap.mp belowRight
      by_cases same : first = second
      · subst same
        exact inductionHypothesis first isFirst (wellFormed.child isFirst) inFirst inSecond
      · -- Nodes of different children are as far apart as the children are.
        have apart : first.Apart second :=
          (wellFormed root (mem_walk_self root)).apart_of_ne isFirst isSecond same
        have ofFirst := (wellFormed.child isFirst).enclosed inFirst
        have ofSecond := (wellFormed.child isSecond).enclosed inSecond
        unfold Apart at apart ⊢
        omega

/-! ## Nodes that occupy octets -/

/-- A node that occupies octets is listed once. Its own subtree holds it only at the top, and other
subtrees have other octets. -/
theorem WellFormed.pairwise_ne {root : Node} (wellFormed : root.WellFormed) :
    root.walk.Pairwise fun left right => left.start < left.stop → left ≠ right := by
  rw [List.pairwise_iff_forall_sublist]
  intro node other inOrder written same
  subst same
  have flat : ∀ upper ∈ root.walk, upper = node →
      ∀ child ∈ upper.children, ∀ inner ∈ child.walk, ¬ inner = node := by
    rintro upper _ rfl child isChild inner within rfl
    exact not_mem_walk_of_child isChild within
  have apart := List.pairwise_iff_forall_sublist.mp
    (pairwise_walk wellFormed (fun inner => inner = node) flat) inOrder rfl rfl
  omega

/-- A node that occupies octets and lies within two nodes does not let them lie apart. -/
private theorem not_apart_of_common {left right inner : Node}
    (inLeft : left.start ≤ inner.start ∧ inner.stop ≤ left.stop)
    (inRight : right.start ≤ inner.start ∧ inner.stop ≤ right.stop)
    (written : inner.start < inner.stop) : ¬ left.Apart right := by
  unfold Apart
  omega

/-- A child of the root is no node's child elsewhere. -/
private theorem WellFormed.not_child_below {root child upper first : Node}
    (wellFormed : root.WellFormed) (isChild : child ∈ root.children)
    (written : child.start < child.stop) (isFirst : first ∈ root.children)
    (isUpper : upper ∈ first.walk) : child ∉ upper.children := by
  intro below
  have within : child ∈ first.walk := mem_walk_of_mem_children isUpper below
  by_cases same : first = child
  · subst same
    exact not_mem_walk_of_child below isUpper
  · have apart := (wellFormed root (mem_walk_self root)).apart_of_ne isFirst isChild same
    have ofFirst := (wellFormed.child isFirst).enclosed within
    exact not_apart_of_common ofFirst ⟨Nat.le_refl _, Nat.le_refl _⟩ written apart

/-- A node that occupies octets is the child of one node only. -/
theorem WellFormed.parent_unique {root upper other child : Node} (wellFormed : root.WellFormed)
    (isUpper : upper ∈ root.walk) (isOther : other ∈ root.walk) (below : child ∈ upper.children)
    (belowOther : child ∈ other.children) (written : child.start < child.stop) : upper = other := by
  induction root using inductionOnChildren with
  | step root inductionHypothesis =>
      rw [walk_eq] at isUpper isOther
      rcases List.mem_cons.mp isUpper with rfl | underUpper
      · rcases List.mem_cons.mp isOther with rfl | underOther
        · rfl
        · obtain ⟨first, isFirst, inFirst⟩ := List.mem_flatMap.mp underOther
          exact absurd belowOther (wellFormed.not_child_below below written isFirst inFirst)
      obtain ⟨first, isFirst, inFirst⟩ := List.mem_flatMap.mp underUpper
      rcases List.mem_cons.mp isOther with rfl | underOther
      · exact absurd below (wellFormed.not_child_below belowOther written isFirst inFirst)
      obtain ⟨second, isSecond, inSecond⟩ := List.mem_flatMap.mp underOther
      by_cases same : first = second
      · subst same
        exact inductionHypothesis first isFirst (wellFormed.child isFirst) inFirst inSecond
      · have apart := (wellFormed root (mem_walk_self root)).apart_of_ne isFirst isSecond same
        have ofFirst := (wellFormed.child isFirst).enclosed (mem_walk_of_mem_children inFirst below)
        have ofSecond :=
          (wellFormed.child isSecond).enclosed (mem_walk_of_mem_children inSecond belowOther)
        exact absurd apart (not_apart_of_common ofFirst ofSecond written)

end ImportBoundary.Node
