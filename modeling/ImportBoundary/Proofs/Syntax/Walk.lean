import ImportBoundary.Proofs.Syntax.DocumentOrder

/-!
Contract: the walk of a tree as a loop over a stack, and which nodes it comes to in which order.

Owns the rounds of the loop, the addresses of nodes, and the order of addresses and of offsets along
the walk. Every round takes one tree off the stack and puts its children on. What the rounds keep is
the list of the nodes visited so far followed by those of the trees that still wait, the last tree of
the stack first: it is the list of all nodes in document order.

Main statements: `Loop.after?_count`, by which the loop is over after as many rounds as the tree has
nodes, `mem_visits_iff` and `pairwise_visits`, by which the visits are those of the addresses of the
tree, in document order, and `WellFormed.pairwise_start`.
-/

namespace ImportBoundary.Node

/-! ## The loop -/

theorem length_preorderAll (nodes : List Node)
    (lengths : ∀ node ∈ nodes, node.preorder.length = node.count) :
    (preorderAll nodes).length = countAll nodes := by
  induction nodes with
  | nil => rfl
  | cons node rest inductionHypothesis =>
      rw [preorderAll, countAll, List.length_append, lengths node List.mem_cons_self,
        inductionHypothesis fun other member => lengths other (List.mem_cons_of_mem node member)]

/-- The traversal lists as many nodes as the tree has. -/
theorem length_preorder (root : Node) : root.preorder.length = root.count := by
  induction root using inductionOnChildren with
  | step root inductionHypothesis =>
      rw [preorder_eq, List.length_cons, length_preorderAll root.children inductionHypothesis,
        count_eq]

/-- The loop of the walk between two rounds: the nodes visited so far, and the trees that wait on the
stack. The tree that was put on last stands last. -/
structure Loop where
  visited : List Node
  stack : List Node

namespace Loop

/-- One round: the last tree of the stack is taken off, its root is visited, and its children are put
on in reverse, so that the first of them stands last. There is no round on an empty stack. -/
def round? (loop : Loop) : Option Loop :=
  loop.stack.getLast?.map fun current =>
    ⟨loop.visited ++ [current], loop.stack.dropLast ++ current.children.reverse⟩

/-- The loop after a number of rounds, unless it is over before. -/
def after? (root : Node) : Nat → Option Loop
  | 0 => some ⟨[], [root]⟩
  | rounds + 1 => (after? root rounds).bind round?

/-- The nodes visited so far, followed by those of the trees that wait. -/
def nodes (loop : Loop) : List Node :=
  loop.visited ++ preorderAll loop.stack.reverse

/-- A round visits one node and keeps the list of all nodes, and the only loop without a further round
is that with an empty stack. -/
theorem round?_cases (loop : Loop) :
    (loop.stack = [] ∧ loop.round? = none) ∨
      ∃ next, loop.round? = some next ∧ next.visited.length = loop.visited.length + 1 ∧
        next.nodes = loop.nodes := by
  obtain ⟨visited, stack⟩ := loop
  rcases List.eq_nil_or_concat stack with rfl | ⟨waiting, current, rfl⟩
  · exact .inl ⟨rfl, rfl⟩
  · right
    refine ⟨⟨visited ++ [current], waiting ++ current.children.reverse⟩, ?_, ?_, ?_⟩
    · simp [round?]
    · exact List.length_append
    · calc visited ++ [current] ++ preorderAll (waiting ++ current.children.reverse).reverse
          = visited ++ (current :: preorderAll (current.children ++ waiting.reverse)) := by simp
        _ = visited ++ (current.preorder ++ preorderAll waiting.reverse) := by
            rw [preorder_eq, preorderAll_append, List.cons_append]
        _ = visited ++ preorderAll (waiting.concat current).reverse := by
            rw [List.concat_eq_append, List.reverse_append, List.reverse_singleton,
              List.singleton_append, preorderAll]

/-- As long as there are nodes to visit there is a next round. -/
theorem exists_after? (root : Node) {rounds : Nat} (within : rounds ≤ root.count) :
    ∃ loop, after? root rounds = some loop ∧ loop.visited.length = rounds ∧
      loop.nodes = root.preorder := by
  induction rounds with
  | zero =>
      refine ⟨⟨[], [root]⟩, rfl, rfl, ?_⟩
      simp [nodes, preorderAll]
  | succ rounds inductionHypothesis =>
      obtain ⟨loop, reached, length, all⟩ := inductionHypothesis (by omega)
      rcases loop.round?_cases with ⟨emptied, _⟩ | ⟨next, goesOn, longer, same⟩
      · -- With nothing on the stack all nodes of the tree have been visited.
        have visitedAll : loop.visited = root.preorder := by
          rw [← all, nodes, emptied, List.reverse_nil, preorderAll, List.append_nil]
        rw [visitedAll, length_preorder] at length
        omega
      · refine ⟨next, ?_, by rw [longer, length], same.trans all⟩
        rw [after?, reached, Option.bind_some, goesOn]

/-- The loop is over after as many rounds as the tree has nodes, and then it has visited what the walk
lists. -/
theorem after?_count (root : Node) :
    after? root root.count = some ⟨root.walk, []⟩ ∧ after? root (root.count + 1) = none := by
  obtain ⟨⟨visited, stack⟩, reached, length, all⟩ := exists_after? root (Nat.le_refl root.count)
  have allVisited : visited = root.preorder := by
    apply List.IsPrefix.eq_of_length ⟨_, all⟩
    rw [length_preorder]
    exact length
  have nothingWaits : stack = [] := by
    subst allVisited
    have none : preorderAll stack.reverse = [] := List.append_right_eq_self.mp all
    cases waiting : stack.reverse with
    | nil => exact List.reverse_eq_nil_iff.mp waiting
    | cons next rest =>
        rw [waiting, preorderAll, preorder_eq, List.cons_append] at none
        cases none
  rw [allVisited, nothingWaits, ← walk_eq_preorder] at reached
  refine ⟨reached, ?_⟩
  rw [after?, reached]
  rfl

end Loop

/-! ## Addresses -/

/-- The node at an address, which is the list of the positions of children on the way down. -/
def at? : Node → List Nat → Option Node
  | root, [] => some root
  | root, position :: rest => root.children[position]?.bind fun child => child.at? rest

/-- The order of a document: a node comes before what is below it, and all that is below one child of
a node before all that is below a later child. -/
inductive Precedes : List Nat → List Nat → Prop where
  | below (address : List Nat) (position : Nat) (rest : List Nat) :
      Precedes address (address ++ position :: rest)
  | beside (common : List Nat) {earlier later : Nat} (before : earlier < later)
      (left right : List Nat) : Precedes (common ++ earlier :: left) (common ++ later :: right)

namespace Precedes

variable {left right : List Nat}

theorem cons (precedes : Precedes left right) (position : Nat) :
    Precedes (position :: left) (position :: right) := by
  cases precedes with
  | below _ next rest => exact .below (position :: left) next rest
  | beside common before left right => exact .beside (position :: common) before left right

/-- No address comes before itself. -/
theorem ne (precedes : Precedes left right) : left ≠ right := by
  intro same
  cases precedes with
  | below _ position rest =>
      have lengths := congrArg List.length same
      rw [List.length_append, List.length_cons] at lengths
      omega
  | beside common before left right =>
      have heads := (List.cons.inj (List.append_cancel_left same)).1
      omega

end Precedes

mutual

/-- The nodes of a tree with their addresses, in the order of the traversal. -/
def visits : Node → List (List Nat × Node)
  | ⟨kind, start, stop, named, missing, field, children⟩ =>
    ([], ⟨kind, start, stop, named, missing, field, children⟩) :: visitsFrom 0 children

/-- The nodes of some children with their addresses, the first child being at a position. -/
def visitsFrom (position : Nat) : List Node → List (List Nat × Node)
  | [] => []
  | child :: rest =>
    (visits child).map (fun visit => (position :: visit.1, visit.2)) ++ visitsFrom (position + 1) rest

end

theorem visits_eq (root : Node) : root.visits = ([], root) :: visitsFrom 0 root.children := by
  cases root
  rw [visits]

theorem map_snd_visitsFrom {position : Nat} {children : List Node}
    (walks : ∀ child ∈ children, child.visits.map Prod.snd = child.walk) :
    (visitsFrom position children).map Prod.snd = children.flatMap walk := by
  induction children generalizing position with
  | nil => rfl
  | cons child rest inductionHypothesis =>
      have remaining : (visitsFrom (position + 1) rest).map Prod.snd = rest.flatMap walk := by
        apply inductionHypothesis
        intro other member
        exact walks other (List.mem_cons_of_mem child member)
      rw [visitsFrom, List.map_append, remaining, List.map_map, List.flatMap_cons,
        ← walks child List.mem_cons_self]
      rfl

/-- The visits are those of the walk. -/
theorem map_snd_visits (root : Node) : root.visits.map Prod.snd = root.walk := by
  induction root using inductionOnChildren with
  | step root inductionHypothesis =>
      rw [visits_eq, walk_eq, List.map_cons, map_snd_visitsFrom inductionHypothesis]

theorem mem_visitsFrom_iff {start : Nat} {children : List Node} {address : List Nat} {node : Node} :
    (address, node) ∈ visitsFrom start children ↔
      ∃ position rest child, address = (start + position) :: rest ∧
        children[position]? = some child ∧ (rest, node) ∈ child.visits := by
  induction children generalizing start with
  | nil => simp [visitsFrom]
  | cons first others inductionHypothesis =>
      rw [visitsFrom, List.mem_append, inductionHypothesis]
      constructor
      · rintro (below | ⟨position, rest, child, rfl, isChild, within⟩)
        · obtain ⟨⟨rest, inner⟩, within, same⟩ := List.mem_map.mp below
          cases same
          exact ⟨0, rest, first, rfl, rfl, within⟩
        · refine ⟨position + 1, rest, child, ?_, isChild, within⟩
          congr 1
          omega
      · rintro ⟨position, rest, child, rfl, isChild, within⟩
        cases position with
        | zero =>
            cases isChild
            exact .inl (List.mem_map.mpr ⟨(rest, node), within, rfl⟩)
        | succ position =>
            refine .inr ⟨position, rest, child, ?_, isChild, within⟩
            congr 1
            omega

/-- A node is visited at an address exactly if it stands there. -/
theorem mem_visits_iff {root node : Node} {address : List Nat} :
    (address, node) ∈ root.visits ↔ root.at? address = some node := by
  induction root using inductionOnChildren generalizing address with
  | step root inductionHypothesis =>
      rw [visits_eq, List.mem_cons]
      cases address with
      | nil =>
          have notBelow : ([], node) ∉ visitsFrom 0 root.children := by
            intro below
            obtain ⟨_, _, _, impossible, _⟩ := mem_visitsFrom_iff.mp below
            cases impossible
          simp [notBelow, at?, eq_comm]
      | cons position rest =>
          rw [mem_visitsFrom_iff, at?, Option.bind_eq_some_iff]
          constructor
          · rintro (isRoot | ⟨_, _, child, same, isChild, within⟩)
            · cases isRoot
            · rw [Nat.zero_add] at same
              cases same
              have isMember := List.mem_of_getElem? isChild
              exact ⟨child, isChild, (inductionHypothesis child isMember).mp within⟩
          · rintro ⟨child, isChild, found⟩
            have isMember := List.mem_of_getElem? isChild
            exact .inr ⟨position, rest, child, by rw [Nat.zero_add], isChild,
              (inductionHypothesis child isMember).mpr found⟩

theorem pairwise_visitsFrom {start : Nat} {children : List Node}
    (ordered : ∀ child ∈ children,
      child.visits.Pairwise fun left right => Precedes left.1 right.1) :
    (visitsFrom start children).Pairwise fun left right => Precedes left.1 right.1 := by
  induction children generalizing start with
  | nil => exact List.Pairwise.nil
  | cons child rest inductionHypothesis =>
      rw [visitsFrom, List.pairwise_append, List.pairwise_map]
      refine ⟨?_, ?_, ?_⟩
      · exact (ordered child List.mem_cons_self).imp fun precedes => precedes.cons start
      · exact inductionHypothesis fun other member =>
          ordered other (List.mem_cons_of_mem child member)
      · -- The addresses part at the position of the child.
        intro left isLeft right isRight
        obtain ⟨⟨address, node⟩, _, rfl⟩ := List.mem_map.mp isLeft
        obtain ⟨position, further, _, later, _⟩ := mem_visitsFrom_iff.mp isRight
        rw [later]
        exact .beside [] (by omega) address further

/-- The visits follow the order of the document. -/
theorem pairwise_visits (root : Node) :
    root.visits.Pairwise fun left right => Precedes left.1 right.1 := by
  induction root using inductionOnChildren with
  | step root inductionHypothesis =>
      rw [visits_eq, List.pairwise_cons]
      refine ⟨?_, pairwise_visitsFrom inductionHypothesis⟩
      rintro ⟨_, node⟩ below
      obtain ⟨position, rest, _, rfl, _⟩ := mem_visitsFrom_iff.mp below
      exact .below [] _ rest

/-- Every address is visited once. -/
theorem nodup_addresses (root : Node) : (root.visits.map Prod.fst).Nodup := by
  rw [List.nodup_iff_pairwise_ne, List.pairwise_map]
  exact root.pairwise_visits.imp Precedes.ne

/-! ## Offsets -/

/-- Along the walk of a well-formed tree no offset falls. -/
theorem WellFormed.pairwise_start {root : Node} (wellFormed : root.WellFormed) :
    root.walk.Pairwise fun left right => left.start ≤ right.start := by
  induction root using inductionOnChildren with
  | step root inductionHypothesis =>
      rw [walk_eq, List.pairwise_cons, List.pairwise_flatMap]
      refine ⟨?_, ?_, ?_⟩
      · intro inner below
        obtain ⟨child, isChild, inChild⟩ := List.mem_flatMap.mp below
        exact (wellFormed.enclosed (mem_walk_of_child isChild inChild)).1
      · intro child isChild
        exact inductionHypothesis child isChild (wellFormed.child isChild)
      · -- What is in a child begins before the child ends, and so before the next one begins.
        have orderly := wellFormed root (mem_walk_self root)
        refine orderly.apart.imp_of_mem ?_
        intro left right isLeft isRight apart inLeft withinLeft inRight withinRight
        have ofLeft := (wellFormed.child isLeft).enclosed withinLeft
        have ofRight := (wellFormed.child isRight).enclosed withinRight
        have within := (wellFormed.child isLeft inLeft withinLeft).start_le_stop
        omega

end ImportBoundary.Node
