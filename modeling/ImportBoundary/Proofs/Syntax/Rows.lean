import ImportBoundary.Proofs.Syntax.Walk
import Mathlib.Data.List.Chain
import Mathlib.Data.List.Forall2
import Mathlib.Data.List.TakeWhile

/-!
Contract: trees written as rows.

Owns the rows of a tree, which lists of rows write a tree, and that reading and writing undo each
other. Rows are read from the last to the first. What has been read is a list of trees with their
depths, none deeper than the one before it, whose rows are those read so far; a further row takes the
leading trees that lie deeper as its children.

Main statements: `Reads.attach`, `WritesTree.exists_root`, `ofRows?_rows`, and
`walk_in_document_order`, by which the walk of a tree is its recursive traversal and comes by the rows
that the tree is written with.
-/

namespace ImportBoundary

/-! ## Writing -/

namespace Node

/-- The row of a node at a depth. -/
def row (node : Node) (depth : Nat) : Row :=
  ⟨depth, node.kind, node.start, node.stop, node.named, node.missing, node.field⟩

/-- The rows of a tree whose root stands at a depth, in the order of its visits. A node stands as much
deeper as its address is long. -/
def rowsAt (root : Node) (depth : Nat) : List Row :=
  root.visits.map fun visit => visit.2.row (depth + visit.1.length)

/-- The rows of a whole tree. -/
def rows (root : Node) : List Row :=
  root.rowsAt 0

private theorem map_row_visitsFrom (position depth : Nat) (children : List Node) :
    (visitsFrom position children).map (fun visit => visit.2.row (depth + visit.1.length)) =
      children.flatMap fun child => child.rowsAt (depth + 1) := by
  induction children generalizing position with
  | nil => rfl
  | cons child rest inductionHypothesis =>
      have deeper : ∀ visit : List Nat × Node,
          depth + (position :: visit.1).length = depth + 1 + visit.1.length := by
        intro visit
        rw [List.length_cons]
        omega
      rw [visitsFrom, List.map_append, inductionHypothesis, List.map_map, List.flatMap_cons]
      congr 1
      exact List.map_congr_left fun visit _ => congrArg visit.2.row (deeper visit)

theorem toNode_row (node : Node) (depth : Nat) : (node.row depth).toNode node.children = node := by
  cases node
  rfl

theorem rowsAt_eq (root : Node) (depth : Nat) :
    root.rowsAt depth =
      root.row depth :: root.children.flatMap fun child => child.rowsAt (depth + 1) := by
  rw [rowsAt, visits_eq, List.map_cons, map_row_visitsFrom]
  rfl

theorem le_depth_of_mem_rowsAt {root : Node} {depth : Nat} {row : Row}
    (member : row ∈ root.rowsAt depth) : depth ≤ row.depth := by
  obtain ⟨visit, _, rfl⟩ := List.mem_map.mp member
  exact Nat.le_add_right depth visit.1.length

/-- Trees at one depth begin with a row of that depth. -/
theorem depth_of_head?_flatMap {depth : Nat} {nodes : List Node} {row : Row}
    (isFirst : row ∈ (nodes.flatMap fun node => node.rowsAt depth).head?) : row.depth = depth := by
  cases nodes with
  | nil => cases isFirst
  | cons node rest =>
      rw [List.flatMap_cons, rowsAt_eq] at isFirst
      cases isFirst
      rfl

end Node

/-- Rows that write one tree: the first one at depth zero and all others below it, each at most one
deeper than the row before it. -/
structure WritesTree (rows : List Row) : Prop where
  top : ∃ first rest, rows = first :: rest ∧ first.depth = 0 ∧ ∀ row ∈ rest, 0 < row.depth
  gradual : rows.IsChain fun row next => next.depth ≤ row.depth + 1

namespace Node

private theorem isChain_flatMap {depth : Nat} {nodes : List Node}
    (chains : ∀ node ∈ nodes,
      (node.rowsAt depth).IsChain fun row next => next.depth ≤ row.depth + 1) :
    (nodes.flatMap fun node => node.rowsAt depth).IsChain
      fun row next => next.depth ≤ row.depth + 1 := by
  induction nodes with
  | nil => exact .nil
  | cons node rest inductionHypothesis =>
      rw [List.flatMap_cons, List.isChain_append]
      refine ⟨chains node List.mem_cons_self, ?_, ?_⟩
      · exact inductionHypothesis fun other member =>
          chains other (List.mem_cons_of_mem node member)
      · intro last isLast next isNext
        have lastBelow := le_depth_of_mem_rowsAt (List.mem_of_getLast? isLast)
        have nextDepth := depth_of_head?_flatMap isNext
        omega

theorem isChain_rowsAt (root : Node) (depth : Nat) :
    (root.rowsAt depth).IsChain fun row next => next.depth ≤ row.depth + 1 := by
  induction root using inductionOnChildren generalizing depth with
  | step root inductionHypothesis =>
      rw [rowsAt_eq, List.isChain_cons]
      refine ⟨?_, isChain_flatMap fun child isChild => inductionHypothesis child isChild _⟩
      intro next isNext
      exact Nat.le_of_eq (depth_of_head?_flatMap isNext)

/-- The rows of a tree write a tree. -/
theorem writesTree_rows (root : Node) : WritesTree root.rows := by
  refine ⟨⟨root.row 0, _, root.rowsAt_eq 0, rfl, ?_⟩, root.isChain_rowsAt 0⟩
  intro row isBelow
  obtain ⟨child, _, within⟩ := List.mem_flatMap.mp isBelow
  exact le_depth_of_mem_rowsAt within

end Node

/-! ## Reading what is written -/

namespace Row

/-- Whether a tree that has been read lies below a row in front of it. -/
def liesAbove (row : Row) (tree : Nat × Node) : Bool :=
  decide (row.depth < tree.1)

theorem liesAbove_iff {row : Row} {tree : Nat × Node} :
    row.liesAbove tree = true ↔ row.depth < tree.1 :=
  decide_eq_true_iff

theorem attach_eq (row : Row) (pending : List (Nat × Node)) :
    row.attach pending =
      (row.depth, row.toNode ((pending.takeWhile row.liesAbove).map Prod.snd)) ::
        pending.dropWhile row.liesAbove :=
  rfl

end Row

/-- Trees at one depth are read back in front of trees that do not lie deeper. -/
private theorem foldr_flatMap_rowsAt {depth : Nat} {nodes : List Node}
    (reads : ∀ node ∈ nodes, ∀ pending : List (Nat × Node),
      (∀ tree ∈ pending.head?, tree.1 ≤ depth) →
        (node.rowsAt depth).foldr Row.attach pending = (depth, node) :: pending)
    {pending : List (Nat × Node)} (shallow : ∀ tree ∈ pending.head?, tree.1 ≤ depth) :
    (nodes.flatMap fun node => node.rowsAt depth).foldr Row.attach pending =
      nodes.map (fun node => (depth, node)) ++ pending := by
  induction nodes with
  | nil => rfl
  | cons node rest inductionHypothesis =>
      rw [List.flatMap_cons, List.foldr_append,
        inductionHypothesis fun other member => reads other (List.mem_cons_of_mem node member)]
      apply reads node List.mem_cons_self
      intro tree isNext
      cases rest with
      | nil => exact shallow tree isNext
      | cons next others =>
          cases isNext
          exact Nat.le_refl depth

/-- A row takes the trees one deeper as its children, and leaves those that do not lie deeper. -/
theorem Row.attach_children (node : Node) (depth : Nat) {pending : List (Nat × Node)}
    (shallow : ∀ tree ∈ pending.head?, tree.1 ≤ depth) :
    (node.row depth).attach (node.children.map (fun child => (depth + 1, child)) ++ pending) =
      (depth, node) :: pending := by
  have below : ∀ tree ∈ node.children.map fun child => (depth + 1, child),
      (node.row depth).liesAbove tree = true := by
    intro tree isChild
    obtain ⟨child, _, rfl⟩ := List.mem_map.mp isChild
    exact liesAbove_iff.mpr (Nat.lt_succ_self depth)
  have noneTaken : pending.takeWhile (node.row depth).liesAbove = [] ∧
      pending.dropWhile (node.row depth).liesAbove = pending := by
    cases pending with
    | nil => exact ⟨rfl, rfl⟩
    | cons tree rest =>
        have notBelow : ¬ (node.row depth).liesAbove tree = true :=
          fun isBelow => Nat.not_lt.mpr (shallow tree rfl) (liesAbove_iff.mp isBelow)
        exact ⟨List.takeWhile_cons_of_neg notBelow, List.dropWhile_cons_of_neg notBelow⟩
  have children : node.children.map (Prod.snd ∘ fun child => (depth + 1, child)) = node.children :=
    List.map_id _
  rw [attach_eq, List.takeWhile_append_of_pos below, List.dropWhile_append_of_pos below,
    noneTaken.1, noneTaken.2, List.append_nil, List.map_map, children, Node.toNode_row]
  rfl

theorem Node.foldr_rowsAt (root : Node) (depth : Nat) {pending : List (Nat × Node)}
    (shallow : ∀ tree ∈ pending.head?, tree.1 ≤ depth) :
    (root.rowsAt depth).foldr Row.attach pending = (depth, root) :: pending := by
  induction root using Node.inductionOnChildren generalizing depth pending with
  | step root inductionHypothesis =>
      have deeper : ∀ tree ∈ pending.head?, tree.1 ≤ depth + 1 :=
        fun tree isNext => Nat.le_succ_of_le (shallow tree isNext)
      rw [rowsAt_eq, List.foldr_cons, foldr_flatMap_rowsAt _ deeper]
      · exact Row.attach_children root depth shallow
      · intro child isChild others othersShallow
        exact inductionHypothesis child isChild (depth + 1) othersShallow

/-- A tree is read back from its rows. -/
theorem Node.ofRows?_rows (root : Node) : Node.ofRows? root.rows = some root := by
  rw [Node.ofRows?, Node.rows, Node.foldr_rowsAt root 0 (fun tree isNext => by cases isNext)]
  rfl

/-! ## Writing what is read -/

/-- What reading some rows leaves: trees with their depths, none deeper than the one before it, that
are written with these rows. -/
structure Reads (rows : List Row) (pending : List (Nat × Node)) : Prop where
  written : pending.flatMap (fun tree => tree.2.rowsAt tree.1) = rows
  falling : pending.Pairwise fun left right => right.1 ≤ left.1

namespace Reads

variable {rows : List Row} {pending : List (Nat × Node)} (reads : Reads rows pending)
include reads

/-- The root of a tree that has been read is one of the rows. -/
theorem row_mem {tree : Nat × Node} (isPending : tree ∈ pending) : tree.2.row tree.1 ∈ rows := by
  rw [← reads.written]
  refine List.mem_flatMap.mpr ⟨tree, isPending, ?_⟩
  rw [Node.rowsAt_eq]
  exact List.mem_cons_self

/-- The tree at the head of what has been read is the deepest, and it has the first row. -/
theorem depth_le {bound : Nat} (first : ∀ row ∈ rows.head?, row.depth ≤ bound)
    {tree : Nat × Node} (isPending : tree ∈ pending) : tree.1 ≤ bound := by
  cases pending with
  | nil => cases isPending
  | cons top rest =>
      have ofTop : top.1 ≤ bound := by
        apply first (top.2.row top.1)
        rw [← reads.written, List.flatMap_cons, Node.rowsAt_eq]
        rfl
      rcases List.mem_cons.mp isPending with rfl | later
      · exact ofTop
      · exact Nat.le_trans ((List.pairwise_cons.mp reads.falling).1 tree later) ofTop

/-- One more row that lies no more than one higher than the next keeps what has been read. -/
theorem attach {row : Row} (gradual : ∀ next ∈ rows.head?, next.depth ≤ row.depth + 1) :
    Reads (row :: rows) (row.attach pending) := by
  have children : ∀ tree ∈ pending.takeWhile row.liesAbove, tree.1 = row.depth + 1 := by
    intro tree isTaken
    have below := Row.liesAbove_iff.mp (List.mem_takeWhile_imp isTaken)
    have above := reads.depth_le gradual ((List.takeWhile_sublist _).subset isTaken)
    omega
  have remaining : ∀ tree ∈ pending.dropWhile row.liesAbove, tree.1 ≤ row.depth := by
    have falling := reads.falling.sublist (List.dropWhile_sublist row.liesAbove)
    have stopped := List.head?_dropWhile_not row.liesAbove pending
    intro tree isLeft
    cases left : pending.dropWhile row.liesAbove with
    | nil =>
        rw [left] at isLeft
        cases isLeft
    | cons top rest =>
        rw [left] at isLeft falling stopped
        have topAbove : ¬ row.depth < top.1 := of_decide_eq_false stopped
        rcases List.mem_cons.mp isLeft with rfl | later
        · exact Nat.not_lt.mp topAbove
        · have lower := (List.pairwise_cons.mp falling).1 tree later
          omega
  constructor
  · have taken : ((pending.takeWhile row.liesAbove).map Prod.snd).flatMap
        (fun child => child.rowsAt (row.depth + 1)) =
          (pending.takeWhile row.liesAbove).flatMap fun tree => tree.2.rowsAt tree.1 := by
      rw [List.flatMap_map]
      exact List.flatMap_congr fun tree isTaken => by rw [children tree isTaken]
    calc (row.attach pending).flatMap (fun tree => tree.2.rowsAt tree.1)
        = (row.toNode ((pending.takeWhile row.liesAbove).map Prod.snd)).rowsAt row.depth ++
            (pending.dropWhile row.liesAbove).flatMap (fun tree => tree.2.rowsAt tree.1) := by
          rw [Row.attach_eq, List.flatMap_cons]
      _ = row :: (((pending.takeWhile row.liesAbove).map Prod.snd).flatMap
            (fun child => child.rowsAt (row.depth + 1)) ++
            (pending.dropWhile row.liesAbove).flatMap (fun tree => tree.2.rowsAt tree.1)) := by
          rw [Node.rowsAt_eq]
          rfl
      _ = row :: pending.flatMap (fun tree => tree.2.rowsAt tree.1) := by
          rw [taken, ← List.flatMap_append, List.takeWhile_append_dropWhile]
      _ = row :: rows := by rw [reads.written]
  · rw [Row.attach_eq, List.pairwise_cons]
    exact ⟨remaining, reads.falling.sublist (List.dropWhile_sublist row.liesAbove)⟩

end Reads

theorem reads_foldr {rows : List Row}
    (gradual : rows.IsChain fun row next => next.depth ≤ row.depth + 1) :
    Reads rows (rows.foldr Row.attach []) := by
  induction rows with
  | nil => exact ⟨rfl, .nil⟩
  | cons row rest inductionHypothesis =>
      obtain ⟨ofNext, remaining⟩ := List.isChain_cons.mp gradual
      exact (inductionHypothesis remaining).attach ofNext

/-- Rows that write a tree are read as the tree that is written with them. -/
theorem WritesTree.exists_root {rows : List Row} (writes : WritesTree rows) :
    ∃ root, Node.ofRows? rows = some root ∧ root.rows = rows := by
  obtain ⟨first, rest, rfl, atTop, below⟩ := writes.top
  have read := reads_foldr writes.gradual
  have readRest := reads_foldr (List.isChain_cons.mp writes.gradual).2
  have allBelow : ∀ tree ∈ rest.foldr Row.attach [], first.liesAbove tree = true := by
    intro tree isPending
    rw [Row.liesAbove_iff, atTop]
    exact below _ (readRest.row_mem isPending)
  obtain ⟨root, single⟩ : ∃ root, (first :: rest).foldr Row.attach [] = [(0, root)] := by
    refine ⟨first.toNode (((rest.foldr Row.attach []).takeWhile first.liesAbove).map Prod.snd), ?_⟩
    rw [List.foldr_cons, Row.attach_eq, List.dropWhile_eq_nil_iff.mpr allBelow, atTop]
  refine ⟨root, by rw [Node.ofRows?, single]; rfl, ?_⟩
  have written := read.written
  rw [single, List.flatMap_singleton] at written
  exact written

/-! ## The walk -/

/-- What the walk of a tree yields. -/
structure WalkedInOrder (root : Node) : Prop where
  /-- The loop is over after one round for each node, and has visited what the walk lists. -/
  ended : Node.Loop.after? root root.count = some ⟨root.walk, []⟩ ∧
    Node.Loop.after? root (root.count + 1) = none
  recursive : root.walk = root.preorder
  /-- The nodes at all addresses are visited, each address once. -/
  visited : root.visits.map Prod.snd = root.walk
  everywhere : ∀ address node, (address, node) ∈ root.visits ↔ root.at? address = some node
  once : (root.visits.map Prod.fst).Nodup
  ordered : root.visits.Pairwise fun left right => Node.Precedes left.1 right.1
  ascending : root.WellFormed → root.walk.Pairwise fun left right => left.start ≤ right.start

theorem walkedInOrder (root : Node) : WalkedInOrder root where
  ended := Node.Loop.after?_count root
  recursive := root.walk_eq_preorder
  visited := root.map_snd_visits
  everywhere _ _ := Node.mem_visits_iff
  once := root.nodup_addresses
  ordered := root.pairwise_visits
  ascending := Node.WellFormed.pairwise_start

/-- The walk comes by the rows of a tree one by one. -/
theorem Node.forall₂_rows_walk (root : Node) :
    List.Forall₂ (fun row node => node.row row.depth = row) root.rows root.walk := by
  rw [← root.map_snd_visits, rows, rowsAt, List.forall₂_map_left_iff, List.forall₂_map_right_iff,
    List.forall₂_same]
  intro visit _
  rfl

/-- **The walk over a stack is the recursive traversal.** It ends, comes to every address once, to a
node before what is below it and to all that is below a child before the next child, and in a
well-formed tree no offset falls. Every tree is read back from its rows, and the tree that is read
from rows is written with them, so that the walk yields the rows in their order. -/
theorem walk_in_document_order :
    (∀ root : Node, WalkedInOrder root ∧ WritesTree root.rows ∧
        Node.ofRows? root.rows = some root) ∧
      ∀ rows, WritesTree rows → ∃ root, Node.ofRows? rows = some root ∧ root.rows = rows ∧
        List.Forall₂ (fun row node => node.row row.depth = row) rows root.walk := by
  constructor
  · intro root
    exact ⟨walkedInOrder root, root.writesTree_rows, root.ofRows?_rows⟩
  · intro rows writes
    obtain ⟨root, read, written⟩ := writes.exists_root
    refine ⟨root, read, written, ?_⟩
    rw [← written]
    exact root.forall₂_rows_walk

/-- The rows of `f(a);`, in which a call stands beside a token. -/
def callRows : List Row :=
  [⟨0, "program", 0, 5, true, false, none⟩,
    ⟨1, "expression_statement", 0, 5, true, false, none⟩,
    ⟨2, "call_expression", 0, 4, true, false, none⟩,
    ⟨3, "identifier", 0, 1, true, false, some "function"⟩,
    ⟨3, "arguments", 1, 4, true, false, some "arguments"⟩,
    ⟨4, "(", 1, 2, false, false, none⟩,
    ⟨4, "identifier", 2, 3, true, false, none⟩,
    ⟨4, ")", 3, 4, false, false, none⟩,
    ⟨2, ";", 4, 5, false, false, none⟩]

theorem walk_in_document_order_of_call :
    WritesTree callRows ∧ ∃ root, Node.ofRows? callRows = some root ∧ root.WellFormed ∧
      root.rows = callRows ∧ root.walk.map Node.start = [0, 0, 0, 0, 1, 1, 2, 3, 4] ∧
      (root.walk.Pairwise fun left right => left.start ≤ right.start) ∧
      Node.Loop.after? root 9 = some ⟨root.walk, []⟩ := by
  have writes : WritesTree callRows := ⟨⟨_, _, rfl, rfl, by decide⟩, by decide⟩
  obtain ⟨root, read, written, _⟩ := walk_in_document_order.2 callRows writes
  have readTree : ∀ tree ∈ Node.ofRows? callRows, tree.WellFormed ∧ tree.count = 9 ∧
      tree.walk.map Node.start = [0, 0, 0, 0, 1, 1, 2, 3, 4] := by
    decide +kernel
  obtain ⟨wellFormed, counted, starts⟩ := readTree root read
  obtain ⟨walked, _⟩ := walk_in_document_order.1 root
  refine ⟨writes, root, read, wellFormed, written, starts, walked.ascending wellFormed, ?_⟩
  rw [← counted]
  exact walked.ended.1

end ImportBoundary
