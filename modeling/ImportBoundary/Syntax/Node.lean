/-!
Contract: concrete syntax trees.

Owns the node type, its children by role, the walk in document order, and the reading of a tree
from its rows. Offsets count octets of the source.

Main definitions to reason with: `walk` keeps the subtrees still to be visited on a stack,
`preorder` says the same by recursion on the tree, and `places` lists every node with the nodes
above it.
-/

namespace ImportBoundary

/-- A node of a syntax tree: what it is, its range, whether it is a named node rather than a mere
token, whether it was missing and supplied, and its role within its parent. -/
structure Node where
  kind : String
  start : Nat
  stop : Nat
  named : Bool
  missing : Bool
  field : Option String
  children : List Node
deriving Repr, Inhabited

namespace Node

def namedChildren (node : Node) : List Node :=
  node.children.filter (·.named)

/-- The first child with a role. -/
def child? (node : Node) (field : String) : Option Node :=
  node.children.find? fun child => child.field == some field

def firstNamed? (node : Node) : Option Node :=
  node.namedChildren.head?

/-- The first named child of a kind. -/
def firstOfKind? (node : Node) (kind : String) : Option Node :=
  node.namedChildren.find? fun child => child.kind == kind

/-- The named children that are not comments. -/
def namedContent (node : Node) : List Node :=
  node.namedChildren.filter fun child => child.kind != "comment"

/-- Whether a token that is no named node stands among the children. -/
def hasToken (node : Node) (kind : String) : Bool :=
  node.children.any fun child => !child.named && child.kind == kind

/-- The length of the range. -/
def extent (node : Node) : Nat :=
  node.stop - node.start

/-- Whether the range of another node lies within the range of this one. -/
def encloses (node other : Node) : Bool :=
  node.start ≤ other.start && other.stop ≤ node.stop

/-- Whether the node itself is an error of the text. -/
def isFault (node : Node) : Bool :=
  node.kind == "ERROR" || node.missing

mutual

/-- The number of nodes of a tree. -/
def count : Node → Nat
  | ⟨_, _, _, _, _, _, children⟩ => countAll children + 1

/-- The number of nodes of some trees. -/
def countAll : List Node → Nat
  | [] => 0
  | node :: rest => count node + countAll rest

end

mutual

/-- The nodes of a tree, every node before its children and every child's tree before the next. -/
def preorder : Node → List Node
  | ⟨kind, start, stop, named, missing, field, children⟩ =>
    ⟨kind, start, stop, named, missing, field, children⟩ :: preorderAll children

/-- The nodes of some trees, one tree after the other. -/
def preorderAll : List Node → List Node
  | [] => []
  | node :: rest => preorder node ++ preorderAll rest

end

/-- The node counts of two lists of trees add up. -/
theorem countAll_append (left right : List Node) :
    countAll (left ++ right) = countAll left + countAll right := by
  induction left with
  | nil => simp [countAll]
  | cons node rest inductionHypothesis =>
    simp only [List.cons_append, countAll, inductionHypothesis]
    omega

/-- A tree has one node more than the trees below its root. -/
theorem count_eq (node : Node) : node.count = countAll node.children + 1 := by
  cases node
  simp [count]

/-- Visit the trees on the stack: the top one gives way to its children. -/
def walkStack : List Node → List Node
  | [] => []
  | node :: rest => node :: walkStack (node.children ++ rest)
termination_by stack => countAll stack
decreasing_by
  rw [countAll_append, countAll, count_eq]
  omega

/-- The nodes of a tree in document order. -/
def walk (root : Node) : List Node :=
  walkStack [root]

end Node

/-- A node together with the nodes above it, its parent first. -/
structure Place where
  node : Node
  above : List Node
deriving Repr, Inhabited

namespace Node

mutual

/-- Every node of a tree with the nodes above it, in document order. -/
def placesUnder (above : List Node) : Node → List Place
  | ⟨kind, start, stop, named, missing, field, children⟩ =>
    let node : Node := ⟨kind, start, stop, named, missing, field, children⟩
    ⟨node, above⟩ :: placesUnderAll (node :: above) children

/-- Every node of some trees with the nodes above it. -/
def placesUnderAll (above : List Node) : List Node → List Place
  | [] => []
  | node :: rest => placesUnder above node ++ placesUnderAll above rest

end

/-- Every node with the nodes above it, in document order. -/
def places (root : Node) : List Place :=
  placesUnder [] root

end Node

/-- One node of a tree written as rows in document order: its depth and everything of the node but
its children. -/
structure Row where
  depth : Nat
  kind : String
  start : Nat
  stop : Nat
  named : Bool
  missing : Bool
  field : Option String
deriving DecidableEq, Repr

def Row.toNode (row : Row) (children : List Node) : Node :=
  ⟨row.kind, row.start, row.stop, row.named, row.missing, row.field, children⟩

/-- Put a row in front of trees with their depths: it takes the deeper ones as its children. -/
def Row.attach (row : Row) (pending : List (Nat × Node)) : List (Nat × Node) :=
  let isBelow := fun (tree : Nat × Node) => decide (row.depth < tree.1)
  (row.depth, row.toNode ((pending.takeWhile isBelow).map Prod.snd)) :: pending.dropWhile isBelow

/-- The tree that rows in document order write. -/
def Node.ofRows? (rows : List Row) : Option Node :=
  (rows.foldr Row.attach []).head?.map Prod.snd

end ImportBoundary
