import ImportBoundary.Proofs.Collecting
import ImportBoundary.Proofs.Syntax.Places
import ImportBoundary.Typing.Scope
import Mathlib.Data.List.Forall2

/-!
Contract: trees that differ in their comments.

Owns the nodes of two trees that stand for each other when comments are left out, and what it takes
for two sources to be the same but for their comments. Their nodes may stand at different positions,
since a comment moves apart what stands around it.

Main statements: `SameButComments.child?`, `SameButComments.namedContent` and
`SameButComments.places`, by which the children of a role, the named children and the places of two
such trees stand for each other.
-/

namespace ImportBoundary

/-! ## Related lists -/

section Lists

variable {α β : Type} {related : α → β → Prop} {items : List α} {others : List β}

theorem rel_head? (areRelated : List.Forall₂ related items others) :
    Option.Rel related items.head? others.head? := by
  cases areRelated with
  | nil => exact .none
  | cons isRelated _ => exact .some isRelated

theorem rel_getLast? (areRelated : List.Forall₂ related items others) :
    Option.Rel related items.getLast? others.getLast? := by
  rw [List.getLast?_eq_head?_reverse, List.getLast?_eq_head?_reverse]
  exact rel_head? (List.rel_reverse areRelated)

theorem rel_find? {accepts : α → Bool} {alsoAccepts : β → Bool}
    (areRelated : List.Forall₂ related items others)
    (same : ∀ item other, related item other → (accepts item = true ↔ alsoAccepts other = true)) :
    Option.Rel related (items.find? accepts) (others.find? alsoAccepts) := by
  rw [← List.head?_filter, ← List.head?_filter]
  exact rel_head? (List.rel_filter same areRelated)

end Lists

namespace Node

/-! ## Nodes that stand for each other -/

def isComment (node : Node) : Bool :=
  node.kind == "comment"

/-- The children that are no comments. -/
def content (node : Node) : List Node :=
  node.children.filter fun child => !child.isComment

mutual

/-- The nodes of two trees that stand for each other: the roots, and below them the children that are
no comments one by one. -/
def pairs : Node → Node → List (Node × Node)
  | ⟨kind, start, stop, named, missing, field, children⟩, other =>
    (⟨kind, start, stop, named, missing, field, children⟩, other) ::
      pairsAll children other.content

/-- The nodes of some trees, without those that are comments, and of some others. -/
def pairsAll : List Node → List Node → List (Node × Node)
  | [], _ => []
  | node :: rest, others =>
    if node.isComment then pairsAll rest others
    else
      match others with
      | [] => []
      | other :: remaining => pairs node other ++ pairsAll rest remaining

end

private theorem pairsAll_eq_flatMap (nodes others : List Node) :
    pairsAll nodes others =
      ((nodes.filter fun node => !node.isComment).zip others).flatMap fun pair =>
        pairs pair.1 pair.2 := by
  induction nodes generalizing others with
  | nil => rfl
  | cons node rest inductionHypothesis =>
      rw [pairsAll.eq_def]
      cases isComment : node.isComment with
      | true => simpa [isComment] using inductionHypothesis others
      | false =>
          cases others with
          | nil => simp [isComment]
          | cons other remaining => simp [isComment, inductionHypothesis]

/-- The pairs of nodes below two roots. -/
def pairsBelow (root other : Node) : List (Node × Node) :=
  (root.content.zip other.content).flatMap fun pair => pairs pair.1 pair.2

theorem pairs_eq (root other : Node) : pairs root other = (root, other) :: pairsBelow root other := by
  cases root
  rw [pairs, pairsAll_eq_flatMap]
  rfl

theorem mem_pairs_self (root other : Node) : (root, other) ∈ pairs root other := by
  rw [pairs_eq]
  exact List.mem_cons_self

theorem mem_pairs_of_mem_pairsBelow {root other : Node} {pair : Node × Node}
    (below : pair ∈ pairsBelow root other) : pair ∈ pairs root other := by
  rw [pairs_eq]
  exact List.mem_cons_of_mem _ below

theorem mem_pairsBelow_of_mem_pairs {root other : Node} {children inner : Node × Node}
    (areChildren : children ∈ root.content.zip other.content)
    (within : inner ∈ pairs children.1 children.2) : inner ∈ pairsBelow root other :=
  List.mem_flatMap.mpr ⟨children, areChildren, within⟩

/-- Children of nodes that stand for each other stand for each other. -/
theorem mem_pairsBelow_of_child {root other : Node} {pair children : Node × Node}
    (member : pair ∈ pairs root other) (areChildren : children ∈ pair.1.content.zip pair.2.content) :
    children ∈ pairsBelow root other := by
  induction root using inductionOnChildren generalizing other with
  | step root inductionHypothesis =>
      rw [pairs_eq] at member
      rcases List.mem_cons.mp member with rfl | below
      · exact mem_pairsBelow_of_mem_pairs areChildren (mem_pairs_self _ _)
      · obtain ⟨upper, areUpper, within⟩ := List.mem_flatMap.mp below
        have isChild : upper.1 ∈ root.children :=
          (List.mem_filter.mp (List.of_mem_zip areUpper).1).1
        exact mem_pairsBelow_of_mem_pairs areUpper
          (mem_pairs_of_mem_pairsBelow (inductionHypothesis upper.1 isChild within))

theorem mem_walk_of_mem_pairs {root other : Node} {pair : Node × Node}
    (member : pair ∈ pairs root other) : pair.1 ∈ root.walk ∧ pair.2 ∈ other.walk := by
  induction root using inductionOnChildren generalizing other with
  | step root inductionHypothesis =>
      rw [pairs_eq] at member
      rcases List.mem_cons.mp member with rfl | below
      · exact ⟨mem_walk_self _, mem_walk_self _⟩
      · obtain ⟨upper, areUpper, within⟩ := List.mem_flatMap.mp below
        obtain ⟨isChild, isOther⟩ := List.of_mem_zip areUpper
        have ofChild := (List.mem_filter.mp isChild).1
        have ofOther := (List.mem_filter.mp isOther).1
        obtain ⟨inChild, inOther⟩ := inductionHypothesis upper.1 ofChild within
        exact ⟨mem_walk_of_child ofChild inChild, mem_walk_of_child ofOther inOther⟩

/-- Two nodes of one kind and role that have as many children, apart from comments. -/
structure Resembles (node other : Node) : Prop where
  kind : node.kind = other.kind
  named : node.named = other.named
  field : node.field = other.field
  length : node.content.length = other.content.length

instance (node other : Node) : Decidable (node.Resembles other) :=
  decidable_of_iff (node.kind = other.kind ∧ node.named = other.named ∧ node.field = other.field ∧
      node.content.length = other.content.length)
    ⟨fun ⟨kind, named, field, length⟩ => ⟨kind, named, field, length⟩,
      fun resembles => ⟨resembles.kind, resembles.named, resembles.field, resembles.length⟩⟩

/-- The comments of a tree have no role and nothing within. -/
def BareComments (root : Node) : Prop :=
  ∀ node ∈ root.walk, node.isComment = true → node.children = [] ∧ node.field = none

theorem bareComments_iff {root : Node} : root.BareComments ↔
    ∀ node ∈ root.preorder, node.isComment = true →
      node.children.isEmpty = true ∧ node.field = none := by
  simp only [BareComments, walk_eq_preorder, List.isEmpty_iff]

instance (root : Node) : Decidable root.BareComments :=
  decidable_of_iff _ bareComments_iff.symm

theorem BareComments.child?_eq {root node : Node} (bare : root.BareComments)
    (inTree : node ∈ root.walk) (field : String) :
    node.child? field = node.content.find? fun child => child.field == some field := by
  rw [child?, content, ← List.head?_filter, ← List.head?_filter, List.filter_filter]
  congr 1
  apply List.filter_congr
  intro child isChild
  cases isComment : child.isComment with
  | false => simp
  | true => simp [(bare child (mem_walk_of_mem_children inTree isChild) isComment).2]

end Node

namespace Source

/-- The nodes whose text is a name. -/
def wordKinds : List String :=
  ["identifier", "property_identifier", "shorthand_property_identifier", "type_identifier",
    "nested_type_identifier", "predefined_type", "number"]

/-- The nodes that bound the scope of a declaration. -/
def scopeKinds : List String :=
  functionScopeKinds ++ blockScopeKinds

/-- The pairs of nodes below the roots that are words. -/
def words (first second : Source) : List (Node × Node) :=
  (Node.pairsBelow first.root second.root).filter fun pair => wordKinds.contains pair.1.kind

/-- The pairs of nodes that bound a scope. -/
def scopes (first second : Source) : List (Node × Node) :=
  (Node.pairs first.root second.root).filter fun pair => scopeKinds.contains pair.1.kind

/-- Two sources that are the same but for their comments. Nodes that stand for each other look the
same, and have text or none alike. Positions may differ, but comments leave what begins before a word,
what the scopes enclose, and which of two scopes around a word is the longer one. -/
structure SameButComments (first second : Source) : Prop where
  resembles : ∀ pair ∈ Node.pairs first.root second.root, pair.1.Resembles pair.2
  bare : first.root.BareComments ∧ second.root.BareComments
  legible : ∀ pair ∈ Node.pairs first.root second.root,
    (first.text pair.1).isOk = (second.text pair.2).isOk
  starts : ∀ pair ∈ Node.pairsBelow first.root second.root, ∀ word ∈ first.words second,
    (pair.1.start < word.1.start ↔ pair.2.start < word.2.start)
  encloses : ∀ scope ∈ first.scopes second, ∀ word ∈ first.words second,
    scope.1.encloses word.1 = scope.2.encloses word.2
  extents : ∀ scope ∈ first.scopes second, ∀ other ∈ first.scopes second,
    ∀ word ∈ first.words second,
      scope.1.encloses word.1 = true → other.1.encloses word.1 = true →
        (scope.1.extent ≤ other.1.extent ↔ scope.2.extent ≤ other.2.extent)

instance (first second : Source) : Decidable (first.SameButComments second) :=
  decidable_of_iff
    ((∀ pair ∈ Node.pairs first.root second.root, pair.1.Resembles pair.2) ∧
      (first.root.BareComments ∧ second.root.BareComments) ∧
      (∀ pair ∈ Node.pairs first.root second.root,
        (first.text pair.1).isOk = (second.text pair.2).isOk) ∧
      (∀ pair ∈ Node.pairsBelow first.root second.root, ∀ word ∈ first.words second,
        (pair.1.start < word.1.start ↔ pair.2.start < word.2.start)) ∧
      (∀ scope ∈ first.scopes second, ∀ word ∈ first.words second,
        scope.1.encloses word.1 = scope.2.encloses word.2) ∧
      ∀ scope ∈ first.scopes second, ∀ other ∈ first.scopes second,
        ∀ word ∈ first.words second,
          scope.1.encloses word.1 = true → other.1.encloses word.1 = true →
            (scope.1.extent ≤ other.1.extent ↔ scope.2.extent ≤ other.2.extent))
    ⟨fun ⟨resembles, bare, legible, starts, encloses, extents⟩ =>
        ⟨resembles, bare, legible, starts, encloses, extents⟩,
      fun same => ⟨same.resembles, same.bare, same.legible, same.starts, same.encloses,
        same.extents⟩⟩

/-- Two nodes that stand for each other. -/
def Paired (first second : Source) (node other : Node) : Prop :=
  (node, other) ∈ Node.pairs first.root second.root

/-- Two nodes below the roots that stand for each other. -/
def PairedBelow (first second : Source) (node other : Node) : Prop :=
  (node, other) ∈ Node.pairsBelow first.root second.root

theorem PairedBelow.mem_words {first second : Source} {node other : Node}
    (below : first.PairedBelow second node other) (isWord : node.kind ∈ wordKinds) :
    (node, other) ∈ first.words second :=
  List.mem_filter.mpr ⟨below, List.elem_eq_true_of_mem isWord⟩

theorem Paired.mem_scopes {first second : Source} {node other : Node}
    (paired : first.Paired second node other) (isScope : node.kind ∈ scopeKinds) :
    (node, other) ∈ first.scopes second :=
  List.mem_filter.mpr ⟨paired, List.elem_eq_true_of_mem isScope⟩

theorem PairedBelow.paired {first second : Source} {node other : Node}
    (below : first.PairedBelow second node other) : first.Paired second node other :=
  Node.mem_pairs_of_mem_pairsBelow below

/-- Two places whose nodes stand for each other, and so do the nodes above them. -/
structure PlacesPaired (first second : Source) (place other : Place) : Prop where
  node : first.Paired second place.node other.node
  above : List.Forall₂ (first.Paired second) place.above other.above
  below : place.above = [] ∨ first.PairedBelow second place.node other.node

namespace SameButComments

variable {first second : Source} {node other : Node} (same : first.SameButComments second)
  (paired : first.Paired second node other)
include same paired

theorem kind : node.kind = other.kind :=
  (same.resembles _ paired).kind

theorem content : List.Forall₂ (first.PairedBelow second) node.content other.content := by
  rw [List.forall₂_iff_zip]
  refine ⟨(same.resembles _ paired).length, fun member => ?_⟩
  exact Node.mem_pairsBelow_of_child paired member

theorem namedContent :
    List.Forall₂ (first.PairedBelow second) node.namedContent other.namedContent := by
  have ofContent : ∀ node : Node, node.namedContent = node.content.filter (·.named) := by
    intro node
    rw [Node.namedContent, Node.namedChildren, Node.content, List.filter_comm]
    rfl
  rw [ofContent, ofContent]
  apply List.rel_filter _ (same.content paired)
  intro child otherChild below
  have named : child.named = otherChild.named := (same.resembles _ below.paired).named
  simp [named]

/-- The children that play a role stand for each other: a comment plays none. -/
theorem child? (field : String) :
    Option.Rel (first.PairedBelow second) (node.child? field) (other.child? field) := by
  obtain ⟨inFirst, inSecond⟩ := Node.mem_walk_of_mem_pairs paired
  rw [same.bare.1.child?_eq inFirst, same.bare.2.child?_eq inSecond]
  apply rel_find? (same.content paired)
  intro child otherChild below
  have field : child.field = otherChild.field := (same.resembles _ below.paired).field
  rw [field]

theorem child?_cases (field : String) :
    (node.child? field = none ∧ other.child? field = none) ∨
      ∃ part otherPart, node.child? field = some part ∧ other.child? field = some otherPart ∧
        first.PairedBelow second part otherPart ∧ part.field = some field := by
  have areRelated := same.child? paired field
  have ofField : ∀ part, node.child? field = some part → part.field = some field :=
    fun part found => by simpa using List.find?_some found
  generalize node.child? field = found, other.child? field = otherFound at areRelated ofField ⊢
  cases areRelated with
  | none => exact .inl ⟨rfl, rfl⟩
  | some below => exact .inr ⟨_, _, rfl, rfl, below, ofField _ rfl⟩

end SameButComments

/-! ## Places -/

/-- The places of a tree that are no comments. -/
def contentPlaces (above : List Node) (node : Node) : List Place :=
  (node.placesUnder above).filter fun place => !place.node.isComment

theorem contentPlaces_eq {root node : Node} (bare : root.BareComments) (inTree : node ∈ root.walk)
    (above : List Node) :
    contentPlaces above node =
      ([⟨node, above⟩] : List Place).filter (fun place => !place.node.isComment) ++
        node.content.flatMap (contentPlaces (node :: above)) := by
  have ofComment : ∀ child ∈ node.children, child.isComment = true →
      contentPlaces (node :: above) child = [] := by
    intro child isChild isComment
    have childless := (bare child (Node.mem_walk_of_mem_children inTree isChild) isComment).1
    simp [contentPlaces, Node.placesUnder_eq, childless, isComment]
  have ofChildren : ∀ children : List Node, (∀ child ∈ children, child ∈ node.children) →
      children.flatMap (contentPlaces (node :: above)) =
        (children.filter fun child => !child.isComment).flatMap
          (contentPlaces (node :: above)) := by
    intro children areChildren
    induction children with
    | nil => rfl
    | cons child rest inductionHypothesis =>
        rw [List.forall_mem_cons] at areChildren
        rw [List.flatMap_cons, List.filter_cons, inductionHypothesis areChildren.2]
        cases isComment : child.isComment with
        | true => simp [ofComment child areChildren.1 isComment]
        | false => simp
  have within := ofChildren node.children fun _ isChild => isChild
  rw [contentPlaces, Node.placesUnder_eq, ← List.singleton_append, List.filter_append,
    List.filter_flatMap]
  exact congrArg _ within

theorem SameButComments.contentPlaces {first second : Source}
    (same : first.SameButComments second) {node other : Node}
    (paired : first.Paired second node other) {above otherAbove : List Node}
    (areAbove : List.Forall₂ (first.Paired second) above otherAbove)
    (below : above = [] ∨ first.PairedBelow second node other) :
    List.Forall₂ (first.PlacesPaired second) (contentPlaces above node)
      (contentPlaces otherAbove other) := by
  induction node using Node.inductionOnChildren generalizing other above otherAbove with
  | step node inductionHypothesis =>
      obtain ⟨inFirst, inSecond⟩ := Node.mem_walk_of_mem_pairs paired
      rw [contentPlaces_eq same.bare.1 inFirst, contentPlaces_eq same.bare.2 inSecond]
      apply List.rel_append
      · apply List.rel_filter _ (.cons ⟨paired, areAbove, below⟩ .nil)
        intro place otherPlace placesPaired
        have kind : place.node.kind = otherPlace.node.kind := same.kind placesPaired.node
        simp [Node.isComment, kind]
      · apply List.rel_flatMap (R := fun child otherChild =>
          child ∈ node.children ∧ first.PairedBelow second child otherChild)
        · refine List.forall₂_iff_zip.mpr ⟨(same.resembles _ paired).length, fun member => ⟨?_, ?_⟩⟩
          · exact (List.mem_filter.mp (List.of_mem_zip member).1).1
          · exact Node.mem_pairsBelow_of_child paired member
        · rintro child otherChild ⟨isChild, childBelow⟩
          exact inductionHypothesis child isChild childBelow.paired (.cons paired areAbove)
            (.inr childBelow)

/-- The places of two sources that are the same but for their comments stand for each other. -/
theorem SameButComments.places {first second : Source} (same : first.SameButComments second) :
    List.Forall₂ (first.PlacesPaired second) (Source.contentPlaces [] first.root)
      (Source.contentPlaces [] second.root) :=
  same.contentPlaces (Node.mem_pairs_self _ _) .nil (.inl rfl)

end Source

end ImportBoundary
