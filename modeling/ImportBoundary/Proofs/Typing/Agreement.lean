import ImportBoundary.Proofs.Syntax.Comments
import ImportBoundary.Proofs.Typing.Budget

/-!
Contract: what the typing of expressions reads alike in two sources that differ in their comments.

Owns when two answers agree, what a comment must leave alone (`Undisturbed`), and for the parts of the
inference below expressions, the resolution of names and the reading of annotations, that they agree.

Main statements: `agree_declarationOf` and `agree_annotationType`.
-/

namespace ImportBoundary

/-! ## Answers that agree -/

/-- Two answers that both fail, or neither fails and their values are related. -/
def Agree {α β : Type} (related : α → β → Prop) :
    Except Failure α → Except Failure β → Prop
  | .ok value, .ok other => related value other
  | .error _, .error _ => True
  | _, _ => False

section Agree

variable {α β γ δ : Type} {related : α → β → Prop} {further : γ → δ → Prop}
  {answer : Except Failure α} {other : Except Failure β}

theorem Agree.bind {next : α → Except Failure γ} {otherNext : β → Except Failure δ}
    (agree : Agree related answer other)
    (nextAgree : ∀ value otherValue, related value otherValue →
      Agree further (next value) (otherNext otherValue)) :
    Agree further (answer >>= next) (other >>= otherNext) := by
  cases answer with
  | ok value =>
      cases other with
      | ok otherValue => exact nextAgree value otherValue agree
      | error failure => cases agree
  | error failure =>
      cases other with
      | ok otherValue => cases agree
      | error otherFailure => trivial

theorem Agree.map {change : α → γ} {otherChange : β → δ} (agree : Agree related answer other)
    (changed : ∀ value otherValue, related value otherValue →
      further (change value) (otherChange otherValue)) :
    Agree further (answer.map change) (other.map otherChange) := by
  cases answer with
  | ok value =>
      cases other with
      | ok otherValue => exact changed value otherValue agree
      | error failure => cases agree
  | error failure =>
      cases other with
      | ok otherValue => cases agree
      | error otherFailure => trivial

/-- Branches are compared where they are taken. -/
theorem Agree.ite_of {condition otherCondition : Prop} [Decidable condition]
    [Decidable otherCondition] {otherwise : Except Failure α} {alsoOtherwise : Except Failure β}
    (alike : condition ↔ otherCondition) (agree : condition → Agree related answer other)
    (elseAgree : ¬ condition → Agree related otherwise alsoOtherwise) :
    Agree related (if condition then answer else otherwise)
      (if otherCondition then other else alsoOtherwise) := by
  by_cases holds : condition
  · rw [if_pos holds, if_pos (alike.mp holds)]
    exact agree holds
  · rw [if_neg holds, if_neg (mt alike.mpr holds)]
    exact elseAgree holds

theorem Agree.ite {condition otherCondition : Prop} [Decidable condition]
    [Decidable otherCondition] {otherwise : Except Failure α} {alsoOtherwise : Except Failure β}
    (alike : condition ↔ otherCondition) (agree : Agree related answer other)
    (elseAgree : Agree related otherwise alsoOtherwise) :
    Agree related (if condition then answer else otherwise)
      (if otherCondition then other else alsoOtherwise) :=
  Agree.ite_of alike (fun _ => agree) fun _ => elseAgree

/-- What is found at related items is related one by one. -/
theorem agree_gather {rule : α → Except Failure (Option γ)}
    {otherRule : β → Except Failure (Option δ)} {items : List α} {others : List β}
    (areRelated : List.Forall₂ related items others)
    (rulesAgree : ∀ item otherItem, related item otherItem →
      Agree (Option.Rel further) (rule item) (otherRule otherItem)) :
    Agree (List.Forall₂ further) (gather rule items) (gather otherRule others) := by
  induction areRelated with
  | nil => exact List.Forall₂.nil
  | cons isRelated _ inductionHypothesis =>
      apply (rulesAgree _ _ isRelated).bind
      intro found otherFound foundRelated
      apply inductionHypothesis.bind
      intro rest otherRest restRelated
      cases foundRelated with
      | some valuesRelated => exact .cons valuesRelated restRelated
      | none => exact restRelated

end Agree

namespace Source

/-! ## What a comment must leave alone -/

/-- The functions that are known by how they are written. -/
def knownFunctions : List String :=
  symbolFunctions ++ primitiveFunctions.map Prod.fst ++ promiseFunctions

/-- Whether the text of a node is read as a name, an operator or a number: as that of a word, an
operator or a name is, that of a constructor that is no access `object.member`, and that of a generic
type without a name. -/
def isRead (source : Source) (node : Node) : Bool :=
  wordKinds.contains node.kind || node.field == some "operator" || node.field == some "name" ||
    (node.kind == "generic_type" && (node.child? "name").isNone) ||
    (node.field == some "constructor" && source.memberParts node == .ok none)

/-- Whether a node is written like a known function. -/
def isKnownFunction (source : Source) (node : Node) : Bool :=
  match source.text node with
  | .ok callee => knownFunctions.contains callee
  | .error _ => false

/-- The nodes that have the type of their first named child. -/
def frontKinds : List String :=
  wrapperKinds ++ ["type_annotation", "parenthesized_type", "readonly_type", "literal_type"]

/-- No comment stands where the typing of expressions takes it for something else: within a name or a
callee, in front of what is within parentheses or the like, or among the parts of an assertion. -/
structure Undisturbed (first second : Source) : Prop where
  names : ∀ pair ∈ Node.pairs first.root second.root,
    first.isRead pair.1 = true → first.text pair.1 = second.text pair.2
  callees : ∀ pair ∈ Node.pairs first.root second.root, pair.1.field = some "function" →
    first.text pair.1 = second.text pair.2 ∨
      (first.isKnownFunction pair.1 = false ∧ second.isKnownFunction pair.2 = false)
  fronts : ∀ pair ∈ Node.pairs first.root second.root, frontKinds.contains pair.1.kind = true →
    pair.1.firstNamed?.any Node.isComment = false ∧ pair.2.firstNamed?.any Node.isComment = false
  assertions : ∀ pair ∈ Node.pairs first.root second.root, pair.1.kind = "as_expression" →
    pair.1.namedChildren.any Node.isComment = false ∧
      pair.2.namedChildren.any Node.isComment = false

instance (first second : Source) : Decidable (first.Undisturbed second) :=
  decidable_of_iff
    ((∀ pair ∈ Node.pairs first.root second.root,
        first.isRead pair.1 = true → first.text pair.1 = second.text pair.2) ∧
      (∀ pair ∈ Node.pairs first.root second.root, pair.1.field = some "function" →
        first.text pair.1 = second.text pair.2 ∨
          (first.isKnownFunction pair.1 = false ∧ second.isKnownFunction pair.2 = false)) ∧
      (∀ pair ∈ Node.pairs first.root second.root, frontKinds.contains pair.1.kind = true →
        pair.1.firstNamed?.any Node.isComment = false ∧
          pair.2.firstNamed?.any Node.isComment = false) ∧
      ∀ pair ∈ Node.pairs first.root second.root, pair.1.kind = "as_expression" →
        pair.1.namedChildren.any Node.isComment = false ∧
          pair.2.namedChildren.any Node.isComment = false)
    ⟨fun ⟨names, callees, fronts, assertions⟩ => ⟨names, callees, fronts, assertions⟩,
      fun undisturbed => ⟨undisturbed.names, undisturbed.callees, undisturbed.fronts,
        undisturbed.assertions⟩⟩

/-! ## Texts and parts -/

variable {first second : Source} {node other : Node}

/-- The texts of parts that stand for each other, if there are any. -/
theorem SameButComments.text (same : first.SameButComments second)
    (paired : first.Paired second node other) :
    Agree (fun _ _ => True) (first.text node) (second.text other) := by
  have legible : (first.text node).isOk = (second.text other).isOk := same.legible _ paired
  cases read : first.text node <;> cases otherRead : second.text other <;>
    simp_all [Agree, Except.isOk, Except.toBool]

theorem SameButComments.text? (same : first.SameButComments second) {part otherPart : Option Node}
    (paired : Option.Rel (first.PairedBelow second) part otherPart) :
    Agree (fun _ _ => True) (first.text? part) (second.text? otherPart) := by
  cases paired with
  | none => trivial
  | some below => exact (same.text below.paired).map fun _ _ _ => trivial

theorem text_unique {text otherText : String} (spelled : first.text node = second.text other)
    (read : first.text node = .ok text) (otherRead : second.text other = .ok otherText) :
    text = otherText :=
  Except.ok.inj (read.symm.trans (spelled.trans otherRead))

theorem Undisturbed.text (undisturbed : first.Undisturbed second)
    (paired : first.Paired second node other) (isRead : first.isRead node = true) :
    first.text node = second.text other :=
  undisturbed.names _ paired isRead

theorem Undisturbed.text_of_kind (undisturbed : first.Undisturbed second)
    (paired : first.Paired second node other) (isWord : wordKinds.contains node.kind = true) :
    first.text node = second.text other := by
  apply undisturbed.text paired
  simp only [isRead, isWord, Bool.true_or]

theorem Undisturbed.text?_of_field (undisturbed : first.Undisturbed second)
    (same : first.SameButComments second) (paired : first.Paired second node other) {field : String}
    (isRead : field = "operator" ∨ field = "name") :
    first.text? (node.child? field) = second.text? (other.child? field) := by
  rcases same.child?_cases paired field with
    ⟨absent, alsoAbsent⟩ | ⟨part, otherPart, found, otherFound, below, ofPart⟩
  · rw [absent, alsoAbsent]
    rfl
  · have spelled : first.text part = second.text otherPart := by
      apply undisturbed.text below.paired
      rcases isRead with rfl | rfl <;> simp [Source.isRead, ofPart]
    rw [found, otherFound, Source.text?, Source.text?, spelled]

/-! ## Declarations -/

/-- Children of one role that are kept for their kinds, all of which are words. -/
theorem SameButComments.child?_filter_cases (same : first.SameButComments second)
    (paired : first.Paired second node other) (field : String) {kinds : List String}
    {accepts : Node → Bool} (areWords : ∀ kind ∈ kinds, kind ∈ wordKinds)
    (ofKinds : ∀ node, accepts node = true ↔ node.kind ∈ kinds) :
    ((node.child? field).filter accepts = none ∧ (other.child? field).filter accepts = none) ∨
      ∃ target otherTarget, (node.child? field).filter accepts = some target ∧
        (other.child? field).filter accepts = some otherTarget ∧
        first.PairedBelow second target otherTarget ∧ target.kind ∈ wordKinds := by
  rcases same.child?_cases paired field with
    ⟨absent, alsoAbsent⟩ | ⟨part, otherPart, found, otherFound, below, -⟩
  · simp [absent, alsoAbsent]
  · have alike : accepts part = true ↔ accepts otherPart = true := by
      rw [ofKinds, ofKinds, same.kind below.paired]
    rw [found, otherFound]
    cases accepted : accepts part with
    | false =>
        have alsoRejected : accepts otherPart = false := by simpa [accepted] using alike
        simp [accepted, alsoRejected]
    | true =>
        have alsoAccepted := alike.mp accepted
        refine .inr ⟨part, otherPart, ?_, ?_, below, areWords _ ((ofKinds part).mp accepted)⟩
        · simp [accepted]
        · simp [alsoAccepted]

/-- The name that a declaration binds, if it binds one. -/
theorem SameButComments.bindingName?_cases (same : first.SameButComments second)
    {place otherPlace : Place} (paired : first.PlacesPaired second place otherPlace) :
    (place.bindingName? = none ∧ otherPlace.bindingName? = none) ∨
      ∃ target otherTarget, place.bindingName? = some target ∧
        otherPlace.bindingName? = some otherTarget ∧
        first.PairedBelow second target otherTarget ∧ target.kind ∈ wordKinds := by
  have areWords : ∀ kind ∈ ["type_identifier", "identifier"], kind ∈ wordKinds := by decide
  have isWord : ∀ kind ∈ ["identifier"], kind ∈ wordKinds := by decide
  unfold Place.bindingName?
  dsimp only
  rw [same.kind paired.node]
  split_ifs
  · exact same.child?_filter_cases paired.node "name" isWord (by simp)
  · exact same.child?_filter_cases paired.node "name" areWords (by simp)
  · exact same.child?_filter_cases paired.node "pattern" isWord (by simp)
  · exact .inl ⟨rfl, rfl⟩

section Places

variable {place otherPlace : Place} (same : first.SameButComments second)
  (paired : first.PlacesPaired second place otherPlace)
include same paired

theorem SameButComments.enclosing? (kinds : List String) :
    Option.Rel (first.Paired second) (place.enclosing? kinds) (otherPlace.enclosing? kinds) := by
  apply rel_find? paired.above
  intro upper otherUpper areUpper
  rw [same.kind areUpper]

theorem SameButComments.isFunctionWide : place.isFunctionWide = otherPlace.isFunctionWide := by
  unfold Place.isFunctionWide
  rw [same.kind paired.node]
  have parents : Option.Rel (first.Paired second) place.parent? otherPlace.parent? :=
    rel_head? paired.above
  generalize place.parent? = parent, otherPlace.parent? = otherParent at parents ⊢
  cases parents with
  | none => rfl
  | some areParents => simp [same.kind areParents]

theorem SameButComments.scope? :
    Option.Rel (first.Paired second) place.scope? otherPlace.scope? := by
  unfold Place.scope?
  rw [same.kind paired.node, same.isFunctionWide paired]
  split
  · exact same.enclosing? paired _
  · exact same.enclosing? paired _

theorem SameButComments.isMutable : place.isMutable = otherPlace.isMutable := by
  unfold Place.isMutable
  have parents : Option.Rel (first.Paired second) place.parent? otherPlace.parent? :=
    rel_head? paired.above
  generalize place.parent? = parent, otherPlace.parent? = otherParent at parents ⊢
  cases parents with
  | none => rfl
  | @some parent otherParent areParents =>
      dsimp only
      rw [same.kind areParents]
      rcases same.child?_cases areParents "kind" with
        ⟨absent, alsoAbsent⟩ | ⟨keyword, otherKeyword, found, otherFound, below, -⟩
      · rw [absent, alsoAbsent]
      · simp [found, otherFound, same.kind below.paired]

end Places

/-! ## The declaration of a name -/

/-- A scope is one of the nodes above a declaration. -/
theorem of_scope? {place : Place} {scope : Node} (isScope : place.scope? = some scope) :
    place.above ≠ [] ∧ scope.kind ∈ scopeKinds := by
  have ofEnclosing : ∀ {kinds : List String}, place.enclosing? kinds = some scope →
      place.above ≠ [] ∧ scope.kind ∈ kinds := by
    intro kinds found
    have accepted : kinds.contains scope.kind = true :=
      List.find?_some (p := fun node : Node => kinds.contains node.kind) found
    exact ⟨List.ne_nil_of_mem (List.mem_of_find?_eq_some found), List.elem_iff.mp accepted⟩
  unfold Place.scope? at isScope
  split at isScope
  · obtain ⟨isAbove, isKind⟩ := ofEnclosing isScope
    exact ⟨isAbove, List.mem_append_left _ isKind⟩
  · obtain ⟨isAbove, isKind⟩ := ofEnclosing isScope
    exact ⟨isAbove, List.mem_append_right _ isKind⟩

/-- Two candidates for the declaration of an identifier that stand for each other. -/
structure CandidatesPaired (first second : Source) (identifier : Node)
    (candidate other : Node × Place) : Prop where
  scopes : (candidate.1, other.1) ∈ first.scopes second
  around : candidate.1.encloses identifier = true
  places : first.PlacesPaired second candidate.2 other.2
  below : first.PairedBelow second candidate.2.node other.2.node

theorem le_smallest_iff {candidates : List (Node × Place)} {smallest extent : Nat}
    (isSmallest : (candidates.map fun candidate => candidate.1.extent).min? = some smallest) :
    extent ≤ smallest ↔ ∀ rival ∈ candidates, extent ≤ rival.1.extent := by
  rw [List.le_min?_iff isSmallest, List.forall_mem_map]

/-- The candidates whose scopes are as small as the smallest are those that no other goes below. -/
theorem filter_innermost_eq {candidates : List (Node × Place)} {smallest : Nat}
    (isSmallest : (candidates.map fun candidate => candidate.1.extent).min? = some smallest) :
    (candidates.filter fun candidate => candidate.1.extent = smallest) =
      candidates.filter fun candidate => candidate.1.extent ≤ smallest := by
  apply List.filter_congr
  intro candidate member
  have lower := (le_smallest_iff isSmallest).mp (Nat.le_refl _) candidate member
  simp only [decide_eq_decide]
  omega

section Choice

variable {identifier otherIdentifier : Node} (same : first.SameButComments second)
  (below : first.PairedBelow second identifier otherIdentifier)
  (isWord : identifier.kind ∈ wordKinds)
include same below isWord

theorem SameButComments.start_eq_iff (alsoBelow : first.PairedBelow second node other)
    (alsoWord : node.kind ∈ wordKinds) :
    node.start = identifier.start ↔ other.start = otherIdentifier.start := by
  have before := same.starts _ alsoBelow _ (below.mem_words isWord)
  have behind := same.starts _ below _ (alsoBelow.mem_words alsoWord)
  dsimp only at before behind
  omega

theorem agree_visible? (undisturbed : first.Undisturbed second) {place otherPlace : Place}
    (paired : first.PlacesPaired second place otherPlace) (name : String) :
    Agree (Option.Rel (first.CandidatesPaired second identifier))
      (first.visible? identifier name place) (second.visible? otherIdentifier name otherPlace) := by
  unfold Source.visible?
  rcases same.bindingName?_cases paired with
    ⟨absent, alsoAbsent⟩ | ⟨target, otherTarget, found, otherFound, targetsBelow, targetIsWord⟩
  · rw [absent, alsoAbsent]
    exact .none
  have spelled : first.text target = second.text otherTarget :=
    undisturbed.text_of_kind targetsBelow.paired (List.elem_eq_true_of_mem targetIsWord)
  rw [found, otherFound]
  dsimp only
  rw [spelled]
  cases second.text otherTarget with
  | error failure => trivial
  | ok bound =>
      have starts := same.start_eq_iff below isWord targetsBelow targetIsWord
      refine Agree.ite (or_congr_right starts) .none ?_
      have scopes := same.scope? paired
      have ofScope : ∀ scope, place.scope? = some scope →
          place.above ≠ [] ∧ scope.kind ∈ scopeKinds := fun scope => of_scope?
      generalize place.scope? = scope, otherPlace.scope? = otherScope at scopes ofScope ⊢
      cases scopes with
      | none => exact .none
      | @some scope otherScope areScopes =>
          obtain ⟨isAbove, isScope⟩ := ofScope scope rfl
          have scopesPaired := areScopes.mem_scopes isScope
          have alike : scope.encloses identifier = otherScope.encloses otherIdentifier :=
            same.encloses _ scopesPaired _ (below.mem_words isWord)
          show Option.Rel _ _ _
          rw [Option.filter_some, Option.filter_some, ← alike]
          cases encloses : scope.encloses identifier with
          | false => exact .none
          | true =>
              exact .some ⟨scopesPaired, encloses, paired, paired.below.resolve_left isAbove⟩

/-- What is smallest among candidates is smallest among those that stand for them. -/
theorem le_extents_iff {candidates otherCandidates : List (Node × Place)}
    (areCandidates :
      List.Forall₂ (first.CandidatesPaired second identifier) candidates otherCandidates)
    {candidate other : Node × Place}
    (paired : first.CandidatesPaired second identifier candidate other) :
    (∀ rival ∈ candidates, candidate.1.extent ≤ rival.1.extent) ↔
      ∀ rival ∈ otherCandidates, other.1.extent ≤ rival.1.extent := by
  induction areCandidates with
  | nil => simp
  | @cons rival otherRival _ _ areRivals _ inductionHypothesis =>
      rw [List.forall_mem_cons, List.forall_mem_cons, inductionHypothesis]
      apply and_congr_left'
      exact same.extents _ paired.scopes _ areRivals.scopes _ (below.mem_words isWord)
        paired.around areRivals.around

/-- Among related lists of places, the same place is the last one before the identifier, or else the
first one. -/
theorem rel_latest {places otherPlaces : List Place}
    (areRelated : List.Forall₂ (fun place other => first.PlacesPaired second place other ∧
      first.PairedBelow second place.node other.node) places otherPlaces) :
    Option.Rel (first.PlacesPaired second)
      (match (places.filter fun place => place.node.start < identifier.start).getLast? with
        | some latest => some latest
        | none => places.head?)
      (match (otherPlaces.filter fun place => place.node.start < otherIdentifier.start).getLast? with
        | some latest => some latest
        | none => otherPlaces.head?) := by
  have earlier := rel_getLast? (List.rel_filter
    (p := fun place : Place => decide (place.node.start < identifier.start))
    (q := fun place : Place => decide (place.node.start < otherIdentifier.start)) (by
      rintro place other ⟨-, placesBelow⟩
      simpa using same.starts _ placesBelow _ (below.mem_words isWord)) areRelated)
  have foremost := rel_head? areRelated
  revert earlier foremost
  generalize (places.filter fun place => decide (place.node.start < identifier.start)).getLast? =
    latest, places.head? = head
  generalize (otherPlaces.filter fun place =>
    decide (place.node.start < otherIdentifier.start)).getLast? = otherLatest,
    otherPlaces.head? = otherHead
  intro earlier foremost
  cases earlier with
  | some paired => exact .some paired.1
  | none =>
      cases foremost with
      | some paired => exact .some paired.1
      | none => exact .none

/-- The same declarations are chosen. -/
theorem rel_choose {candidates otherCandidates : List (Node × Place)}
    (areCandidates :
      List.Forall₂ (first.CandidatesPaired second identifier) candidates otherCandidates) :
    Option.Rel (first.PlacesPaired second) (choose identifier candidates)
      (choose otherIdentifier otherCandidates) := by
  unfold choose
  cases isSmallest : (candidates.map fun candidate => candidate.1.extent).min? with
  | none =>
      rw [List.min?_eq_none_iff, List.map_eq_nil_iff] at isSmallest
      subst isSmallest
      cases areCandidates
      exact .none
  | some smallest =>
      cases alsoSmallest : (otherCandidates.map fun candidate => candidate.1.extent).min? with
      | none =>
          rw [List.min?_eq_none_iff, List.map_eq_nil_iff] at alsoSmallest
          subst alsoSmallest
          cases areCandidates
          cases isSmallest
      | some otherSmallest =>
          dsimp only
          rw [filter_innermost_eq isSmallest, filter_innermost_eq alsoSmallest]
          apply rel_latest same below isWord
          apply List.rel_map (R := first.CandidatesPaired second identifier)
          · exact fun candidate other paired => ⟨paired.places, paired.below⟩
          · apply List.rel_filter _ areCandidates
            intro candidate other paired
            simp only [decide_eq_true_eq, le_smallest_iff isSmallest, le_smallest_iff alsoSmallest]
            exact le_extents_iff same below isWord areCandidates paired

/-- A name means the same declaration. -/
theorem agree_declarationOf (undisturbed : first.Undisturbed second) :
    Agree (Option.Rel (first.PlacesPaired second)) (first.declarationOf identifier)
      (second.declarationOf otherIdentifier) := by
  have spelled : first.text identifier = second.text otherIdentifier :=
    undisturbed.text_of_kind below.paired (List.elem_eq_true_of_mem isWord)
  have ofContent : ∀ (source : Source) (identifier : Node) (name : String),
      gather (source.visible? identifier name) source.root.places =
        gather (source.visible? identifier name) (contentPlaces [] source.root) := by
    intro source identifier name
    symm
    apply gather_filter
    intro place _ isComment
    have comment : place.node.kind = "comment" := by
      simpa [Node.isComment] using isComment
    have bindsNothing : place.bindingName? = none := by
      unfold Place.bindingName?
      rw [comment]
      rfl
    rw [Source.visible?, bindsNothing]
  unfold Source.declarationOf
  rw [spelled]
  cases second.text otherIdentifier with
  | error failure => trivial
  | ok name =>
      rw [ok_bind, ok_bind, ofContent, ofContent]
      apply (agree_gather same.places fun place otherPlace paired =>
        agree_visible? same below isWord undisturbed paired name).bind
      intro candidates otherCandidates areCandidates
      exact rel_choose same below isWord areCandidates

end Choice

/-! ## Annotations -/

/-- Two answers for the type of a node: both fail, or both know a type, up to its text, or none. -/
abbrev TypesAgree (answer other : Except Failure (Option TypeInfo)) : Prop :=
  Agree (Option.Rel TypeInfo.Alike) answer other

theorem typesAgree_same (answer : Option TypeInfo) : TypesAgree (.ok answer) (.ok answer) := by
  cases answer with
  | none => exact .none
  | some info => exact .some (.refl info)

theorem typesAgree_some {info otherInfo : TypeInfo} (alike : info.Alike otherInfo) :
    TypesAgree (.ok (some info)) (.ok (some otherInfo)) :=
  .some alike

section Annotations

variable (same : first.SameButComments second) (paired : first.Paired second node other)
include same paired

theorem agree_bindText {γ δ : Type} {further : γ → δ → Prop} {next : String → Except Failure γ}
    {otherNext : String → Except Failure δ}
    (nextAgree : ∀ text otherText, first.text node = .ok text → second.text other = .ok otherText →
      Agree further (next text) (otherNext otherText)) :
    Agree further (first.text node >>= next) (second.text other >>= otherNext) := by
  have texts := same.text paired
  cases read : first.text node with
  | error failure =>
      cases otherRead : second.text other with
      | error otherFailure => trivial
      | ok otherText => simp [read, otherRead, Agree] at texts
  | ok text =>
      cases otherRead : second.text other with
      | error otherFailure => simp [read, otherRead, Agree] at texts
      | ok otherText => exact nextAgree text otherText read otherRead

variable (undisturbed : first.Undisturbed second)
include undisturbed

theorem rel_firstNamed? (isFront : frontKinds.contains node.kind = true) :
    Option.Rel (first.PairedBelow second) node.firstNamed? other.firstNamed? := by
  have ofContent : ∀ node : Node, node.firstNamed?.any Node.isComment = false →
      node.firstNamed? = node.namedContent.head? := by
    intro node noComment
    unfold Node.firstNamed? Node.namedContent at *
    cases children : node.namedChildren with
    | nil => rfl
    | cons child rest =>
        have isContent : child.kind ≠ "comment" := by
          simpa [children, Node.isComment] using noComment
        simp [isContent]
  obtain ⟨noComment, noOtherComment⟩ := undisturbed.fronts _ paired isFront
  rw [ofContent node noComment, ofContent other noOtherComment]
  exact rel_head? (same.namedContent paired)

theorem rel_behindColon? (field : String) :
    Option.Rel (first.PairedBelow second) (Node.behindColon? (node.child? field))
      (Node.behindColon? (other.child? field)) := by
  rcases same.child?_cases paired field with
    ⟨absent, alsoAbsent⟩ | ⟨part, otherPart, found, otherFound, below, -⟩
  · rw [absent, alsoAbsent]
    exact .none
  · rw [found, otherFound]
    simp only [Node.behindColon?, Option.bind_some, same.kind below.paired]
    split
    next isColon =>
      apply rel_firstNamed? same below.paired undisturbed
      rw [same.kind below.paired, eq_of_beq isColon]
      decide
    next => exact .some below

theorem agree_operatorText :
    Agree Eq (first.operatorText node) (second.operatorText other) := by
  unfold Source.operatorText
  rw [undisturbed.text?_of_field same paired (.inl rfl)]
  cases second.text? (other.child? "operator") with
  | error failure => trivial
  | ok operator => rfl

theorem agree_literalType {text otherText : String} (read : first.text node = .ok text)
    (otherRead : second.text other = .ok otherText) :
    TypesAgree (first.literalType node text) (second.literalType other otherText) := by
  have alike : ∀ flag : TypeFlag, (TypeInfo.plain flag text).Alike (.plain flag otherText) :=
    fun flag => ⟨rfl, rfl, rfl⟩
  unfold Source.literalType
  rw [same.kind paired]
  refine Agree.ite_of Iff.rfl (fun isNumber => ?_) fun _ => ?_
  · have spelled : first.text node = second.text other := by
      apply undisturbed.text_of_kind paired
      rw [same.kind paired, eq_of_beq isNumber]
      decide
    obtain rfl := text_unique spelled read otherRead
    exact typesAgree_same _
  refine Agree.ite Iff.rfl (typesAgree_some (alike _)) ?_
  refine Agree.ite Iff.rfl (typesAgree_some (alike _)) ?_
  refine Agree.ite Iff.rfl (typesAgree_same _) ?_
  refine Agree.ite Iff.rfl (typesAgree_same _) ?_
  refine Agree.ite Iff.rfl ?_ (typesAgree_same _)
  apply (agree_operatorText same paired undisturbed).map
  rintro operator _ rfl
  exact typesAgree_same _

/-- The name of a type is read alike, whatever else its text holds. -/
theorem agree_annotationName {text otherText : String} (read : first.text node = .ok text)
    (otherRead : second.text other = .ok otherText)
    (isNamed : node.kind = "generic_type" ∨ node.kind ∈ wordKinds) :
    TypesAgree (first.annotationName node text) (second.annotationName other otherText) := by
  have alike : ∀ name, (namedType name text).Alike (namedType name otherText) := by
    intro name
    unfold namedType
    split
    · exact .refl _
    · cases TypeInfo.ofName? name with
      | some info => exact .refl info
      | none => exact ⟨rfl, rfl, rfl⟩
  have named : ∀ spelled : first.text node = second.text other,
      TypesAgree (.ok (some (namedType text text))) (.ok (some (namedType otherText otherText))) := by
    intro spelled
    obtain rfl := text_unique spelled read otherRead
    exact typesAgree_same _
  unfold Source.annotationName
  rw [same.kind paired]
  refine Agree.ite_of Iff.rfl (fun isGeneric => ?_) fun notGeneric => ?_
  · rw [undisturbed.text?_of_field same paired (.inr rfl)]
    rcases same.child?_cases paired "name" with
      ⟨absent, alsoAbsent⟩ | ⟨part, otherPart, found, otherFound, below, -⟩
    · rw [alsoAbsent]
      apply named
      apply undisturbed.text paired
      simp [Source.isRead, same.kind paired, eq_of_beq isGeneric, absent]
    · rw [otherFound, Source.text?]
      cases second.text otherPart with
      | error failure => trivial
      | ok name => exact typesAgree_some (alike name)
  · have isWord : node.kind ∈ wordKinds := by
      apply isNamed.resolve_left
      intro isKind
      exact notGeneric (beq_iff_eq.mpr ((same.kind paired).symm.trans isKind))
    exact named (undisturbed.text_of_kind paired (List.elem_eq_true_of_mem isWord))

theorem agree_bareAnnotation {text otherText : String} (read : first.text node = .ok text)
    (otherRead : second.text other = .ok otherText) :
    TypesAgree (first.bareAnnotation node text) (second.bareAnnotation other otherText) := by
  have alike : ∀ flag : TypeFlag, (TypeInfo.plain flag text).Alike (.plain flag otherText) :=
    fun flag => ⟨rfl, rfl, rfl⟩
  have kind := same.kind paired
  unfold Source.bareAnnotation
  rw [kind]
  refine Agree.ite_of Iff.rfl (fun isPredefined => ?_) fun _ => ?_
  · have spelled : first.text node = second.text other := by
      apply undisturbed.text_of_kind paired
      rw [kind, eq_of_beq isPredefined]
      decide
    obtain rfl := text_unique spelled read otherRead
    exact typesAgree_same _
  refine Agree.ite_of Iff.rfl (fun isLiteral => ?_) fun _ => ?_
  · have isFront : frontKinds.contains node.kind = true := by
      rw [kind, eq_of_beq isLiteral]
      decide
    have literals := rel_firstNamed? same paired undisturbed isFront
    generalize node.firstNamed? = literal, other.firstNamed? = otherLiteral at literals ⊢
    cases literals with
    | none => exact .none
    | some below =>
        apply agree_bindText same below.paired
        intro literalText otherLiteralText literalRead otherLiteralRead
        exact agree_literalType same below.paired undisturbed literalRead otherLiteralRead
  refine Agree.ite Iff.rfl (typesAgree_some ⟨rfl, rfl, rfl⟩) ?_
  refine Agree.ite Iff.rfl (typesAgree_some ⟨rfl, rfl, rfl⟩) ?_
  refine Agree.ite Iff.rfl (typesAgree_some (alike _)) ?_
  refine Agree.ite Iff.rfl (typesAgree_some (alike _)) ?_
  refine Agree.ite_of Iff.rfl (fun isNamed => ?_) fun _ => typesAgree_same none
  apply agree_annotationName same paired undisturbed read otherRead
  rw [kind]
  simp only [Bool.or_eq_true, beq_iff_eq] at isNamed
  rcases isNamed with (isKind | isKind) | isKind
  · exact .inr (by rw [isKind]; decide)
  · exact .inr (by rw [isKind]; decide)
  · exact .inl isKind

/-- An annotation writes the same type. -/
theorem agree_annotationType :
    TypesAgree (first.annotationType node) (second.annotationType other) := by
  induction node using Node.inductionOnChildren generalizing other with
  | step node inductionHypothesis =>
      rw [annotationType_eq, annotationType_eq]
      apply agree_bindText same paired
      intro text otherText read otherRead
      rw [same.kind paired]
      refine Agree.ite_of Iff.rfl (fun wraps => ?_) fun _ =>
        agree_bareAnnotation same paired undisturbed read otherRead
      have isFront : frontKinds.contains node.kind = true := by
        simp only [Bool.or_eq_true, beq_iff_eq] at wraps
        rcases wraps with isKind | isKind <;>
          · rw [same.kind paired, isKind]
            decide
      have inner := rel_firstNamed? same paired undisturbed isFront
      have isChild : ∀ child, node.firstNamed? = some child → child ∈ node.children :=
        fun child found => Node.mem_children_of_firstNamed? found
      generalize node.firstNamed? = found, other.firstNamed? = otherFound at inner isChild ⊢
      cases inner with
      | none => exact .none
      | some below => exact inductionHypothesis _ (isChild _ rfl) below.paired

theorem agree_annotationType? (field : String) :
    TypesAgree (first.annotationType? (Node.behindColon? (node.child? field)))
      (second.annotationType? (Node.behindColon? (other.child? field))) := by
  have annotations := rel_behindColon? same paired undisturbed field
  generalize Node.behindColon? (node.child? field) = annotation,
    Node.behindColon? (other.child? field) = otherAnnotation at annotations ⊢
  cases annotations with
  | none => exact .none
  | some below => exact agree_annotationType same below.paired undisturbed

end Annotations

end Source

end ImportBoundary
