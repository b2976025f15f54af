import ImportBoundary.Proofs.Typing.Answers

/-!
Contract: the order in which the types of a tree are looked up.

Owns which lookup waits for which other one: an expression for its parts, for the values of the names
in it and for annotations, and an annotation for the annotation within it or for the literal that it
holds. A literal within an annotation is looked up like an expression at depth zero, so the depth
alone does not tell that lookups end.

Main statements: `acc_askedBy`, by which no lookup in a tree waits for ever, and
`expressionType_congr`, by which no expression waits for another one than these.
-/

namespace ImportBoundary

/-- The nodes that a literal type can hold. -/
def literalKinds : List String :=
  ["number", "string", "true", "false", "null", "undefined", "unary_expression"]

/-- The expressions with a type that no other node has a part in. -/
def constantKinds : List String :=
  literalKinds ++ ["template_string", "regex"]

/-- The expressions that wait for other nodes. -/
def compoundKinds : List String :=
  wrapperKinds ++
    ["as_expression", "array", "binary_expression", "object", "identifier", "call_expression"]

theorem not_mem_compoundKinds {kind : String} (isConstant : kind ∈ constantKinds) :
    kind ∉ compoundKinds := by
  revert kind
  decide

/-- A lookup of a type: of an expression some steps down, or of the type that an annotation writes. -/
inductive Lookup where
  | expression (depth : Nat) (node : Node)
  | written (node : Node)

namespace Source

variable {source : Source}

/-- Whatever a literal type of the tree holds is a literal. -/
def HoldsLiterals (source : Source) : Prop :=
  ∀ annotation ∈ source.root.walk, annotation.kind = "literal_type" →
    ∀ literal, annotation.firstNamed? = some literal → literal.kind ∈ literalKinds

/-! ## What is asked for -/

/-- The expressions within an expression that its type is made of. -/
inductive PartOf (node part : Node) : Prop where
  | wrapped (isWrapper : wrapperKinds.contains node.kind = true)
      (isFirst : node.firstNamed? = some part)
  | asserted (isAssertion : node.kind = "as_expression") (isFirst : node.firstNamed? = some part)
  | element (isArray : node.kind = "array") (isFirst : node.namedContent.head? = some part)
  | operand {field : String} (isBinary : node.kind = "binary_expression")
      (isOperand : node.child? field = some part)
  | member {pair : Node} (isObject : node.kind = "object") (isNamed : pair ∈ node.namedChildren)
      (isPair : pair.kind = "pair") (isValue : pair.child? "value" = some part)

/-- The names whose declarations decide the type of an expression, with the steps that it takes to the
values of the names. A name that stands for itself in an object is a step below the object. -/
inductive NameOf (node : Node) : Node → Nat → Prop where
  | itself (isName : node.kind = "identifier") : NameOf node node 1
  | shorthand {name : Node} (isObject : node.kind = "object") (isNamed : name ∈ node.namedChildren)
      (isShorthand : name.kind = "shorthand_property_identifier") : NameOf node name 2

/-- The first lookup is one that the second one waits for. -/
inductive AskedBy (source : Source) : Lookup → Lookup → Prop where
  | part {depth : Nat} {node part : Node} (within : depth ≤ depthLimit) (isPart : PartOf node part) :
      AskedBy source (.expression (depth + 1) part) (.expression depth node)
  | value {depth steps : Nat} {node name value : Node} {place : Place} (within : depth ≤ depthLimit)
      (isNamed : NameOf node name steps) (resolved : source.declarationOf name = .ok (some place))
      (isValue : place.node.child? "value" = some value) :
      AskedBy source (.expression (depth + steps) value) (.expression depth node)
  | declared {depth steps : Nat} {node name annotation : Node} {place : Place}
      (within : depth ≤ depthLimit) (isNamed : NameOf node name steps)
      (resolved : source.declarationOf name = .ok (some place))
      (isAnnotated : Node.behindColon? (place.node.child? "type") = some annotation) :
      AskedBy source (.written annotation) (.expression depth node)
  | result {depth : Nat} {node function annotation : Node} {place : Place}
      (within : depth ≤ depthLimit) (isCall : node.kind = "call_expression")
      (isFunction : node.child? "function" = some function)
      (resolved : source.declarationOf function = .ok (some place))
      (isAnnotated : Node.behindColon? (place.node.child? "return_type") = some annotation) :
      AskedBy source (.written annotation) (.expression depth node)
  | asserted {depth : Nat} {node annotation : Node} (within : depth ≤ depthLimit)
      (isAssertion : node.kind = "as_expression") (isNamed : annotation ∈ node.namedChildren) :
      AskedBy source (.written annotation) (.expression depth node)
  | inner {node annotation : Node}
      (isWrapper : node.kind = "parenthesized_type" ∨ node.kind = "readonly_type")
      (isFirst : node.firstNamed? = some annotation) :
      AskedBy source (.written annotation) (.written node)
  | literal {node literal : Node} (isLiteralType : node.kind = "literal_type")
      (isFirst : node.firstNamed? = some literal) :
      AskedBy source (.expression 0 literal) (.written node)

namespace PartOf

variable {node part : Node}

theorem mem_compoundKinds (isPart : PartOf node part) : node.kind ∈ compoundKinds := by
  cases isPart with
  | wrapped isWrapper =>
      exact List.mem_append_left _ (List.contains_iff_mem.mp isWrapper)
  | asserted isAssertion => simp [compoundKinds, isAssertion]
  | element isArray => simp [compoundKinds, isArray]
  | operand isBinary => simp [compoundKinds, isBinary]
  | member isObject => simp [compoundKinds, isObject]

theorem mem_walk (isPart : PartOf node part) (inTree : node ∈ source.root.walk) :
    part ∈ source.root.walk := by
  have below : ∀ {inner : Node}, inner ∈ node.children → inner ∈ source.root.walk :=
    Node.mem_walk_of_mem_children inTree
  cases isPart with
  | wrapped _ isFirst => exact below (Node.mem_children_of_firstNamed? isFirst)
  | asserted _ isFirst => exact below (Node.mem_children_of_firstNamed? isFirst)
  | element _ isFirst =>
      exact below (Node.mem_children_of_namedContent (List.mem_of_head? isFirst))
  | operand _ isOperand => exact below (Node.mem_children_of_child? isOperand)
  | member _ isNamed _ isValue =>
      exact Node.mem_walk_of_mem_children (below (Node.mem_children_of_namedChildren isNamed))
        (Node.mem_children_of_child? isValue)

end PartOf

namespace NameOf

variable {node name : Node} {steps : Nat}

theorem mem_compoundKinds (isNamed : NameOf node name steps) : node.kind ∈ compoundKinds := by
  cases isNamed with
  | itself isName => simp [compoundKinds, isName]
  | shorthand isObject => simp [compoundKinds, isObject]

theorem steps_pos (isNamed : NameOf node name steps) : 0 < steps := by
  cases isNamed with
  | itself => exact Nat.one_pos
  | shorthand => exact Nat.two_pos

end NameOf

/-- Only compound expressions within the depth limit ask for anything. -/
theorem compound_of_askedBy {depth : Nat} {node : Node} {asked : Lookup}
    (isAsked : source.AskedBy asked (.expression depth node)) :
    depth ≤ depthLimit ∧ node.kind ∈ compoundKinds := by
  cases isAsked with
  | part within isPart => exact ⟨within, isPart.mem_compoundKinds⟩
  | value within isNamed => exact ⟨within, isNamed.mem_compoundKinds⟩
  | declared within isNamed => exact ⟨within, isNamed.mem_compoundKinds⟩
  | result within isCall => exact ⟨within, by simp [compoundKinds, isCall]⟩
  | asserted within isAssertion => exact ⟨within, by simp [compoundKinds, isAssertion]⟩

/-- A constant asks for nothing, at whatever depth. -/
theorem not_askedBy_of_constant {depth : Nat} {node : Node} {asked : Lookup}
    (isConstant : node.kind ∈ constantKinds) :
    ¬ source.AskedBy asked (.expression depth node) :=
  fun isAsked => not_mem_compoundKinds isConstant (compound_of_askedBy isAsked).2

/-! ## Every lookup ends -/

theorem acc_written (holds : source.HoldsLiterals) {node : Node}
    (inTree : node ∈ source.root.walk) : Acc source.AskedBy (.written node) := by
  induction node using Node.inductionOnChildren with
  | step node inductionHypothesis =>
      constructor
      intro asked isAsked
      cases isAsked with
      | inner _ isFirst =>
          have isChild := Node.mem_children_of_firstNamed? isFirst
          exact inductionHypothesis _ isChild (Node.mem_walk_of_mem_children inTree isChild)
      | literal isLiteralType isFirst =>
          -- The depth starts again at zero, but a literal asks for nothing.
          have isLiteral := holds node inTree isLiteralType _ isFirst
          exact ⟨_, fun asked isAsked =>
            absurd isAsked (not_askedBy_of_constant (List.mem_append_left _ isLiteral))⟩

/-- In a tree whose literal types hold literals, every lookup comes to an end. Whatever the names of
the tree refer to, an expression asks only for deeper ones, and not beyond the depth limit. -/
theorem acc_askedBy (holds : source.HoldsLiterals) {depth : Nat} {node : Node}
    (inTree : node ∈ source.root.walk) : Acc source.AskedBy (.expression depth node) := by
  induction remaining : depthLimit + 1 - depth using Nat.strongRecOn generalizing depth node with
  | ind budget inductionHypothesis =>
      constructor
      intro asked isAsked
      have within := (compound_of_askedBy isAsked).1
      cases isAsked with
      | part _ isPart =>
          exact inductionHypothesis _ (by omega) (isPart.mem_walk inTree) rfl
      | value _ isNamed resolved isValue =>
          have deeper := isNamed.steps_pos
          exact inductionHypothesis _ (by omega)
            (Node.mem_walk_of_mem_children (mem_walk_of_declarationOf resolved)
              (Node.mem_children_of_child? isValue)) rfl
      | declared _ _ resolved isAnnotated =>
          exact acc_written holds
            (mem_walk_of_behindColon? (mem_walk_of_declarationOf resolved) isAnnotated)
      | result _ _ _ resolved isAnnotated =>
          exact acc_written holds
            (mem_walk_of_behindColon? (mem_walk_of_declarationOf resolved) isAnnotated)
      | asserted _ _ isNamed =>
          exact acc_written holds
            (Node.mem_walk_of_mem_children inTree (Node.mem_children_of_namedChildren isNamed))

/-! ## Nothing else is asked for -/

section Congruence

variable {infer other inferDeeper otherDeeper : Inference} {node : Node}

theorem identifierType_congr
    (sameValues : ∀ place value, source.declarationOf node = .ok (some place) →
      place.node.child? "value" = some value → infer value = other value) :
    source.identifierType infer node = source.identifierType other node := by
  unfold identifierType
  cases resolved : source.declarationOf node with
  | error failure => rfl
  | ok answer =>
      cases answer with
      | none => rfl
      | some place =>
          refine ite_congr rfl (fun _ => rfl) fun _ => ite_congr rfl (fun _ => rfl) fun _ => ?_
          cases Node.behindColon? (place.node.child? "type") with
          | some annotation => rfl
          | none =>
              refine ite_congr rfl (fun _ => ?_) fun _ => rfl
              cases isValue : place.node.child? "value" with
              | none => rfl
              | some value =>
                  dsimp only
                  rw [sameValues place value resolved isValue]

theorem memberText_congr
    (sameValue : ∀ value, node.kind = "pair" → node.child? "value" = some value →
      infer value = other value)
    (sameName : node.kind = "shorthand_property_identifier" →
      inferDeeper node = otherDeeper node) :
    source.memberText infer inferDeeper node = source.memberText other otherDeeper node := by
  unfold memberText
  refine ite_congr rfl (fun isPair => ?_) fun _ => ite_congr rfl (fun isName => ?_) fun _ => rfl
  · cases isValue : node.child? "value" with
    | none => rfl
    | some value =>
        dsimp only
        rw [sameValue value (beq_iff_eq.mp isPair) isValue]
  · rw [sameName (beq_iff_eq.mp isName)]

theorem arrayType_congr
    (sameFirst : ∀ first, node.namedContent.head? = some first → infer first = other first) :
    arrayType infer node = arrayType other node := by
  unfold arrayType
  cases content : node.namedContent with
  | nil => rfl
  | cons first rest =>
      dsimp only
      rw [sameFirst first (by rw [content, List.head?_cons])]

theorem answerAt_congr {part : Option Node}
    (same : ∀ present, part = some present → infer present = other present) :
    answerAt infer part = answerAt other part := by
  cases part with
  | none => rfl
  | some present => exact same present rfl

theorem assertedType_congr
    (sameFirst : ∀ first, node.firstNamed? = some first → infer first = other first) :
    source.assertedType infer node = source.assertedType other node := by
  unfold assertedType
  split
  · rfl
  · rename_i value rest _ children
    exact sameFirst value (by rw [Node.firstNamed?, children, List.head?_cons])
  · rfl

/-- The type of an expression is made of the answers to the lookups that it asks for. -/
theorem expressionType_congr {depth : Nat} (within : depth ≤ depthLimit)
    (same : ∀ part, source.AskedBy (.expression (depth + 1) part) (.expression depth node) →
      infer part = other part)
    (sameDeeper : ∀ value, source.AskedBy (.expression (depth + 2) value) (.expression depth node) →
      inferDeeper value = otherDeeper value) (text : String) :
    source.expressionType infer inferDeeper node text =
      source.expressionType other otherDeeper node text := by
  have sameParts : ∀ part, PartOf node part → infer part = other part :=
    fun part isPart => same part (.part within isPart)
  have ofObject : node.kind = "object" →
      source.objectType infer (source.identifierType inferDeeper) node =
        source.objectType other (source.identifierType otherDeeper) node := by
    intro isObject
    unfold objectType
    rw [gather_congr fun child isNamed => memberText_congr
      (fun value isPair isValue => sameParts value (.member isObject isNamed isPair isValue))
      fun isShorthand => identifierType_congr fun place value resolved isValue =>
        sameDeeper value (.value within (.shorthand isObject isNamed isShorthand) resolved isValue)]
  have ofBinary : node.kind = "binary_expression" →
      source.binaryType infer node = source.binaryType other node := by
    intro isBinary
    rw [binaryType_eq, binaryType_eq,
      answerAt_congr fun part isOperand => sameParts part (.operand isBinary isOperand),
      answerAt_congr fun part isOperand => sameParts part (.operand isBinary isOperand)]
  unfold expressionType
  iterate 6 refine ite_congr rfl (fun _ => rfl) fun _ => ?_
  refine ite_congr rfl (fun isObject => ?_) fun _ => ?_
  · rw [ofObject (beq_iff_eq.mp isObject)]
  refine ite_congr rfl (fun isArray => ?_) fun _ => ?_
  · rw [arrayType_congr fun first isFirst =>
      sameParts first (.element (beq_iff_eq.mp isArray) isFirst)]
  iterate 2 refine ite_congr rfl (fun _ => rfl) fun _ => ?_
  refine ite_congr rfl (fun isWrapper => ?_) fun _ => ?_
  · cases isFirst : node.firstNamed? with
    | none => rfl
    | some inner => exact sameParts inner (.wrapped isWrapper isFirst)
  refine ite_congr rfl (fun isAssertion => ?_) fun _ => ?_
  · exact assertedType_congr fun first isFirst =>
      sameParts first (.asserted (beq_iff_eq.mp isAssertion) isFirst)
  refine ite_congr rfl (fun isBinary => ofBinary (beq_iff_eq.mp isBinary)) fun _ => ?_
  refine ite_congr rfl (fun isName => ?_) fun _ => rfl
  exact identifierType_congr fun place value resolved isValue =>
    same value (.value within (.itself (beq_iff_eq.mp isName)) resolved isValue)

end Congruence

/-! ## Literals -/

section Literals

variable {node : Node}

/-- A literal expression: one whose type no other node has a part in, or the name `undefined`, which
stands for the literal whatever else may declare it. -/
def IsConstant (source : Source) (node : Node) : Prop :=
  node.kind ∈ constantKinds ∨ (node.kind = "identifier" ∧ source.text node = .ok "undefined")

theorem expressionType_of_undefined {infer inferDeeper : Inference}
    (isName : node.kind = "identifier") :
    source.expressionType infer inferDeeper node "undefined" =
      .ok (TypeInfo.ofName? "undefined") := by
  simp [expressionType, isName]

/-- A literal expression has the same type within every budget. -/
theorem inferWithin_of_constant (isConstant : source.IsConstant node) (budget : Nat) :
    source.inferWithin (budget + 1) node = source.typeAt node := by
  rw [typeAt, inferWithin_succ, inferWithin_succ]
  rcases isConstant with isConstant | ⟨isName, isUndefined⟩
  · congr 1
    funext text
    exact expressionType_congr (Nat.zero_le depthLimit)
      (fun _ isAsked => absurd isAsked (not_askedBy_of_constant isConstant))
      (fun _ isAsked => absurd isAsked (not_askedBy_of_constant isConstant)) text
  · rw [isUndefined, ok_bind, ok_bind, expressionType_of_undefined isName,
      expressionType_of_undefined isName]

theorem expressionType_of_literal {infer inferDeeper : Inference}
    (isLiteral : node.kind ∈ literalKinds) (text : String) :
    source.expressionType infer inferDeeper node text = source.literalType node text := by
  simp only [literalKinds, List.mem_cons, List.not_mem_nil, or_false] at isLiteral
  unfold expressionType
  rcases isLiteral with isKind | isKind | isKind | isKind | isKind | isKind | isKind <;>
    simp [isKind, elementKinds, functionExpressionKinds, wrapperKinds]

/-- A literal in an annotation has the type that it has as an expression, at full depth again. -/
theorem annotationType_of_literal {literal : Node} (isLiteralType : node.kind = "literal_type")
    (isFirst : node.firstNamed? = some literal) (isLiteral : literal.kind ∈ literalKinds) :
    source.annotationType node = (source.text node >>= fun _ => source.typeAt literal) := by
  have ofLiteral : source.typeAt literal = (source.text literal >>= source.literalType literal) := by
    rw [typeAt, inferWithin_succ]
    congr 1
    funext text
    exact expressionType_of_literal isLiteral text
  rw [annotationType_eq, ofLiteral]
  congr 1
  funext text
  simp [isLiteralType, bareAnnotation, isFirst]

/-- Every literal expression but one with an operator has a known type. -/
theorem known_of_constant {known : Option TypeInfo} (isConstant : source.IsConstant node)
    (noOperator : node.kind ≠ "unary_expression") (answered : source.typeAt node = .ok known) :
    known ≠ none := by
  rw [typeAt, inferWithin_succ] at answered
  obtain ⟨text, read, found⟩ := bind_eq_ok_iff.mp answered
  rintro rfl
  rcases isConstant with isConstant | ⟨isName, isUndefined⟩
  · rcases List.mem_append.mp isConstant with isLiteral | isFurther
    · rw [expressionType_of_literal isLiteral] at found
      simp only [literalKinds, List.mem_cons, List.not_mem_nil, or_false] at isLiteral
      rcases isLiteral with isKind | isKind | isKind | isKind | isKind | isKind | isKind
      all_goals first
        | exact noOperator isKind
        | simp [literalType, isKind, TypeInfo.ofName?, TypeInfo.predefined] at found
    · simp only [List.mem_cons, List.not_mem_nil, or_false] at isFurther
      rcases isFurther with isKind | isKind <;>
        simp [expressionType, isKind, TypeInfo.ofName?, TypeInfo.predefined] at found
  · obtain rfl : "undefined" = text := Except.ok.inj (isUndefined.symm.trans read)
    rw [expressionType_of_undefined isName] at found
    simp [TypeInfo.ofName?, TypeInfo.predefined] at found

end Literals

end Source

end ImportBoundary
