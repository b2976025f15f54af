import ImportBoundary.Proofs.Syntax.Places
import ImportBoundary.Proofs.Typing.Resolution
import ImportBoundary.Typing.Inference

/-!
Contract: what the inference of a type can answer, and how it can fail.

Owns the three forms of types that are ever answered, and for each step of the inference that it
answers such a type or nothing, unless a node of the tree has no text.

Main statements: `yields_expressionType`, in which the inference of the parts is a parameter, and
`infers_inferWithin`, which follows from it by induction on the budget.
-/

namespace ImportBoundary

/-! ## Forms of types -/

namespace TypeInfo

/-- A type of one sort without a symbol, an object type with one, or a type that can be called. -/
inductive Proper : TypeInfo → Prop where
  | plain (flag : TypeFlag) (display : String) : Proper (.plain flag display)
  | object (display symbol : String) : Proper (.object display symbol)
  | callable (display : String) : Proper (.callable display)

/-- An answer that is no type of another form. It may be nothing. -/
def ProperAnswer (answer : Option TypeInfo) : Prop :=
  ∀ info, answer = some info → info.Proper

theorem properAnswer_none : ProperAnswer none :=
  fun _ impossible => nomatch impossible

theorem Proper.answer {info : TypeInfo} (proper : info.Proper) : ProperAnswer (some info) := by
  intro other same
  cases same
  exact proper

theorem properAnswer_ofName? (name : String) : ProperAnswer (ofName? name) := by
  intro info known
  obtain ⟨flag, _, rfl⟩ := Option.map_eq_some_iff.mp known
  exact .plain flag name

theorem Proper.widen {info : TypeInfo} (proper : info.Proper) : info.widen.Proper := by
  unfold TypeInfo.widen
  split_ifs
  · exact .plain .string "string"
  · exact .plain .number "number"
  · exact .plain .boolean "boolean"
  · exact .plain .bigint "bigint"
  · exact proper

theorem ProperAnswer.widen {answer : Option TypeInfo} (proper : ProperAnswer answer) :
    ProperAnswer (answer.map TypeInfo.widen) := by
  intro info widened
  obtain ⟨narrow, known, rfl⟩ := Option.map_eq_some_iff.mp widened
  exact (proper narrow known).widen

end TypeInfo

open TypeInfo

theorem properAnswer_unaryType (operator : String) : ProperAnswer (unaryType operator) := by
  unfold unaryType
  split_ifs
  · exact properAnswer_ofName? "boolean"
  · exact properAnswer_ofName? "string"
  · exact properAnswer_ofName? "number"
  · exact properAnswer_ofName? "undefined"
  · exact properAnswer_none

theorem proper_namedType (name text : String) : (namedType name text).Proper := by
  unfold namedType
  split_ifs
  · exact .object "JSX.Element" "JSXElement"
  · cases known : ofName? name with
    | none => exact .object text (lastSegment name)
    | some info => exact properAnswer_ofName? name info known

theorem Source.properAnswer_sumType (left right : Option TypeInfo) :
    ProperAnswer (Source.sumType left right) := by
  unfold Source.sumType
  dsimp only
  split_ifs
  · exact properAnswer_ofName? "string"
  · exact properAnswer_ofName? "number"
  · exact properAnswer_none

namespace Source

/-! ## Answers that fail at a text only -/

section Yields

variable {α β : Type}

/-- An answer has a property. Where there is none, a node of the tree has no text, and this is the
failure. -/
def Yields (source : Source) (property : α → Prop) : Except Failure α → Prop
  | .ok value => property value
  | .error failure => ∃ node ∈ source.root.walk, source.text node = .error failure

variable {source : Source} {property : α → Prop} {other : β → Prop} {answer : Except Failure α}

theorem Yields.bind {next : α → Except Failure β} (first : source.Yields property answer)
    (second : ∀ value, property value → source.Yields other (next value)) :
    source.Yields other (answer >>= next) := by
  cases answer with
  | ok value => exact second value first
  | error failure => exact first

theorem Yields.map {change : α → β} (first : source.Yields property answer)
    (second : ∀ value, property value → other (change value)) :
    source.Yields other (answer.map change) := by
  cases answer with
  | ok value => exact second value first
  | error failure => exact first

theorem Yields.ite {condition : Prop} [Decidable condition] {otherwise : Except Failure α}
    (first : source.Yields property answer) (second : source.Yields property otherwise) :
    source.Yields property (if condition then answer else otherwise) := by
  split
  · exact first
  · exact second

theorem Yields.imp {further : α → Prop} (yields : source.Yields property answer)
    (weakens : ∀ value, property value → further value) : source.Yields further answer := by
  cases answer with
  | ok value => exact weakens value yields
  | error failure => exact yields

/-- An answer has whatever property its value has. -/
theorem Yields.of_ok (yields : source.Yields property answer) {further : α → Prop}
    (holds : ∀ value, answer = .ok value → further value) : source.Yields further answer := by
  cases answer with
  | ok value => exact holds value rfl
  | error failure => exact yields

theorem yields_text {node : Node} (inTree : node ∈ source.root.walk) :
    source.Yields (fun _ => True) (source.text node) := by
  cases read : source.text node with
  | ok text => trivial
  | error failure => exact ⟨node, inTree, read⟩

theorem yields_gather {rule : β → Except Failure (Option α)} {items : List β}
    (answers : ∀ item ∈ items, source.Yields (fun _ => True) (rule item)) :
    source.Yields (fun _ => True) (gather rule items) := by
  induction items with
  | nil => trivial
  | cons head tail inductionHypothesis =>
      apply (answers head List.mem_cons_self).bind
      intro found _
      apply Yields.bind (inductionHypothesis fun item member =>
        answers item (List.mem_cons_of_mem head member))
      intro rest _
      trivial

end Yields

/-! ## Parts of a node -/

section Parts

variable {source : Source} {node : Node}

theorem yields_text? {field : String} (inTree : node ∈ source.root.walk) :
    source.Yields (fun _ => True) (source.text? (node.child? field)) := by
  cases isPart : node.child? field with
  | none => trivial
  | some part => exact (yields_text (Node.mem_walk_of_mem_children inTree
      (Node.mem_children_of_child? isPart))).map fun _ _ => trivial

theorem yields_operatorText (inTree : node ∈ source.root.walk) :
    source.Yields (fun _ => True) (source.operatorText node) := by
  apply (yields_text? inTree).bind
  intro operator _
  trivial

theorem yields_memberParts (inTree : node ∈ source.root.walk) :
    source.Yields (fun _ => True) (source.memberParts node) := by
  have readable : ∀ child ∈ node.namedContent,
      source.Yields (fun _ => True) (source.text child) := by
    intro child isContent
    exact yields_text
      (Node.mem_walk_of_mem_children inTree (Node.mem_children_of_namedContent isContent))
  unfold memberParts
  split
  · split
    · rename_i object member content
      split
      · apply (readable object (by simp [content])).bind
        intro objectName _
        apply (readable member (by simp [content])).bind
        intro memberName _
        trivial
      · trivial
    · trivial
  · trivial

end Parts

/-! ## Declarations -/

section Declarations

variable {source : Source} {node : Node}

theorem mem_walk_of_behindColon? {field : String} { annotation : Node}
    (inTree : node ∈ source.root.walk)
    (found : Node.behindColon? (node.child? field) = some annotation) :
    annotation ∈ source.root.walk := by
  obtain ⟨part, isPart, behind⟩ := Option.bind_eq_some_iff.mp found
  have partInTree := Node.mem_walk_of_mem_children inTree (Node.mem_children_of_child? isPart)
  split at behind
  · exact Node.mem_walk_of_mem_children partInTree (Node.mem_children_of_firstNamed? behind)
  · cases behind
    exact partInTree

theorem mem_walk_of_declarationOf {place : Place}
    (answered : source.declarationOf node = .ok (some place)) : place.node ∈ source.root.walk :=
  Node.mem_walk_of_mem_places (visible_of_declarationOf answered).1

/-- A name is resolved to a place of the tree. -/
theorem yields_declarationOf (inTree : node ∈ source.root.walk) :
    source.Yields (fun answer => ∀ place, answer = some place → place.node ∈ source.root.walk)
      (source.declarationOf node) := by
  have readable : ∀ name, ∀ place ∈ source.root.places,
      source.Yields (fun _ => True) (source.visible? node name place) := by
    intro name place member
    unfold visible?
    split
    · trivial
    · rename_i target binds
      have inPlace := (Place.bindingName?_eq_some_iff.mp binds).mem_children
      apply (yields_text (Node.mem_walk_of_mem_children
        (Node.mem_walk_of_mem_places member) inPlace)).bind
      intro bound _
      split
      · trivial
      · trivial
  have answers : source.Yields (fun _ => True) (source.declarationOf node) := by
    apply (yields_text inTree).bind
    intro name _
    apply (yields_gather (readable name)).bind
    intro candidates _
    trivial
  refine answers.of_ok fun answer answered => ?_
  rintro place rfl
  exact mem_walk_of_declarationOf answered

end Declarations

/-! ## Annotations and literals -/

section Annotations

variable {source : Source} {node : Node}

theorem yields_literalType (inTree : node ∈ source.root.walk) (text : String) :
    source.Yields ProperAnswer (source.literalType node text) := by
  unfold literalType
  refine Yields.ite (Proper.plain _ text).answer ?_
  refine Yields.ite (Proper.plain .stringLiteral text).answer ?_
  refine Yields.ite (Proper.plain .booleanLiteral text).answer ?_
  refine Yields.ite (properAnswer_ofName? "null") ?_
  refine Yields.ite (properAnswer_ofName? "undefined") ?_
  apply Yields.ite
  · exact (yields_operatorText inTree).map fun operator _ => properAnswer_unaryType operator
  · exact properAnswer_none

theorem yields_annotationName (inTree : node ∈ source.root.walk) (text : String) :
    source.Yields ProperAnswer (source.annotationName node text) := by
  unfold annotationName
  dsimp only
  split
  · apply (yields_text? inTree).bind
    intro name _
    exact (proper_namedType (name.getD text) text).answer
  · exact (proper_namedType text text).answer

theorem yields_bareAnnotation (inTree : node ∈ source.root.walk) (text : String) :
    source.Yields ProperAnswer (source.bareAnnotation node text) := by
  unfold bareAnnotation
  refine Yields.ite (properAnswer_ofName? text) ?_
  apply Yields.ite
  · split
    · exact properAnswer_none
    · rename_i literal isFirst
      have literalInTree :=
        Node.mem_walk_of_mem_children inTree (Node.mem_children_of_firstNamed? isFirst)
      exact (yields_text literalInTree).bind fun literalText _ =>
        yields_literalType literalInTree literalText
  refine Yields.ite (Proper.object text "Array").answer ?_
  refine Yields.ite (Proper.callable text).answer ?_
  refine Yields.ite (Proper.plain .object text).answer ?_
  refine Yields.ite (Proper.plain .union text).answer ?_
  refine Yields.ite (yields_annotationName inTree text) ?_
  exact properAnswer_none

private theorem annotationOfFirst_eq (children : List Node) :
    source.annotationOfFirst children =
      source.annotationType? (children.filter (·.named)).head? := by
  induction children with
  | nil => rfl
  | cons child rest inductionHypothesis =>
      rw [annotationOfFirst, List.filter_cons]
      split
      · rfl
      · exact inductionHypothesis

/-- Wrappers are passed through to their first named child. -/
theorem annotationType_eq (node : Node) :
    source.annotationType node = (do
      let text ← source.text node
      if node.kind == "parenthesized_type" || node.kind == "readonly_type" then
        source.annotationType? node.firstNamed?
      else source.bareAnnotation node text) := by
  cases node
  rw [annotationType]
  simp only [annotationOfFirst_eq]
  rfl

theorem yields_annotationType (inTree : node ∈ source.root.walk) :
    source.Yields ProperAnswer (source.annotationType node) := by
  induction node using Node.inductionOnChildren with
  | step node inductionHypothesis =>
      rw [annotationType_eq]
      apply (yields_text inTree).bind
      intro text _
      split
      · cases isFirst : node.firstNamed? with
        | none => exact properAnswer_none
        | some inner =>
            have isChild := Node.mem_children_of_firstNamed? isFirst
            exact inductionHypothesis inner isChild (Node.mem_walk_of_mem_children inTree isChild)
      · exact yields_bareAnnotation inTree text

/-- The annotation behind the colon of a part, if there is one. -/
theorem yields_annotationType? {field : String} (inTree : node ∈ source.root.walk) :
    source.Yields ProperAnswer
      (source.annotationType? (Node.behindColon? (node.child? field))) := by
  cases isAnnotated : Node.behindColon? (node.child? field) with
  | none => exact properAnswer_none
  | some annotation => exact yields_annotationType (mem_walk_of_behindColon? inTree isAnnotated)

end Annotations

/-! ## Expressions that need no other -/

section Leaves

variable {source : Source} {node : Node}

theorem yields_functionType (inTree : node ∈ source.root.walk) :
    source.Yields Proper (source.functionType node) := by
  have readable : ∀ {field : String} {part : Node}, node.child? field = some part →
      source.Yields (fun _ => True) (source.text part) := fun isPart =>
    yields_text (Node.mem_walk_of_mem_children inTree (Node.mem_children_of_child? isPart))
  unfold functionType
  extract_lets rest
  have result : ∀ parameters : String, source.Yields Proper (rest parameters) := by
    intro parameters
    dsimp only [rest]
    split
    · rename_i annotation isAnnotated
      apply (yields_text (mem_walk_of_behindColon? inTree isAnnotated)).bind
      intro written _
      exact .callable _
    · split
      · exact .callable _
      · exact .callable _
  split
  · rename_i list isList
    exact (readable isList).bind fun parameters _ => result parameters
  · split
    · rename_i single isSingle
      exact (readable isSingle).bind fun name _ => result ("(" ++ name ++ ")")
    · exact result "()"

theorem yields_classType (inTree : node ∈ source.root.walk) :
    source.Yields Proper (source.classType node) := by
  apply (yields_text? inTree).bind
  intro name _
  exact .object _ _

theorem yields_constructedType (inTree : node ∈ source.root.walk) :
    source.Yields ProperAnswer (source.constructedType node) := by
  have arguments : ∀ name : String, source.Yields ProperAnswer (do
      let arguments ← source.text? (node.child? "type_arguments")
      .ok (some (TypeInfo.object (name ++ arguments.getD "") name))) := by
    intro name
    apply (yields_text? inTree).bind
    intro written _
    exact (Proper.object _ name).answer
  unfold constructedType
  split
  · exact properAnswer_none
  · rename_i constructorNode isConstructor
    have constructorInTree :=
      Node.mem_walk_of_mem_children inTree (Node.mem_children_of_child? isConstructor)
    apply (yields_memberParts constructorInTree).bind
    intro parts _
    dsimp only
    split
    · rename_i member
      exact arguments member
    · exact (yields_text constructorInTree).bind fun name _ => arguments name

theorem yields_callType (inTree : node ∈ source.root.walk) :
    source.Yields ProperAnswer (source.callType node) := by
  unfold callType
  split
  · exact properAnswer_none
  rename_i function isFunction
  have functionInTree :=
    Node.mem_walk_of_mem_children inTree (Node.mem_children_of_child? isFunction)
  apply (yields_text functionInTree).bind
  intro callee _
  refine Yields.ite (properAnswer_ofName? "symbol") ?_
  split
  · rename_i primitive _
    exact properAnswer_ofName? primitive
  refine Yields.ite (Proper.object "Promise<any>" "Promise").answer ?_
  refine Yields.ite properAnswer_none ?_
  apply (yields_declarationOf functionInTree).bind
  intro answer inPlaces
  cases answer with
  | none => exact properAnswer_none
  | some place =>
      apply Yields.ite
      · exact yields_annotationType? (inPlaces place rfl)
      · exact properAnswer_none

end Leaves

/-! ## Expressions by their parts -/

section Parts

variable {source : Source} {infer inferDeeper : Inference} {node : Node}

/-- The inference of other nodes answers as it should. -/
def Infers (source : Source) (infer : Inference) : Prop :=
  ∀ node ∈ source.root.walk, source.Yields ProperAnswer (infer node)

theorem Infers.part (infers : source.Infers infer) (inTree : node ∈ source.root.walk)
    {part : Node} (isPart : part ∈ node.children) : source.Yields ProperAnswer (infer part) :=
  infers part (Node.mem_walk_of_mem_children inTree isPart)

theorem yields_identifierType (infers : source.Infers infer) (inTree : node ∈ source.root.walk) :
    source.Yields ProperAnswer (source.identifierType infer node) := by
  apply (yields_declarationOf inTree).bind
  intro answer inPlaces
  cases answer with
  | none => exact properAnswer_none
  | some place =>
      have placeInTree := inPlaces place rfl
      apply Yields.ite
      · exact (yields_functionType placeInTree).map fun _ proper => proper.answer
      apply Yields.ite
      · exact (yields_text inTree).bind fun name _ => (Proper.object _ name).answer
      split
      · rename_i annotation isAnnotated
        exact yields_annotationType (mem_walk_of_behindColon? placeInTree isAnnotated)
      apply Yields.ite
      · split
        · exact properAnswer_none
        · rename_i value isValue
          apply (infers.part placeInTree (Node.mem_children_of_child? isValue)).bind
          intro inferred proper
          show ProperAnswer (if place.isMutable then inferred.map TypeInfo.widen else inferred)
          split
          · exact proper.widen
          · exact proper
      · exact properAnswer_none

theorem yields_memberText (infers : source.Infers infer) (alsoInfers : source.Infers inferDeeper)
    (inTree : node ∈ source.root.walk) :
    source.Yields (fun _ => True) (source.memberText infer inferDeeper node) := by
  have key : ∀ valueType : Option TypeInfo, source.Yields (fun _ => True) (do
      let key ← source.text? (node.child? "key")
      .ok (some (key.getD "?" ++ ": " ++ displayOrAny valueType ++ ";"))) := fun _ =>
    (yields_text? inTree).bind fun _ _ => trivial
  unfold memberText
  split_ifs
  · dsimp only
    split
    · rename_i value isValue
      exact (infers.part inTree (Node.mem_children_of_child? isValue)).bind
        fun valueType _ => key valueType
    · exact key none
  · apply (alsoInfers node inTree).bind
    intro valueType _
    exact (yields_text inTree).bind fun _ _ => trivial
  · exact (yields_text? inTree).bind fun _ _ => trivial
  · trivial

theorem yields_objectType (infers : source.Infers infer) (alsoInfers : source.Infers inferDeeper)
    (inTree : node ∈ source.root.walk) :
    source.Yields (fun info => ∃ display, info = .plain .object display)
      (source.objectType infer inferDeeper node) := by
  have members : ∀ child ∈ node.namedChildren,
      source.Yields (fun _ => True) (source.memberText infer inferDeeper child) :=
    fun child isNamed => yields_memberText infers alsoInfers
      (Node.mem_walk_of_mem_children inTree (Node.mem_children_of_namedChildren isNamed))
  apply (yields_gather members).bind
  intro texts _
  exact ⟨_, rfl⟩

theorem yields_arrayType (infers : source.Infers infer) (inTree : node ∈ source.root.walk) :
    source.Yields (fun info => ∃ display, info = .object display "Array")
      (arrayType infer node) := by
  unfold arrayType
  split
  · exact ⟨_, rfl⟩
  · rename_i first rest content
    have isContent : first ∈ node.namedContent := by
      rw [content]
      exact List.mem_cons_self
    apply (infers.part inTree (Node.mem_children_of_namedContent isContent)).bind
    intro element _
    exact ⟨_, rfl⟩

/-- The answer for a part that may be missing. -/
def answerAt (infer : Inference) (part : Option Node) : Except Failure (Option TypeInfo) :=
  match part with
  | none => .ok none
  | some node => infer node

/-- Only the operands of a sum are asked for their types. -/
theorem binaryType_eq (infer : Inference) (node : Node) :
    source.binaryType infer node = (do
      let operator ← source.operatorText node
      if comparisonOperators.contains operator then .ok (TypeInfo.ofName? "boolean")
      else if arithmeticOperators.contains operator then .ok (TypeInfo.ofName? "number")
      else if operator ≠ "+" then .ok none
      else
        let left ← answerAt infer (node.child? "left")
        let right ← answerAt infer (node.child? "right")
        .ok (sumType left right)) := by
  unfold binaryType
  cases node.child? "left" <;> cases node.child? "right" <;> rfl

theorem Infers.answerAt (infers : source.Infers infer) (inTree : node ∈ source.root.walk)
    (field : String) : source.Yields ProperAnswer (answerAt infer (node.child? field)) := by
  cases isPart : node.child? field with
  | none => exact properAnswer_none
  | some part => exact infers.part inTree (Node.mem_children_of_child? isPart)

theorem yields_binaryType (infers : source.Infers infer) (inTree : node ∈ source.root.walk) :
    source.Yields ProperAnswer (source.binaryType infer node) := by
  rw [binaryType_eq]
  apply (yields_operatorText inTree).bind
  intro operator _
  refine Yields.ite (properAnswer_ofName? "boolean") ?_
  refine Yields.ite (properAnswer_ofName? "number") ?_
  refine Yields.ite properAnswer_none ?_
  apply (infers.answerAt inTree "left").bind
  intro left _
  apply (infers.answerAt inTree "right").bind
  intro right _
  exact properAnswer_sumType left right

theorem yields_assertedType (infers : source.Infers infer) (inTree : node ∈ source.root.walk) :
    source.Yields ProperAnswer (source.assertedType infer node) := by
  have named : ∀ child ∈ node.namedChildren, child ∈ source.root.walk := fun child isNamed =>
    Node.mem_walk_of_mem_children inTree (Node.mem_children_of_namedChildren isNamed)
  unfold assertedType
  split
  · rename_i value annotation children
    exact yields_annotationType (named annotation (by simp [children]))
  · rename_i value rest _ children
    exact infers value (named value (by simp [children]))
  · exact properAnswer_none

theorem yields_expressionType (infers : source.Infers infer)
    (alsoInfers : source.Infers inferDeeper) (inTree : node ∈ source.root.walk) (text : String) :
    source.Yields ProperAnswer (source.expressionType infer inferDeeper node text) := by
  have answered : ∀ {found : Except Failure TypeInfo}, source.Yields Proper found →
      source.Yields ProperAnswer (found.map some) :=
    fun yields => yields.map fun _ proper => proper.answer
  have ofObject : ∀ info : TypeInfo, (∃ display, info = .plain .object display) →
      ProperAnswer (some info) := by
    rintro _ ⟨display, rfl⟩
    exact (Proper.plain .object display).answer
  have ofArray : ∀ info : TypeInfo, (∃ display, info = .object display "Array") →
      ProperAnswer (some info) := by
    rintro _ ⟨display, rfl⟩
    exact (Proper.object display "Array").answer
  have shorthand : source.Infers (source.identifierType inferDeeper) :=
    fun _ isChild => yields_identifierType alsoInfers isChild
  unfold expressionType
  refine Yields.ite (properAnswer_ofName? "string") ?_
  refine Yields.ite (properAnswer_ofName? "undefined") ?_
  refine Yields.ite (Proper.object "RegExp" "RegExp").answer ?_
  refine Yields.ite (Proper.object "JSX.Element" "JSXElement").answer ?_
  refine Yields.ite (answered (yields_functionType inTree)) ?_
  refine Yields.ite (answered (yields_classType inTree)) ?_
  refine Yields.ite ((yields_objectType infers shorthand inTree).map ofObject) ?_
  refine Yields.ite ((yields_arrayType infers inTree).map ofArray) ?_
  refine Yields.ite (yields_constructedType inTree) ?_
  refine Yields.ite (yields_callType inTree) ?_
  apply Yields.ite
  · split
    · rename_i inner isFirst
      exact infers.part inTree (Node.mem_children_of_firstNamed? isFirst)
    · exact properAnswer_none
  refine Yields.ite (yields_assertedType infers inTree) ?_
  refine Yields.ite (yields_binaryType infers inTree) ?_
  refine Yields.ite (yields_identifierType infers inTree) ?_
  exact yields_literalType inTree text

end Parts

/-! ## The budget -/

section Budget

variable {source : Source}

/-- One step of the budget goes to the expression, and a further one to the names that stand for
themselves in an object. -/
theorem inferWithin_succ (budget : Nat) (node : Node) :
    source.inferWithin (budget + 1) node = (do
      let text ← source.text node
      source.expressionType (source.inferWithin budget) (source.inferWithin (budget - 1)) node
        text) := by
  cases budget with
  | zero => rfl
  | succ budget => rfl

/-- Within any budget, an expression of the tree has a type of one of the three forms, or is unknown,
unless a node of the tree has no text. -/
theorem infers_inferWithin (budget : Nat) : source.Infers (source.inferWithin budget) := by
  induction budget using Nat.strongRecOn with
  | ind budget inductionHypothesis =>
      intro node inTree
      cases budget with
      | zero => exact properAnswer_none
      | succ budget =>
          rw [inferWithin_succ]
          apply (yields_text inTree).bind
          intro text _
          exact yields_expressionType (inductionHypothesis budget (Nat.lt_succ_self budget))
            (inductionHypothesis (budget - 1) (Nat.lt_succ_of_le (Nat.sub_le budget 1))) inTree text

end Budget

end Source

end ImportBoundary
