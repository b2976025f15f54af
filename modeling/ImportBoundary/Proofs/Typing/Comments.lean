import ImportBoundary.Proofs.Typing.Agreement

/-!
Contract: what comments change in the type of an expression.

Owns for every case of the inference that it agrees in two sources that differ in their comments, if
the inference of the parts does.

Main statement: `typeAt_apart_from_comments`. Comments anywhere in a source change nothing but the text
of a type, as long as none stands where `Undisturbed` forbids it. There they do:
`comments_change_types`.
-/

namespace ImportBoundary.Source

/-- Two inferences that agree on the nodes below the roots that stand for each other. -/
def InferAlike (first second : Source) (infer otherInfer : Inference) : Prop :=
  ∀ node other, first.PairedBelow second node other → TypesAgree (infer node) (otherInfer other)

variable {first second : Source} {node other : Node}

/-! ## Expressions that need no other -/

section Leaves

variable (same : first.SameButComments second) (paired : first.Paired second node other)
include same paired

theorem agree_text? (field : String) :
    Agree (fun _ _ => True) (first.text? (node.child? field)) (second.text? (other.child? field)) :=
  same.text? (same.child? paired field)

variable (undisturbed : first.Undisturbed second)
include undisturbed

/-- A function is one that can be called, whatever its text is. -/
theorem agree_functionType :
    Agree TypeInfo.Alike (first.functionType node) (second.functionType other) := by
  unfold Source.functionType
  extract_lets rest otherRest
  have result : ∀ parameters otherParameters : String,
      Agree TypeInfo.Alike (rest parameters) (otherRest otherParameters) := by
    intro parameters otherParameters
    dsimp only [rest, otherRest]
    have annotations := rel_behindColon? same paired undisturbed "return_type"
    generalize Node.behindColon? (node.child? "return_type") = annotation,
      Node.behindColon? (other.child? "return_type") = otherAnnotation at annotations ⊢
    cases annotations with
    | some below => exact (same.text below.paired).bind fun _ _ _ => ⟨rfl, rfl, rfl⟩
    | none =>
        rcases same.child?_cases paired "body" with
          ⟨absent, alsoAbsent⟩ | ⟨body, otherBody, found, otherFound, _, -⟩
        · rw [absent, alsoAbsent]
          exact ⟨rfl, rfl, rfl⟩
        · rw [found, otherFound]
          exact ⟨rfl, rfl, rfl⟩
  rcases same.child?_cases paired "parameters" with
    ⟨absent, alsoAbsent⟩ | ⟨list, otherList, found, otherFound, below, -⟩
  · rw [absent, alsoAbsent]
    rcases same.child?_cases paired "parameter" with
      ⟨absent, alsoAbsent⟩ | ⟨single, otherSingle, found, otherFound, below, -⟩
    · rw [absent, alsoAbsent]
      exact result "()" "()"
    · rw [found, otherFound]
      exact (same.text below.paired).bind fun name otherName _ => result _ _
  · rw [found, otherFound]
    exact (same.text below.paired).bind fun parameters otherParameters _ => result _ _

theorem agree_classType : Agree TypeInfo.Alike (first.classType node) (second.classType other) := by
  unfold Source.classType
  rw [undisturbed.text?_of_field same paired (.inr rfl)]
  cases second.text? (other.child? "name") with
  | error failure => trivial
  | ok name => exact TypeInfo.Alike.refl _

/-- The two names of an access are read alike, wherever comments stand between them. -/
theorem agree_memberParts : Agree Eq (first.memberParts node) (second.memberParts other) := by
  have content := same.namedContent paired
  have nothing : Agree Eq (.ok none : Except Failure (Option (String × String))) (.ok none) := rfl
  unfold Source.memberParts
  rw [same.kind paired]
  refine Agree.ite Iff.rfl ?_ nothing
  generalize node.namedContent = parts, other.namedContent = otherParts at content ⊢
  cases content with
  | nil => exact nothing
  | @cons object otherObject _ _ objects remaining =>
      cases remaining with
      | nil => exact nothing
      | @cons member otherMember _ _ members others =>
          cases others with
          | cons _ _ => exact nothing
          | nil =>
              dsimp only
              rw [same.kind objects.paired, same.kind members.paired]
              refine Agree.ite_of Iff.rfl (fun areNames => ?_) fun _ => nothing
              simp only [Bool.and_eq_true, Bool.or_eq_true, beq_iff_eq] at areNames
              obtain ⟨objectKind, memberKinds⟩ := areNames
              have isObject : object.kind ∈ wordKinds := by
                rw [same.kind objects.paired, objectKind]
                decide
              have isMember : member.kind ∈ wordKinds := by
                rw [same.kind members.paired]
                rcases memberKinds with isKind | isKind <;>
                  · rw [isKind]
                    decide
              rw [undisturbed.text_of_kind objects.paired (List.elem_eq_true_of_mem isObject),
                undisturbed.text_of_kind members.paired (List.elem_eq_true_of_mem isMember)]
              cases second.text otherObject with
              | error failure => trivial
              | ok objectName =>
                  cases second.text otherMember with
                  | error failure => trivial
                  | ok memberName => rfl

/-- A constructor has one name: its member's if it is an access, or else as it is spelled. -/
theorem agree_constructedType :
    TypesAgree (first.constructedType node) (second.constructedType other) := by
  have arguments : ∀ name : String, TypesAgree
      (do
        let arguments ← first.text? (node.child? "type_arguments")
        .ok (some (TypeInfo.object (name ++ arguments.getD "") name)))
      (do
        let arguments ← second.text? (other.child? "type_arguments")
        .ok (some (TypeInfo.object (name ++ arguments.getD "") name))) := by
    intro name
    apply (agree_text? same paired "type_arguments").bind
    intro written otherWritten _
    exact typesAgree_some ⟨rfl, rfl, rfl⟩
  unfold Source.constructedType
  rcases same.child?_cases paired "constructor" with
    ⟨absent, alsoAbsent⟩ | ⟨called, otherCalled, found, otherFound, below, isRole⟩
  · rw [absent, alsoAbsent]
    exact .none
  rw [found, otherFound]
  have parts := agree_memberParts same below.paired undisturbed
  dsimp only
  cases read : first.memberParts called with
  | error failure =>
      cases otherRead : second.memberParts otherCalled with
      | error otherFailure => trivial
      | ok otherNames => simp [read, otherRead, Agree] at parts
  | ok names =>
      cases otherRead : second.memberParts otherCalled with
      | error otherFailure => simp [read, otherRead, Agree] at parts
      | ok otherNames =>
          obtain rfl : names = otherNames := by simpa [read, otherRead, Agree] using parts
          rw [ok_bind, ok_bind]
          cases names with
          | some pair => exact arguments pair.2
          | none =>
              have spelled : first.text called = second.text otherCalled := by
                apply undisturbed.text below.paired
                simp [Source.isRead, isRole, read]
              dsimp only
              rw [spelled]
              cases second.text otherCalled with
              | error failure => trivial
              | ok name => exact arguments name

end Leaves

/-! ## Calls -/

/-- The result that the declaration of a called name is annotated with. -/
def declaredResult (source : Source) (function : Node) : Except Failure (Option TypeInfo) :=
  if function.kind != "identifier" then .ok none
  else do
    match ← source.declarationOf function with
    | none => .ok none
    | some place =>
      if functionDeclarationKinds.contains place.node.kind then
        source.annotationType? (Node.behindColon? (place.node.child? "return_type"))
      else .ok none

theorem callType_of_function {source : Source} {node function : Node}
    (found : node.child? "function" = some function) :
    source.callType node = (do
      let callee ← source.text function
      if symbolFunctions.contains callee then .ok (TypeInfo.ofName? "symbol")
      else
        match primitiveFunctions.lookup callee with
        | some primitive => .ok (TypeInfo.ofName? primitive)
        | none =>
          if promiseFunctions.contains callee then
            .ok (some (TypeInfo.object "Promise<any>" "Promise"))
          else source.declaredResult function) := by
  rw [callType, found]
  rfl

/-- A function that is not known by how it is written is none of the listed ones. -/
theorem unlisted_of_isKnownFunction {source : Source} {function : Node} {callee : String}
    (read : source.text function = .ok callee) (isUnknown : source.isKnownFunction function = false) :
    symbolFunctions.contains callee = false ∧ primitiveFunctions.lookup callee = none ∧
      promiseFunctions.contains callee = false := by
  rw [isKnownFunction, read] at isUnknown
  simp only [knownFunctions, List.contains_eq_mem, List.mem_append, decide_eq_false_iff_not,
    not_or] at isUnknown
  obtain ⟨⟨notSymbol, notPrimitive⟩, notPromise⟩ := isUnknown
  refine ⟨by simpa using notSymbol, ?_, by simpa using notPromise⟩
  rw [List.lookup_eq_none_iff]
  intro listed member
  exact bne_iff_ne.mpr fun same => notPrimitive (List.mem_map.mpr ⟨listed, member, same.symm⟩)

section Calls

variable (same : first.SameButComments second) (undisturbed : first.Undisturbed second)
include same undisturbed

theorem agree_declaredResult (below : first.PairedBelow second node other) :
    TypesAgree (first.declaredResult node) (second.declaredResult other) := by
  unfold declaredResult
  rw [same.kind below.paired]
  refine Agree.ite_of Iff.rfl (fun _ => .none) fun isIdentifier => ?_
  have isWord : node.kind ∈ wordKinds := by
    simp only [bne_iff_ne, not_not] at isIdentifier
    rw [same.kind below.paired, isIdentifier]
    decide
  apply (agree_declarationOf same below isWord undisturbed).bind
  intro place otherPlace places
  cases places with
  | none => exact .none
  | some placesPaired =>
      dsimp only
      rw [same.kind placesPaired.node]
      refine Agree.ite Iff.rfl ?_ (typesAgree_same none)
      exact agree_annotationType? same placesPaired.node undisturbed "return_type"

/-- A call yields what the function is known for, or the result that its declaration is annotated
with. -/
theorem agree_callType (paired : first.Paired second node other) :
    TypesAgree (first.callType node) (second.callType other) := by
  rcases same.child?_cases paired "function" with
    ⟨absent, alsoAbsent⟩ | ⟨function, otherFunction, found, otherFound, below, isRole⟩
  · rw [callType, callType, absent, alsoAbsent]
    exact .none
  rw [callType_of_function found, callType_of_function otherFound]
  apply agree_bindText same below.paired
  intro callee otherCallee read otherRead
  have declared := agree_declaredResult same undisturbed below
  rcases undisturbed.callees _ below.paired isRole with spelled | ⟨isUnknown, alsoUnknown⟩
  · obtain rfl := text_unique spelled read otherRead
    refine Agree.ite Iff.rfl (typesAgree_same _) ?_
    cases primitiveFunctions.lookup callee with
    | some primitive => exact typesAgree_same _
    | none => exact Agree.ite Iff.rfl (typesAgree_same _) declared
  · obtain ⟨notSymbol, notPrimitive, notPromise⟩ := unlisted_of_isKnownFunction read isUnknown
    obtain ⟨notOtherSymbol, notOtherPrimitive, notOtherPromise⟩ :=
      unlisted_of_isKnownFunction otherRead alsoUnknown
    rw [notSymbol, notPrimitive, notPromise, notOtherSymbol, notOtherPrimitive, notOtherPromise]
    exact declared

end Calls

/-! ## Expressions by their parts -/

/-- The text of a member by the type of its value, which may be missing. -/
theorem memberText_eq {source : Source} {infer inferShorthand : Inference} {child : Node} :
    source.memberText infer inferShorthand child =
      if child.kind == "pair" then do
        let valueType ← answerAt infer (child.child? "value")
        let key ← source.text? (child.child? "key")
        .ok (some (key.getD "?" ++ ": " ++ displayOrAny valueType ++ ";"))
      else if child.kind == "shorthand_property_identifier" then do
        let valueType ← inferShorthand child
        let name ← source.text child
        .ok (some (name ++ ": " ++ displayOrAny valueType ++ ";"))
      else if child.kind == "method_definition" then do
        let name ← source.text? (child.child? "name")
        .ok (some (name.getD "?" ++ "(): any;"))
      else .ok none := by
  unfold memberText
  cases child.child? "value" <;> rfl

/-- A sum is decided by the flags of its operands. -/
theorem sumType_eq_of_alike {left right otherLeft otherRight : Option TypeInfo}
    (lefts : Option.Rel TypeInfo.Alike left otherLeft)
    (rights : Option.Rel TypeInfo.Alike right otherRight) :
    sumType left right = sumType otherLeft otherRight := by
  have any_eq : ∀ {info otherInfo : Option TypeInfo}, Option.Rel TypeInfo.Alike info otherInfo →
      ∀ flags, info.any (fun known => known.flags.hasAny flags) =
        otherInfo.any fun known => known.flags.hasAny flags := by
    intro info otherInfo infos flags
    cases infos with
    | none => rfl
    | some alike => simp [alike.flags]
  unfold sumType
  simp only [any_eq lefts, any_eq rights]

section Parts

variable {infer otherInfer inferDeeper otherDeeper : Inference}
  (same : first.SameButComments second) (alike : first.InferAlike second infer otherInfer)
include same alike

theorem agree_answerAt (paired : first.Paired second node other) (field : String) :
    TypesAgree (answerAt infer (node.child? field)) (answerAt otherInfer (other.child? field)) := by
  rcases same.child?_cases paired field with
    ⟨absent, alsoAbsent⟩ | ⟨part, otherPart, found, otherFound, below, -⟩
  · rw [absent, alsoAbsent]
    exact .none
  · rw [found, otherFound]
    exact alike part otherPart below

/-- The members of an object are only in its text, but reading them may fail. -/
theorem agree_memberText {inferShorthand otherShorthand : Inference}
    (paired : first.Paired second node other)
    (shorthand : node.kind = "shorthand_property_identifier" →
      TypesAgree (inferShorthand node) (otherShorthand other)) :
    Agree (Option.Rel fun _ _ => True) (first.memberText infer inferShorthand node)
      (second.memberText otherInfer otherShorthand other) := by
  rw [memberText_eq, memberText_eq, same.kind paired]
  refine Agree.ite Iff.rfl ?_ ?_
  · apply (agree_answerAt same alike paired "value").bind
    intro valueType otherType _
    exact (agree_text? same paired "key").bind fun _ _ _ => .some trivial
  refine Agree.ite_of Iff.rfl (fun isShorthand => ?_) fun _ => ?_
  · apply (shorthand ((same.kind paired).trans (eq_of_beq isShorthand))).bind
    intro valueType otherType _
    exact (same.text paired).bind fun _ _ _ => .some trivial
  · refine Agree.ite Iff.rfl ?_ .none
    exact (agree_text? same paired "name").bind fun _ _ _ => .some trivial

theorem agree_objectType {inferShorthand otherShorthand : Inference}
    (paired : first.Paired second node other)
    (shorthand : ∀ child otherChild, first.PairedBelow second child otherChild →
      child.kind = "shorthand_property_identifier" →
        TypesAgree (inferShorthand child) (otherShorthand otherChild)) :
    Agree TypeInfo.Alike (first.objectType infer inferShorthand node)
      (second.objectType otherInfer otherShorthand other) := by
  have ofContent : ∀ (source : Source) (infer inferShorthand : Inference) (node : Node),
      gather (source.memberText infer inferShorthand) node.namedChildren =
        gather (source.memberText infer inferShorthand) node.namedContent := by
    intro source infer inferShorthand node
    symm
    apply gather_filter
    intro child _ isComment
    have comment : child.kind = "comment" := by simpa using isComment
    rw [memberText_eq, comment]
    rfl
  unfold Source.objectType
  rw [ofContent, ofContent]
  apply (agree_gather (same.namedContent paired) fun child otherChild below =>
    agree_memberText same alike below.paired (shorthand child otherChild below)).bind
  intro members otherMembers _
  exact ⟨rfl, rfl, rfl⟩

theorem agree_arrayType (paired : first.Paired second node other) :
    Agree TypeInfo.Alike (arrayType infer node) (arrayType otherInfer other) := by
  have content := same.namedContent paired
  unfold arrayType
  generalize node.namedContent = elements, other.namedContent = otherElements at content ⊢
  cases content with
  | nil => exact TypeInfo.Alike.refl _
  | cons below _ =>
      apply (alike _ _ below).bind
      intro element otherElement _
      exact ⟨rfl, rfl, rfl⟩

variable (undisturbed : first.Undisturbed second)
include undisturbed

theorem agree_identifierType (below : first.PairedBelow second node other)
    (isWord : node.kind ∈ wordKinds) :
    TypesAgree (first.identifierType infer node) (second.identifierType otherInfer other) := by
  unfold Source.identifierType
  apply (agree_declarationOf same below isWord undisturbed).bind
  intro place otherPlace places
  cases places with
  | none => exact .none
  | @some place otherPlace placesPaired =>
      have paired := placesPaired.node
      dsimp only
      rw [same.kind paired]
      refine Agree.ite Iff.rfl ?_ (Agree.ite Iff.rfl ?_ ?_)
      · exact (agree_functionType same paired undisturbed).map fun _ _ infos => .some infos
      · rw [undisturbed.text_of_kind below.paired (List.elem_eq_true_of_mem isWord)]
        cases second.text other with
        | error failure => trivial
        | ok name => exact typesAgree_same _
      · have annotations := rel_behindColon? same paired undisturbed "type"
        generalize Node.behindColon? (place.node.child? "type") = annotation,
          Node.behindColon? (otherPlace.node.child? "type") = otherAnnotation at annotations ⊢
        cases annotations with
        | some annotated => exact agree_annotationType same annotated.paired undisturbed
        | none =>
            refine Agree.ite Iff.rfl ?_ (typesAgree_same none)
            rcases same.child?_cases paired "value" with
              ⟨absent, alsoAbsent⟩ | ⟨value, otherValue, found, otherFound, valuesBelow, -⟩
            · rw [absent, alsoAbsent]
              exact .none
            · rw [found, otherFound, same.isMutable placesPaired]
              apply (alike value otherValue valuesBelow).bind
              intro inferred otherInferred infos
              show Option.Rel TypeInfo.Alike _ _
              cases infos with
              | none => split <;> exact .none
              | some info =>
                  split
                  · exact .some info.widen
                  · exact .some info

theorem agree_binaryType (paired : first.Paired second node other) :
    TypesAgree (first.binaryType infer node) (second.binaryType otherInfer other) := by
  rw [binaryType_eq, binaryType_eq]
  apply (agree_operatorText same paired undisturbed).bind
  rintro operator _ rfl
  refine Agree.ite Iff.rfl (typesAgree_same _) ?_
  refine Agree.ite Iff.rfl (typesAgree_same _) ?_
  refine Agree.ite Iff.rfl (typesAgree_same _) ?_
  apply (agree_answerAt same alike paired "left").bind
  intro left otherLeft lefts
  apply (agree_answerAt same alike paired "right").bind
  intro right otherRight rights
  rw [sumType_eq_of_alike lefts rights]
  exact typesAgree_same _

/-- The parts of an assertion are counted, so no comment may be among them. -/
theorem agree_assertedType (paired : first.Paired second node other)
    (isAssertion : node.kind = "as_expression") :
    TypesAgree (first.assertedType infer node) (second.assertedType otherInfer other) := by
  have ofContent : ∀ node : Node, node.namedChildren.any Node.isComment = false →
      node.namedChildren = node.namedContent := by
    intro node noComment
    symm
    rw [Node.namedContent, List.filter_eq_self]
    intro child isChild
    have isContent := List.any_eq_false.mp noComment child isChild
    simpa [Node.isComment] using isContent
  obtain ⟨noComment, noOtherComment⟩ := undisturbed.assertions _ paired isAssertion
  have content := same.namedContent paired
  unfold Source.assertedType
  rw [ofContent node noComment, ofContent other noOtherComment]
  generalize node.namedContent = parts, other.namedContent = otherParts at content ⊢
  cases content with
  | nil => exact .none
  | cons values remaining =>
      cases remaining with
      | nil => exact alike _ _ values
      | cons annotations others =>
          cases others with
          | nil => exact agree_annotationType same annotations.paired undisturbed
          | cons _ _ => exact alike _ _ values

/-- An expression has the same type if its parts have. -/
theorem agree_expressionType (deeper : first.InferAlike second inferDeeper otherDeeper)
    (below : first.PairedBelow second node other) {text otherText : String}
    (read : first.text node = .ok text) (otherRead : second.text other = .ok otherText) :
    TypesAgree (first.expressionType infer inferDeeper node text)
      (second.expressionType otherInfer otherDeeper other otherText) := by
  have paired := below.paired
  have kind := same.kind paired
  have someAgree : ∀ {answer otherAnswer : Except Failure TypeInfo},
      Agree TypeInfo.Alike answer otherAnswer →
        TypesAgree (answer.map some) (otherAnswer.map some) :=
    fun agree => agree.map fun _ _ infos => .some infos
  have isWord : other.kind = "identifier" → node.kind ∈ wordKinds := by
    intro isIdentifier
    rw [kind, isIdentifier]
    decide
  have isUndefined : (other.kind == "identifier" && text == "undefined") = true ↔
      (other.kind == "identifier" && otherText == "undefined") = true := by
    by_cases isIdentifier : other.kind = "identifier"
    · have spelled :=
        undisturbed.text_of_kind paired (List.elem_eq_true_of_mem (isWord isIdentifier))
      rw [text_unique spelled read otherRead]
    · simp [isIdentifier]
  unfold Source.expressionType
  dsimp only
  rw [kind]
  refine Agree.ite Iff.rfl (typesAgree_same _) ?_
  refine Agree.ite isUndefined (typesAgree_same _) ?_
  refine Agree.ite Iff.rfl (typesAgree_same _) ?_
  refine Agree.ite Iff.rfl (typesAgree_same _) ?_
  refine Agree.ite Iff.rfl (someAgree (agree_functionType same paired undisturbed)) ?_
  refine Agree.ite Iff.rfl (someAgree (agree_classType same paired undisturbed)) ?_
  apply Agree.ite Iff.rfl
  · apply someAgree
    apply agree_objectType same alike paired
    intro child otherChild childBelow isShorthand
    apply agree_identifierType same deeper undisturbed childBelow
    rw [isShorthand]
    decide
  refine Agree.ite Iff.rfl (someAgree (agree_arrayType same alike paired)) ?_
  refine Agree.ite Iff.rfl (agree_constructedType same paired undisturbed) ?_
  refine Agree.ite Iff.rfl (agree_callType same undisturbed paired) ?_
  refine Agree.ite_of Iff.rfl (fun wraps => ?_) fun _ => ?_
  · have isFront : frontKinds.contains node.kind = true := by
      rw [kind]
      exact List.elem_eq_true_of_mem (List.mem_append_left _ (List.elem_iff.mp wraps))
    have inner := rel_firstNamed? same paired undisturbed isFront
    generalize node.firstNamed? = found, other.firstNamed? = otherFound at inner ⊢
    cases inner with
    | none => exact .none
    | some innerBelow => exact alike _ _ innerBelow
  refine Agree.ite_of Iff.rfl (fun isAssertion => ?_) fun _ => ?_
  · exact agree_assertedType same alike undisturbed paired (kind.trans (eq_of_beq isAssertion))
  refine Agree.ite Iff.rfl (agree_binaryType same alike undisturbed paired) ?_
  refine Agree.ite_of Iff.rfl (fun isIdentifier => ?_) fun _ => ?_
  · exact agree_identifierType same alike undisturbed below (isWord (eq_of_beq isIdentifier))
  · exact agree_literalType same paired undisturbed read otherRead

end Parts

/-! ## The budget -/

section Budget

variable (same : first.SameButComments second) (undisturbed : first.Undisturbed second)
include same undisturbed

/-- Comments take no step of the budget. -/
theorem inferAlike_inferWithin (budget : Nat) :
    first.InferAlike second (first.inferWithin budget) (second.inferWithin budget) := by
  induction budget using Nat.strongRecOn with
  | ind budget inductionHypothesis =>
      intro node other below
      cases budget with
      | zero => exact .none
      | succ budget =>
          rw [inferWithin_succ, inferWithin_succ]
          apply agree_bindText same below.paired
          intro text otherText read otherRead
          have alike := inductionHypothesis budget (Nat.lt_succ_self budget)
          have deeper := inductionHypothesis (budget - 1) (Nat.lt_succ_of_le (Nat.sub_le budget 1))
          exact agree_expressionType same alike undisturbed deeper below read otherRead

/-- **Comments change no type.** In two sources that are the same but for their comments, the lookup
of an expression and of the one that stands for it both fail, or both answer that the type is unknown,
or answer types that differ in their texts at most: wherever the comments stand, below the expression
or elsewhere, unless it is within a name, in front of what a wrapper holds, or among the parts of an
assertion. -/
theorem typeAt_apart_from_comments (below : first.PairedBelow second node other) :
    Agree (Option.Rel TypeInfo.Alike) (first.typeAt node) (second.typeAt other) :=
  inferAlike_inferWithin same undisturbed (depthLimit + 1) node other below

end Budget

/-! ## Two sources with comments -/

/-- A named node without a role. -/
def namedNode (kind : String) (start stop : Nat) (children : List Node) : Node :=
  ⟨kind, start, stop, true, false, none, children⟩

/-- A node in a role. -/
def inRole (field : String) (node : Node) : Node :=
  { node with field := some field }

def tokenNode (text : String) (start : Nat) : Node :=
  ⟨text, start, start + text.length, false, false, none, []⟩

/-- The comment `/*c*/`, unless nothing is inserted. -/
def comments (gap start : Nat) : List Node :=
  if gap = 0 then [] else [namedNode "comment" start (start + gap) []]

/-- The text of that comment. -/
def commentText (gap : Nat) : String :=
  if gap = 0 then "" else "/*c*/"

/-- Without comments `const v = new a.C(); (v);`, and with the five octets of each
`const v/*c*/ = new a./*c*/C(); (v/*c*/);`. -/
def constructedSource (gap : Nat) : Source :=
  ⟨⟨.root, ["a.ts"]⟩,
    Utf8.encode ("const v" ++ commentText gap ++ " = new a." ++ commentText gap ++ "C(); (v" ++
      commentText gap ++ ");"),
    .typescript,
    namedNode "program" 0 (25 + 3 * gap) [
      namedNode "lexical_declaration" 0 (20 + 2 * gap) [
        inRole "kind" (tokenNode "const" 0),
        namedNode "variable_declarator" 6 (19 + 2 * gap) (
          [inRole "name" (namedNode "identifier" 6 7 [])] ++ comments gap 7 ++
          [tokenNode "=" (8 + gap),
            inRole "value" (namedNode "new_expression" (10 + gap) (19 + 2 * gap) [
              tokenNode "new" (10 + gap),
              inRole "constructor" (namedNode "member_expression" (14 + gap) (17 + 2 * gap) (
                [inRole "object" (namedNode "identifier" (14 + gap) (15 + gap) []),
                  tokenNode "." (15 + gap)] ++ comments gap (16 + gap) ++
                [inRole "property"
                  (namedNode "property_identifier" (16 + 2 * gap) (17 + 2 * gap) [])])),
              inRole "arguments" (namedNode "arguments" (17 + 2 * gap) (19 + 2 * gap) [
                tokenNode "(" (17 + 2 * gap), tokenNode ")" (18 + 2 * gap)])])]),
        tokenNode ";" (19 + 2 * gap)],
      namedNode "expression_statement" (21 + 2 * gap) (25 + 3 * gap) [
        namedNode "parenthesized_expression" (21 + 2 * gap) (24 + 3 * gap) (
          [tokenNode "(" (21 + 2 * gap),
            namedNode "identifier" (22 + 2 * gap) (23 + 2 * gap) []] ++ comments gap (23 + 2 * gap) ++
          [tokenNode ")" (23 + 3 * gap)]),
        tokenNode ";" (24 + 3 * gap)]]⟩

/-- The comments around the declared name, within the access and behind the name in parentheses leave
the constructed type. -/
theorem typeAt_apart_from_comments_of_constructed :
    let first := constructedSource 0
    let second := constructedSource 5
    first.SameButComments second ∧ first.Undisturbed second ∧
      ∃ node other, first.PairedBelow second node other ∧
        node.kind = "parenthesized_expression" ∧ other.namedChildren.length = 2 ∧
        first.typeAt node = .ok (some (TypeInfo.object "C" "C")) ∧
        ∃ info, second.typeAt other = .ok (some info) ∧ (TypeInfo.object "C" "C").Alike info := by
  intro first second
  have same : first.SameButComments second := by decide +kernel
  have undisturbed : first.Undisturbed second := by decide +kernel
  obtain ⟨pair, below, isKind, isLonger, answered⟩ :
      ∃ pair ∈ Node.pairsBelow first.root second.root,
        pair.1.kind = "parenthesized_expression" ∧ pair.2.namedChildren.length = 2 ∧
          first.typeAt pair.1 = .ok (some (TypeInfo.object "C" "C")) := by
    decide +kernel
  have agree := typeAt_apart_from_comments same undisturbed below
  refine ⟨same, undisturbed, pair.1, pair.2, below, isKind, isLonger, answered, ?_⟩
  rw [answered] at agree
  cases alsoAnswered : second.typeAt pair.2 with
  | error failure => simp [alsoAnswered, Agree] at agree
  | ok answer =>
      rw [alsoAnswered] at agree
      cases agree with
      | some alike => exact ⟨_, rfl, alike⟩

/-! ## Comments that disturb -/

/-- A comment is no expression. -/
theorem inferWithin_of_comment {source : Source} {comment : Node}
    (isComment : comment.isComment = true) {budget : Nat} {answer : Option TypeInfo}
    (answered : source.inferWithin budget comment = .ok answer) : answer = none := by
  have kind : comment.kind = "comment" := eq_of_beq isComment
  cases budget with
  | zero =>
      cases answered
      rfl
  | succ budget =>
      rw [inferWithin_succ] at answered
      obtain ⟨text, -, inferred⟩ := bind_eq_ok_iff.mp answered
      unfold Source.expressionType Source.literalType at inferred
      rw [kind] at inferred
      cases inferred
      rfl

/-- In a wrapper with a comment in front of what it holds, this is not looked at: the wrapper has the
type of the comment, which is none. -/
theorem typeAt_of_leading_comment {source : Source} {node comment : Node}
    (wraps : node.kind ∈ wrapperKinds) (leads : node.firstNamed? = some comment)
    (isComment : comment.isComment = true) {answer : Option TypeInfo}
    (answered : source.typeAt node = .ok answer) : answer = none := by
  rw [typeAt, inferWithin_succ] at answered
  obtain ⟨text, -, inferred⟩ := bind_eq_ok_iff.mp answered
  unfold Source.expressionType at inferred
  simp only [wrapperKinds, List.mem_cons, List.not_mem_nil, or_false] at wraps
  rcases wraps with isKind | isKind | isKind <;>
    · rw [isKind, leads] at inferred
      exact inferWithin_of_comment isComment inferred

/-- Without comments `x as A; (1); let v: B; v;`, and with them
`x as /*c*/A; (/*c*/1); let v: /*c*/B; v;`. -/
def disturbedSource (gap : Nat) : Source :=
  ⟨⟨.root, ["a.ts"]⟩,
    Utf8.encode ("x as " ++ commentText gap ++ "A; (" ++ commentText gap ++ "1); let v: " ++
      commentText gap ++ "B; v;"),
    .typescript,
    namedNode "program" 0 (25 + 3 * gap) [
      namedNode "expression_statement" 0 (7 + gap) [
        namedNode "as_expression" 0 (6 + gap) (
          [namedNode "identifier" 0 1 [], tokenNode "as" 2] ++ comments gap 5 ++
          [namedNode "type_identifier" (5 + gap) (6 + gap) []]),
        tokenNode ";" (6 + gap)],
      namedNode "expression_statement" (8 + gap) (12 + 2 * gap) [
        namedNode "parenthesized_expression" (8 + gap) (11 + 2 * gap) (
          [tokenNode "(" (8 + gap)] ++ comments gap (9 + gap) ++
          [namedNode "number" (9 + 2 * gap) (10 + 2 * gap) [], tokenNode ")" (10 + 2 * gap)]),
        tokenNode ";" (11 + 2 * gap)],
      namedNode "lexical_declaration" (13 + 2 * gap) (22 + 3 * gap) [
        inRole "kind" (tokenNode "let" (13 + 2 * gap)),
        namedNode "variable_declarator" (17 + 2 * gap) (21 + 3 * gap) [
          inRole "name" (namedNode "identifier" (17 + 2 * gap) (18 + 2 * gap) []),
          inRole "type" (namedNode "type_annotation" (18 + 2 * gap) (21 + 3 * gap) (
            [tokenNode ":" (18 + 2 * gap)] ++ comments gap (20 + 2 * gap) ++
            [namedNode "type_identifier" (20 + 3 * gap) (21 + 3 * gap) []]))],
        tokenNode ";" (21 + 3 * gap)],
      namedNode "expression_statement" (23 + 3 * gap) (25 + 3 * gap) [
        namedNode "identifier" (23 + 3 * gap) (24 + 3 * gap) [],
        tokenNode ";" (24 + 3 * gap)]]⟩

/-- An assertion, a wrapper and an annotated variable lose their types to a comment. -/
theorem comments_change_types :
    let first := disturbedSource 0
    let second := disturbedSource 5
    first.SameButComments second ∧
      (∃ pair ∈ Node.pairsBelow first.root second.root, pair.1.kind = "as_expression" ∧
        first.typeAt pair.1 = .ok (some (TypeInfo.object "A" "A")) ∧
          second.typeAt pair.2 = .ok none) ∧
      (∃ pair ∈ Node.pairsBelow first.root second.root,
        pair.1.kind = "parenthesized_expression" ∧
          first.typeAt pair.1 = .ok (some (TypeInfo.plain .numberLiteral "1")) ∧
            second.typeAt pair.2 = .ok none) ∧
      ∃ pair ∈ Node.pairsBelow first.root second.root, pair.1.kind = "identifier" ∧
        first.typeAt pair.1 = .ok (some (TypeInfo.object "B" "B")) ∧
          second.typeAt pair.2 = .ok none := by
  decide +kernel

end ImportBoundary.Source
