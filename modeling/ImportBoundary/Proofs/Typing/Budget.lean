import ImportBoundary.Proofs.Typing.Answers

/-!
Contract: what the budget of the inference changes in its answers.

Owns the comparison of two answers for one expression, of which the second is found with more budget,
and the expressions for which the budget does not matter.

Main statement: `inferWithin_alike`. A smaller budget leaves more expressions unknown and more parts
of a type's text out, but a type that it does find is of the sort that any larger budget finds.
-/

namespace ImportBoundary

/-! ## Types that differ in their texts -/

namespace TypeInfo

/-- Two types that differ in their texts at most. -/
structure Alike (info other : TypeInfo) : Prop where
  flags : info.flags = other.flags
  symbol : info.symbol = other.symbol
  calls : info.calls = other.calls

theorem Alike.refl (info : TypeInfo) : info.Alike info :=
  ⟨rfl, rfl, rfl⟩

theorem Alike.widen {info other : TypeInfo} (alike : info.Alike other) :
    info.widen.Alike other.widen := by
  unfold TypeInfo.widen
  rw [alike.flags]
  split_ifs
  · exact .refl _
  · exact .refl _
  · exact .refl _
  · exact .refl _
  · exact alike

/-- Of a type that the first answer knows, the second one knows everything but the text. -/
def KnownIn (known full : Option TypeInfo) : Prop :=
  ∀ info, known = some info → ∃ other, full = some other ∧ info.Alike other

namespace KnownIn

variable {known full : Option TypeInfo}

theorem refl (answer : Option TypeInfo) : KnownIn answer answer :=
  fun info isKnown => ⟨info, isKnown, .refl info⟩

theorem none (answer : Option TypeInfo) : KnownIn none answer :=
  fun _ impossible => nomatch impossible

theorem some {info other : TypeInfo} (alike : info.Alike other) :
    KnownIn (some info) (some other) := by
  intro _ same
  cases same
  exact ⟨other, rfl, alike⟩

theorem widen (kept : KnownIn known full) :
    KnownIn (known.map TypeInfo.widen) (full.map TypeInfo.widen) := by
  intro info widened
  obtain ⟨narrow, isKnown, rfl⟩ := Option.map_eq_some_iff.mp widened
  obtain ⟨other, rfl, alike⟩ := kept narrow isKnown
  exact ⟨other.widen, rfl, alike.widen⟩

/-- A known type has the same flags in both answers. -/
theorem any_eq (kept : KnownIn known full) {flags others : List TypeFlag}
    (has : known.any (·.flags.hasAny flags) = true) :
    full.any (·.flags.hasAny others) = known.any (·.flags.hasAny others) := by
  obtain ⟨info, isKnown, _⟩ := (Option.any_eq_true _ _).mp has
  obtain ⟨other, rfl, alike⟩ := kept info isKnown
  simp [isKnown, alike.flags]

end KnownIn

end TypeInfo

open TypeInfo

namespace Source

/-- An operand that is known in one answer decides the sum in the other one as well: a text whatever
the other operand is, and numbers only together. -/
theorem knownIn_sumType {left right fullLeft fullRight : Option TypeInfo}
    (keptLeft : KnownIn left fullLeft) (keptRight : KnownIn right fullRight) :
    KnownIn (sumType left right) (sumType fullLeft fullRight) := by
  unfold sumType
  dsimp only
  split
  · rename_i isText
    rw [Bool.or_eq_true] at isText
    rw [if_pos]
    · exact .refl _
    · rw [Bool.or_eq_true]
      exact isText.imp (fun has => (keptLeft.any_eq has).trans has)
        (fun has => (keptRight.any_eq has).trans has)
  · rename_i noText
    split
    · rename_i areNumbers
      obtain ⟨ofLeft, ofRight⟩ := (Bool.and_eq_true _ _).mp areNumbers
      simp only [keptLeft.any_eq ofLeft, keptRight.any_eq ofRight]
      rw [if_neg noText, if_pos areNumbers]
      exact .refl _
    · exact .none _

/-! ## Answers with more budget -/

/-- All texts of a tree can be read. -/
def TextsRead (source : Source) : Prop :=
  ∀ node ∈ source.root.walk, ∃ text, source.text node = .ok text

section Kept

variable {less more : Except Failure (Option TypeInfo)}

/-- Two answers that do not fail, of which the second knows what the first knows. -/
def Kept (less more : Except Failure (Option TypeInfo)) : Prop :=
  ∃ known full, less = .ok known ∧ more = .ok full ∧ KnownIn known full

theorem Kept.same (answer : Option TypeInfo) : Kept (.ok answer) (.ok answer) :=
  ⟨answer, answer, rfl, rfl, .refl answer⟩

theorem Kept.bind {next alsoNext : Option TypeInfo → Except Failure (Option TypeInfo)}
    (first : Kept less more)
    (second : ∀ known full, KnownIn known full → Kept (next known) (alsoNext full)) :
    Kept (less >>= next) (more >>= alsoNext) := by
  obtain ⟨known, full, rfl, rfl, kept⟩ := first
  exact second known full kept

theorem Kept.ite {condition : Prop} [Decidable condition]
    {lessElse moreElse : Except Failure (Option TypeInfo)} (first : Kept less more)
    (second : Kept lessElse moreElse) :
    Kept (if condition then less else lessElse) (if condition then more else moreElse) := by
  split
  · exact first
  · exact second

variable {source : Source}

/-- In a tree whose texts can be read, an answer that fails at a text only does not fail. -/
theorem Yields.exists_ok {α : Type} {property : α → Prop} {answer : Except Failure α}
    (yields : source.Yields property answer) (readable : source.TextsRead) :
    ∃ value, answer = .ok value ∧ property value := by
  cases answer with
  | ok value => exact ⟨value, rfl, yields⟩
  | error failure =>
      obtain ⟨node, inTree, failed⟩ := yields
      obtain ⟨text, read⟩ := readable node inTree
      rw [read] at failed
      cases failed

theorem Yields.kept {answer : Except Failure (Option TypeInfo)} {form : Option TypeInfo → Prop}
    (yields : source.Yields form answer) (readable : source.TextsRead) : Kept answer answer := by
  obtain ⟨known, answered, _⟩ := yields.exists_ok readable
  exact ⟨known, known, answered, answered, .refl known⟩

/-- Two answers of a form that leaves open only the text are alike. -/
theorem Yields.kept_some {form : String → TypeInfo} {less more : Except Failure TypeInfo}
    (alike : ∀ display other, (form display).Alike (form other))
    (yields : source.Yields (fun info => ∃ display, info = form display) less)
    (alsoYields : source.Yields (fun info => ∃ display, info = form display) more)
    (readable : source.TextsRead) : Kept (less.map some) (more.map some) := by
  obtain ⟨_, rfl, display, rfl⟩ := yields.exists_ok readable
  obtain ⟨_, rfl, other, rfl⟩ := alsoYields.exists_ok readable
  exact ⟨_, _, rfl, rfl, .some (alike display other)⟩

end Kept

/-! ## One step with more budget -/

section Step

variable {source : Source} {less more lessDeeper moreDeeper : Inference} {node : Node}

/-- The inference of other nodes, once with less budget and once with more. -/
structure Keeps (source : Source) (less more : Inference) : Prop where
  readable : source.TextsRead
  infers : source.Infers less
  alsoInfers : source.Infers more
  kept : ∀ node ∈ source.root.walk, Kept (less node) (more node)

namespace Keeps

variable (keeps : source.Keeps less more) (inTree : node ∈ source.root.walk)
include keeps inTree

theorem part {part : Node} (isPart : part ∈ node.children) : Kept (less part) (more part) :=
  keeps.kept part (Node.mem_walk_of_mem_children inTree isPart)

theorem identifierType :
    Kept (source.identifierType less node) (source.identifierType more node) := by
  have readable := keeps.readable
  obtain ⟨answer, answered, inPlaces⟩ := (yields_declarationOf inTree).exists_ok readable
  unfold Source.identifierType
  rw [answered]
  cases answer with
  | none => exact .same none
  | some place =>
      have placeInTree := inPlaces place rfl
      refine Kept.ite ?_ (Kept.ite ?_ ?_)
      · exact ((yields_functionType placeInTree).map
          fun _ proper => proper.answer).kept readable
      · obtain ⟨name, isNamed, _⟩ := (yields_text inTree).exists_ok readable
        rw [isNamed]
        exact .same _
      · cases isAnnotated : Node.behindColon? (place.node.child? "type") with
        | some annotation =>
            exact (yields_annotationType
              (mem_walk_of_behindColon? placeInTree isAnnotated)).kept readable
        | none =>
            apply Kept.ite
            · cases isValue : place.node.child? "value" with
              | none => exact .same none
              | some value =>
                  apply (keeps.part placeInTree (Node.mem_children_of_child? isValue)).bind
                  intro known full kept
                  refine ⟨_, _, rfl, rfl, ?_⟩
                  split
                  · exact kept.widen
                  · exact kept
            · exact .same none

theorem answerAt (field : String) :
    Kept (answerAt less (node.child? field)) (answerAt more (node.child? field)) := by
  cases isPart : node.child? field with
  | none => exact .same none
  | some part => exact keeps.part inTree (Node.mem_children_of_child? isPart)

theorem binaryType : Kept (source.binaryType less node) (source.binaryType more node) := by
  obtain ⟨operator, isOperator, _⟩ := (yields_operatorText inTree).exists_ok keeps.readable
  rw [binaryType_eq, binaryType_eq, isOperator]
  refine Kept.ite ?_ (Kept.ite ?_ (Kept.ite ?_ ?_))
  · exact .same _
  · exact .same _
  · exact .same _
  apply (keeps.answerAt inTree "left").bind
  intro left fullLeft keptLeft
  apply (keeps.answerAt inTree "right").bind
  intro right fullRight keptRight
  exact ⟨_, _, rfl, rfl, knownIn_sumType keptLeft keptRight⟩

theorem assertedType :
    Kept (source.assertedType less node) (source.assertedType more node) := by
  have named : ∀ child ∈ node.namedChildren, child ∈ source.root.walk := fun child isNamed =>
    Node.mem_walk_of_mem_children inTree (Node.mem_children_of_namedChildren isNamed)
  unfold Source.assertedType
  split
  · rename_i value annotation children
    exact (yields_annotationType (named annotation (by simp [children]))).kept keeps.readable
  · rename_i value rest _ children
    exact keeps.kept value (named value (by simp [children]))
  · exact .same _

/-- An expression is known as before if its parts are. The members of an object and the elements of an
array are only in its text. -/
theorem expressionType (deeper : source.Infers lessDeeper) (alsoDeeper : source.Infers moreDeeper)
    (text : String) :
    Kept (source.expressionType less lessDeeper node text)
      (source.expressionType more moreDeeper node text) := by
  have readable := keeps.readable
  have shorthand : ∀ {infer : Inference}, source.Infers infer →
      source.Infers (source.identifierType infer) :=
    fun infers _ isChild => yields_identifierType infers isChild
  unfold Source.expressionType
  refine Kept.ite (.same _) ?_
  refine Kept.ite (.same _) ?_
  refine Kept.ite (.same _) ?_
  refine Kept.ite (.same _) ?_
  refine Kept.ite (((yields_functionType inTree).map
    fun _ proper => proper.answer).kept readable) ?_
  refine Kept.ite (((yields_classType inTree).map
    fun _ proper => proper.answer).kept readable) ?_
  refine Kept.ite (Yields.kept_some (fun _ _ => ⟨rfl, rfl, rfl⟩)
    (yields_objectType keeps.infers (shorthand deeper) inTree)
    (yields_objectType keeps.alsoInfers (shorthand alsoDeeper) inTree) readable) ?_
  refine Kept.ite (Yields.kept_some (fun _ _ => ⟨rfl, rfl, rfl⟩)
    (yields_arrayType keeps.infers inTree) (yields_arrayType keeps.alsoInfers inTree) readable) ?_
  refine Kept.ite ((yields_constructedType inTree).kept readable) ?_
  refine Kept.ite ((yields_callType inTree).kept readable) ?_
  apply Kept.ite
  · cases isFirst : node.firstNamed? with
    | none => exact .same _
    | some inner => exact keeps.part inTree (Node.mem_children_of_firstNamed? isFirst)
  refine Kept.ite (keeps.assertedType inTree) ?_
  refine Kept.ite (keeps.binaryType inTree) ?_
  refine Kept.ite (keeps.identifierType inTree) ?_
  exact (yields_literalType inTree text).kept readable

end Keeps

end Step

/-! ## Any budget -/

section Budget

variable {source : Source} {few many : Nat} {node : Node}

/-- The expressions that the grammar lets a literal type hold. -/
def literalTypeKinds : List String :=
  ["number", "string", "true", "false", "null", "undefined", "unary_expression"]

/-- What a literal type holds has its type by itself, which any budget but none finds. -/
theorem inferWithin_of_literal (budget : Nat) (isLiteral : node.kind ∈ literalTypeKinds) :
    source.inferWithin (budget + 1) node = source.text node >>= source.literalType node := by
  have byItself : ∀ infer inferDeeper text,
      source.expressionType infer inferDeeper node text = source.literalType node text := by
    intro infer inferDeeper text
    simp only [literalTypeKinds, List.mem_cons, List.not_mem_nil, or_false] at isLiteral
    unfold Source.expressionType
    rcases isLiteral with isKind | isKind | isKind | isKind | isKind | isKind | isKind <;>
      rw [isKind] <;> rfl
  rw [inferWithin_succ]
  simp only [byItself]

theorem kept_inferWithin (readable : source.TextsRead) (fewer : few ≤ many)
    (inTree : node ∈ source.root.walk) :
    Kept (source.inferWithin few node) (source.inferWithin many node) := by
  induction few generalizing many node with
  | zero =>
      obtain ⟨full, answered, _⟩ := (infers_inferWithin many node inTree).exists_ok readable
      exact ⟨none, full, rfl, answered, .none full⟩
  | succ few inductionHypothesis =>
      obtain ⟨many, rfl⟩ := Nat.exists_eq_add_of_le' (Nat.le_of_add_left_le fewer)
      have keeps : source.Keeps (source.inferWithin few) (source.inferWithin many) :=
        { readable := readable
          infers := infers_inferWithin few
          alsoInfers := infers_inferWithin many
          kept := fun _ isNode => inductionHypothesis (Nat.le_of_succ_le_succ fewer) isNode }
      obtain ⟨text, read⟩ := readable node inTree
      rw [inferWithin_succ, inferWithin_succ, read]
      exact keeps.expressionType inTree (infers_inferWithin _) (infers_inferWithin _) text

/-- What an expression is found to be within a budget, it is found to be within any larger one, up to
the text of the type: an inference that has already gone down some steps has the rest of the budget,
and running out of it only leaves things unknown. -/
theorem inferWithin_alike (readable : source.TextsRead) (fewer : few ≤ many)
    (inTree : node ∈ source.root.walk) {info : TypeInfo}
    (answered : source.inferWithin few node = .ok (some info)) :
    ∃ other, source.inferWithin many node = .ok (some other) ∧ info.Alike other := by
  obtain ⟨known, full, isKnown, isFull, kept⟩ := kept_inferWithin readable fewer inTree
  obtain rfl : some info = known := Except.ok.inj (answered.symm.trans isKnown)
  obtain ⟨other, rfl, alike⟩ := kept info rfl
  exact ⟨other, isFull, alike⟩

/-- The expression `[1]`. -/
def numberArray : Node :=
  ⟨"array", 0, 3, true, false, none, [
    ⟨"[", 0, 1, false, false, none, []⟩,
    ⟨"number", 1, 2, true, false, none, []⟩,
    ⟨"]", 2, 3, false, false, none, []⟩]⟩

/-- With a single step an array is known to be one, but not what it holds. -/
theorem inferWithin_alike_of_array :
    let source : Source := ⟨⟨.root, ["a.ts"]⟩, Utf8.encode "[1]", .typescript,
      ⟨"program", 0, 3, true, false, none,
        [⟨"expression_statement", 0, 3, true, false, none, [numberArray]⟩]⟩⟩
    let info := TypeInfo.object "any[]" "Array"
    source.TextsRead ∧ 1 ≤ depthLimit + 1 ∧ numberArray ∈ source.root.walk ∧
      source.inferWithin 1 numberArray = .ok (some info) ∧
      ∃ other, source.typeAt numberArray = .ok (some other) ∧ info.Alike other ∧
        other.display = "number[]" := by
  intro source info
  have areRead : ∀ node ∈ source.root.preorder, (source.text node).isOk = true := by
    decide +kernel
  have readable : source.TextsRead := by
    intro node inTree
    rw [Node.walk_eq_preorder] at inTree
    exact exists_of_isOk (areRead node inTree)
  have fewer : 1 ≤ depthLimit + 1 := by decide
  have inTree : numberArray ∈ source.root.walk :=
    Node.mem_walk_of_child (.head _)
      (Node.mem_walk_of_child (.head _) (Node.mem_walk_self numberArray))
  have answered : source.inferWithin 1 numberArray = .ok (some info) :=
    eq_ok_of_toOption (by decide +kernel)
  have isShown : ∀ answer, source.typeAt numberArray = .ok answer →
      answer.map TypeInfo.display = some "number[]" := by
    decide +kernel
  obtain ⟨other, found, alike⟩ := inferWithin_alike readable fewer inTree answered
  refine ⟨readable, fewer, inTree, answered, other, found, alike, ?_⟩
  exact Option.some.inj (isShown _ found)

end Budget

end Source

end ImportBoundary
