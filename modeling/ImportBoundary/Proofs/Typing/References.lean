import ImportBoundary.Proofs.Typing.Lookups
import Mathlib.Data.Fin.VecNotation

/-!
Contract: variables that are initialised with one another.

Owns names whose only declaration is a variable without annotation, the rings and chains that such
variables form, and what type a name in a ring or at the head of a chain has.

Main statement: `typeAt_of_references`. Every lookup ends, a name in a ring is unknown, and a chain is
followed to its end exactly if it is no longer than the depth limit.
-/

namespace ImportBoundary

/-! ## What a variable holds -/

theorem TypeInfo.widen_widen (info : TypeInfo) : info.widen.widen = info.widen := by
  unfold TypeInfo.widen
  split_ifs <;> first | rfl | contradiction

/-- What a variable is known to hold if its initial value is known. -/
def Place.holding (place : Place) (inferred : Option TypeInfo) : Option TypeInfo :=
  if place.isMutable then inferred.map TypeInfo.widen else inferred

@[simp] theorem Place.holding_none (place : Place) : place.holding none = none := by
  simp [holding]

/-- What is known at the head of a chain of variables if the value at its end is known: that value, or
any of its sort if some variable may be assigned again. -/
def Place.holdingAll (places : List Place) (known : Option TypeInfo) : Option TypeInfo :=
  if places.any Place.isMutable then known.map TypeInfo.widen else known

theorem Place.holding_holdingAll (place : Place) (places : List Place) (known : Option TypeInfo) :
    place.holding (holdingAll places known) = holdingAll (place :: places) known := by
  have again : (known.map TypeInfo.widen).map TypeInfo.widen = known.map TypeInfo.widen := by
    simp [Function.comp_def, TypeInfo.widen_widen]
  cases isMutable : place.isMutable <;> cases areMutable : places.any Place.isMutable <;>
    simp [holding, holdingAll, isMutable, areMutable, again]

namespace Source

variable {source : Source} {name value literal : Node} {place : Place} {places : List Place}

/-- The only declaration of a name is a variable without annotation, and this is its initial value. The
name `undefined` is a literal instead. -/
structure Initialised (source : Source) (name : Node) (place : Place) (value : Node) : Prop where
  isName : name.kind = "identifier"
  differs : source.text name ≠ .ok "undefined"
  only : source.OnlyVisible name place
  isVariable : place.node.kind = "variable_declarator"
  unannotated : place.node.child? "type" = none
  isValue : place.node.child? "value" = some value

namespace Initialised

theorem mem_walk (initialised : source.Initialised name place value) :
    value ∈ source.root.walk :=
  Node.mem_walk_of_mem_children (Node.mem_walk_of_mem_places initialised.only.isPlace)
    (Node.mem_children_of_child? initialised.isValue)

theorem identifierType_eq (initialised : source.Initialised name place value) (infer : Inference)
    (resolved : source.declarationOf name = .ok (some place)) :
    source.identifierType infer name = (infer value).map place.holding := by
  unfold identifierType
  rw [resolved]
  simp only [ok_bind, initialised.isVariable, initialised.unannotated, initialised.isValue,
    Node.behindColon?, Option.bind_none, beq_self_eq_true, if_true]
  rw [if_neg (by decide), if_neg (by decide)]
  cases infer value with
  | ok inferred => rfl
  | error failure => rfl

theorem expressionType_eq (initialised : source.Initialised name place value)
    (infer inferDeeper : Inference) {text : String} (read : source.text name = .ok text) :
    source.expressionType infer inferDeeper name text = source.identifierType infer name := by
  have differs : text ≠ "undefined" := by
    rintro rfl
    exact initialised.differs read
  unfold expressionType
  simp [initialised.isName, differs, elementKinds, functionExpressionKinds, wrapperKinds]

/-- One step of the budget leads from the name to the initial value. -/
theorem yields_inferWithin (initialised : source.Initialised name place value)
    (inTree : name ∈ source.root.walk) {budget : Nat} {property : Option TypeInfo → Prop}
    (ofValue : source.Yields property (source.inferWithin budget value)) :
    source.Yields (fun answer => ∃ inferred, property inferred ∧ answer = place.holding inferred)
      (source.inferWithin (budget + 1) name) := by
  rw [inferWithin_succ]
  apply ((yields_text inTree).of_ok fun text read => read).bind
  intro text read
  rw [initialised.expressionType_eq _ _ read]
  cases resolved : source.declarationOf name with
  | error failure =>
      have failed := yields_declarationOf inTree
      unfold identifierType
      rw [resolved] at failed ⊢
      exact failed
  | ok answer =>
      obtain rfl := initialised.only.eq_of_declarationOf resolved
      rw [initialised.identifierType_eq _ resolved]
      exact ofValue.map fun inferred holds => ⟨inferred, holds, rfl⟩

end Initialised

/-! ## Rings -/

/-- Variables of which each is initialised with the name of the next one, and the last one with the
name of the first one. -/
def Ring (source : Source) (length : Nat) (places : Fin (length + 1) → Place)
    (names : Fin (length + 1) → Node) : Prop :=
  ∀ position, source.Initialised (names position) (places (position + 1)) (names (position + 1))

/-- However large the budget is, it is used up on the way around the ring. -/
theorem Ring.yields_inferWithin {length : Nat} {places : Fin (length + 1) → Place}
    {names : Fin (length + 1) → Node} (ring : source.Ring length places names) (budget : Nat)
    {position : Fin (length + 1)} (inTree : name ∈ source.root.walk)
    (initialised : source.Initialised name (places position) (names position)) :
    source.Yields (· = none) (source.inferWithin budget name) := by
  induction budget generalizing name position with
  | zero => exact rfl
  | succ budget inductionHypothesis =>
      apply (initialised.yields_inferWithin inTree
        (inductionHypothesis initialised.mem_walk (ring position))).imp
      rintro _ ⟨_, rfl, rfl⟩
      exact Place.holding_none _

/-! ## Chains -/

/-- Variables of which each is initialised with the name of the next one, and the last one with a
literal: a list of their places from the name to the literal. -/
inductive Chain (source : Source) : Node → List Place → Node → Prop where
  | literal {literal : Node} (isConstant : source.IsConstant literal) :
      Chain source literal [] literal
  | next {name value literal : Node} {place : Place} {places : List Place}
      (initialised : source.Initialised name place value)
      (further : Chain source value places literal) : Chain source name (place :: places) literal

theorem Chain.isConstant (chain : source.Chain name places literal) :
    source.IsConstant literal := by
  induction chain with
  | literal isConstant => exact isConstant
  | next _ _ inductionHypothesis => exact inductionHypothesis

/-- A chain takes one step of the budget for each variable and a last one for the literal. -/
theorem Chain.yields_inferWithin (chain : source.Chain name places literal)
    (inTree : name ∈ source.root.walk) (budget : Nat) :
    source.Yields (fun answer =>
        (places.length < budget → ∃ known, source.typeAt literal = .ok known ∧
          answer = Place.holdingAll places known) ∧
        (budget ≤ places.length → answer = none))
      (source.inferWithin budget name) := by
  induction chain generalizing budget with
  | literal isConstant =>
      cases budget with
      | zero => exact ⟨fun enough => absurd enough (Nat.not_lt_zero _), fun _ => rfl⟩
      | succ budget =>
          rw [inferWithin_of_constant isConstant]
          apply (infers_inferWithin (depthLimit + 1) _ inTree).of_ok
          intro known isKnown
          exact ⟨fun _ => ⟨known, isKnown, rfl⟩, fun tooFew => absurd tooFew (Nat.not_succ_le_zero _)⟩
  | next initialised further inductionHypothesis =>
      cases budget with
      | zero => exact ⟨fun enough => absurd enough (Nat.not_lt_zero _), fun _ => rfl⟩
      | succ budget =>
          apply (initialised.yields_inferWithin inTree
            (inductionHypothesis initialised.mem_walk budget)).imp
          rintro _ ⟨inferred, ⟨within, beyond⟩, rfl⟩
          constructor
          · intro enough
            obtain ⟨known, isKnown, rfl⟩ := within (Nat.lt_of_succ_lt_succ enough)
            exact ⟨known, isKnown, Place.holding_holdingAll _ _ _⟩
          · intro tooFew
            rw [beyond (Nat.le_of_succ_le_succ tooFew)]
            exact Place.holding_none _

/-! ## The full depth -/

/-- In a tree whose literal types hold literals, every lookup of a type ends, with an answer unless a
node of the tree has no text. A literal in an annotation has the type that the expression has. Where
all texts can be read, a name of a ring is unknown, and the name at the head of a chain has the type of
the literal at its end, widened if some variable of the chain may be assigned again, exactly if the
chain is no longer than the depth limit; otherwise it is unknown. -/
theorem typeAt_of_references (holds : source.HoldsLiterals) :
    (∀ node ∈ source.root.walk, Acc source.AskedBy (.expression 0 node) ∧
        source.Yields (fun _ => True) (source.typeAt node)) ∧
      (∀ annotation ∈ source.root.walk, annotation.kind = "literal_type" →
        ∀ literal, annotation.firstNamed? = some literal →
          source.annotationType annotation =
            (source.text annotation >>= fun _ => source.typeAt literal)) ∧
      (∀ length places names, source.Ring length places names →
        ∀ use ∈ source.root.walk, ∀ position,
          source.Initialised use (places position) (names position) →
            source.Yields (· = none) (source.typeAt use)) ∧
      ∀ use ∈ source.root.walk, ∀ places literal, source.Chain use places literal →
        source.Yields (fun answer =>
            (places.length ≤ depthLimit → ∃ known, source.typeAt literal = .ok known ∧
              (literal.kind ≠ "unary_expression" → known ≠ none) ∧
              answer = Place.holdingAll places known) ∧
            (depthLimit < places.length → answer = none))
          (source.typeAt use) := by
  refine ⟨?_, ?_, ?_, ?_⟩
  · intro node inTree
    exact ⟨acc_askedBy holds inTree, (infers_inferWithin _ node inTree).imp fun _ _ => trivial⟩
  · intro annotation inTree isLiteralType literal isFirst
    exact annotationType_of_literal isLiteralType isFirst
      (holds annotation inTree isLiteralType literal isFirst)
  · intro length places names ring use inTree position initialised
    exact ring.yields_inferWithin (depthLimit + 1) inTree initialised
  · intro use inTree places literal chain
    apply (chain.yields_inferWithin inTree (depthLimit + 1)).imp
    rintro answer ⟨within, beyond⟩
    constructor
    · intro enough
      obtain ⟨known, isKnown, isAnswer⟩ := within (Nat.lt_succ_of_le enough)
      exact ⟨known, isKnown, fun noOperator =>
        known_of_constant chain.isConstant noOperator isKnown, isAnswer⟩
    · intro tooLong
      exact beyond tooLong

/-! ## A ring and a chain in one file -/

def nameAt (start : Nat) (field : String) : Node :=
  ⟨"identifier", start, start + 1, true, false, some field, []⟩

/-- The literal `1`. -/
def oneAt (start : Nat) (field : Option String) : Node :=
  ⟨"number", start, start + 1, true, false, field, []⟩

/-- A variable with a name of one character, initialised with a value of one character. -/
def bindingAt (start : Nat) (value : Node) : Node :=
  ⟨"variable_declarator", start, start + 5, true, false, none, [
    nameAt start "name",
    ⟨"=", start + 2, start + 3, false, false, none, []⟩,
    value]⟩

def tokenAt (start : Nat) (mark : String) (field : Option String) : Node :=
  ⟨mark, start, start + mark.utf8ByteSize, false, false, field, []⟩

/-- The declaration `let a = b, b = a, c = 1, d = c;`. -/
def linkedDeclaration : Node :=
  ⟨"lexical_declaration", 0, 31, true, false, none, [
    tokenAt 0 "let" (some "kind"),
    bindingAt 4 (nameAt 8 "value"), tokenAt 9 "," none,
    bindingAt 11 (nameAt 15 "value"), tokenAt 16 "," none,
    bindingAt 18 (oneAt 22 (some "value")), tokenAt 23 "," none,
    bindingAt 25 (nameAt 29 "value"), tokenAt 30 ";" none]⟩

/-- The type `1`. -/
def oneType : Node :=
  ⟨"literal_type", 39, 40, true, false, none, [oneAt 39 none]⟩

/-- The declaration `let e: 1 = d;`. -/
def annotatedDeclaration : Node :=
  ⟨"lexical_declaration", 32, 45, true, false, none, [
    tokenAt 32 "let" (some "kind"),
    ⟨"variable_declarator", 36, 44, true, false, none, [
      nameAt 36 "name",
      ⟨"type_annotation", 37, 40, true, false, some "type", [tokenAt 37 ":" none, oneType]⟩,
      tokenAt 41 "=" none,
      nameAt 43 "value"]⟩,
    tokenAt 44 ";" none]⟩

def linkedSource : Source :=
  ⟨⟨.root, ["a.ts"]⟩, Utf8.encode "let a = b, b = a, c = 1, d = c; let e: 1 = d;", .typescript,
    ⟨"program", 0, 45, true, false, none, [linkedDeclaration, annotatedDeclaration]⟩⟩

def linkedPlace (start : Nat) (value : Node) : Place :=
  ⟨bindingAt start value, [linkedDeclaration, linkedSource.root]⟩

private theorem initialised_linkedPlace {name value : Node} {start : Nat} (written : String)
    (isName : name.kind = "identifier")
    (isNamed : (linkedSource.text name).toOption = some written) (differs : written ≠ "undefined")
    (isBinding : bindingAt start value ∈ linkedDeclaration.children)
    (isSeen : (linkedSource.seen name written (linkedPlace start value)).isSome = true)
    (alone : (linkedSource.root.places.filter fun other =>
      (linkedSource.seen name written other).isSome).length = 1)
    (isValue : value.field = some "value") :
    linkedSource.Initialised name (linkedPlace start value) value := by
  have read := eq_ok_of_toOption isNamed
  have isRoot : ⟨linkedSource.root, []⟩ ∈ linkedSource.root.places := by
    rw [Node.places, Node.placesUnder_eq]
    exact List.mem_cons_self
  have isPlace : linkedPlace start value ∈ linkedSource.root.places :=
    Node.mem_places_of_child (Node.mem_places_of_child isRoot (.head _)) isBinding
  exact
    { isName := isName
      differs := by simp [read, differs]
      only := onlyVisible_of_seen read isPlace isSeen alone
      isVariable := rfl
      unannotated := by simp [linkedPlace, bindingAt, Node.child?, nameAt, isValue]
      isValue := by simp [linkedPlace, bindingAt, Node.child?, nameAt, isValue] }

/-- In `let a = b, b = a, c = 1, d = c; let e: 1 = d;` the name `a` is unknown, and `d` is a number. -/
theorem typeAt_of_references_of_linked :
    let one := oneAt 22 (some "value")
    let ring := ![linkedPlace 4 (nameAt 8 "value"), linkedPlace 11 (nameAt 15 "value")]
    let names := ![nameAt 8 "value", nameAt 15 "value"]
    let chain := [linkedPlace 25 (nameAt 29 "value"), linkedPlace 18 one]
    linkedSource.HoldsLiterals ∧ linkedSource.Ring 1 ring names ∧
      linkedSource.Initialised (nameAt 15 "value") (ring 0) (names 0) ∧
      linkedSource.Chain (nameAt 43 "value") chain one ∧
      Acc linkedSource.AskedBy (.expression 0 (nameAt 43 "value")) ∧
      linkedSource.annotationType oneType = .ok (some (.plain .numberLiteral "1")) ∧
      linkedSource.typeAt (nameAt 15 "value") = .ok none ∧
      linkedSource.typeAt (nameAt 43 "value") = .ok (some (.plain .number "number")) := by
  intro one ring names chain
  have areLiterals : ∀ annotation ∈ linkedSource.root.preorder,
      annotation.kind = "literal_type" →
        annotation.firstNamed?.all (fun literal => literal.kind ∈ literalKinds) = true := by
    decide
  have holds : linkedSource.HoldsLiterals := by
    intro annotation inTree isLiteralType literal isFirst
    rw [Node.walk_eq_preorder] at inTree
    have isLiteral := areLiterals annotation inTree isLiteralType
    rw [isFirst] at isLiteral
    exact of_decide_eq_true isLiteral
  have ofRingA : linkedSource.Initialised (nameAt 15 "value") (ring 0) (names 0) :=
    initialised_linkedPlace "a" rfl (by decide +kernel) (by decide) (.tail _ (.head _))
      (by decide +kernel) (by decide +kernel) rfl
  have ofRingB : linkedSource.Initialised (nameAt 8 "value") (ring 1) (names 1) :=
    initialised_linkedPlace "b" rfl (by decide +kernel) (by decide)
      (.tail _ (.tail _ (.tail _ (.head _)))) (by decide +kernel) (by decide +kernel) rfl
  have isRing : linkedSource.Ring 1 ring names := by
    intro position
    match position with
    | 0 => exact ofRingB
    | 1 => exact ofRingA
  have ofChainD : linkedSource.Initialised (nameAt 43 "value") (linkedPlace 25 (nameAt 29 "value"))
      (nameAt 29 "value") :=
    initialised_linkedPlace "d" rfl (by decide +kernel) (by decide)
      (.tail _ (.tail _ (.tail _ (.tail _ (.tail _ (.tail _ (.tail _ (.head _))))))))
      (by decide +kernel) (by decide +kernel) rfl
  have ofChainC : linkedSource.Initialised (nameAt 29 "value") (linkedPlace 18 one) one :=
    initialised_linkedPlace "c" rfl (by decide +kernel) (by decide)
      (.tail _ (.tail _ (.tail _ (.tail _ (.tail _ (.head _)))))) (by decide +kernel)
      (by decide +kernel) rfl
  have isChain : linkedSource.Chain (nameAt 43 "value") chain one :=
    .next ofChainD (.next ofChainC (.literal (.inl (by decide))))
  have useInTree : nameAt 43 "value" ∈ linkedSource.root.walk :=
    Node.mem_walk_of_child (.tail _ (.head _)) (Node.mem_walk_of_child (.tail _ (.head _))
      (Node.mem_walk_of_child (.tail _ (.tail _ (.tail _ (.head _)))) (Node.mem_walk_self _)))
  have typeInTree : oneType ∈ linkedSource.root.walk :=
    Node.mem_walk_of_child (.tail _ (.head _)) (Node.mem_walk_of_child (.tail _ (.head _))
      (Node.mem_walk_of_child (.tail _ (.head _))
        (Node.mem_walk_of_child (.tail _ (.head _)) (Node.mem_walk_self _))))
  obtain ⟨lookups, restarts, rings, chains⟩ := typeAt_of_references holds
  have isUnknown := rings 1 ring names isRing (nameAt 15 "value") ofRingB.mem_walk 0 ofRingA
  have isFollowed := chains (nameAt 43 "value") useInTree chain one isChain
  refine ⟨holds, isRing, ofRingA, isChain, (lookups _ useInTree).1, ?_, ?_, ?_⟩
  · rw [restarts oneType typeInTree rfl (oneAt 39 none) rfl]
    exact eq_ok_of_toOption (by decide +kernel)
  · obtain ⟨answer, answered⟩ : ∃ answer, linkedSource.typeAt (nameAt 15 "value") = .ok answer :=
      exists_of_isOk (by decide +kernel)
    rw [answered] at isUnknown ⊢
    rw [show answer = none from isUnknown]
  · obtain ⟨answer, answered⟩ : ∃ answer, linkedSource.typeAt (nameAt 43 "value") = .ok answer :=
      exists_of_isOk (by decide +kernel)
    have ofOne : linkedSource.typeAt one = .ok (some (.plain .numberLiteral "1")) :=
      eq_ok_of_toOption (by decide +kernel)
    rw [answered] at isFollowed ⊢
    obtain ⟨known, isKnown, _, rfl⟩ := isFollowed.1 (by decide)
    rw [ofOne] at isKnown
    cases isKnown
    decide

end Source

end ImportBoundary
