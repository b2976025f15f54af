import ImportBoundary.Proofs.Typing.Resolution

/-!
Contract: how far the name of a typed parameter reaches.

Owns whose parameter a place is, and the scope of a parameter by its owner.

Main statement: `declarationOf_within_owner`. The owner of a parameter need not be a function with a
body: function types and the signatures of methods, calls and overloads own parameters as well. These
are not among `functionScopeKinds`, so their parameters reach as far as the function around them does.
-/

namespace ImportBoundary

/-- Whether a node bounds the scope of a parameter. -/
def Node.isFunctionScope (node : Node) : Bool :=
  functionScopeKinds.contains node.kind

namespace Place

/-- The owner of a typed parameter, which is the parent of the list that the parameter stands in, and
the nodes above the owner. -/
def owner? (place : Place) : Option (Node × List Node) :=
  match place.above with
  | list :: owner :: beyond =>
    if parameterKinds.contains place.node.kind && list.kind == "formal_parameters" then
      some (owner, beyond)
    else none
  | _ => none

variable {place : Place} {owner : Node} {beyond : List Node}

private theorem owner?_eq_some_iff :
    place.owner? = some (owner, beyond) ↔ parameterKinds.contains place.node.kind = true ∧
      ∃ list, list.kind = "formal_parameters" ∧ place.above = list :: owner :: beyond := by
  unfold owner?
  split
  · rename_i list parent upper above
    simp only [Option.ite_none_right_eq_some, Option.some.injEq, Prod.mk.injEq, Bool.and_eq_true,
      beq_iff_eq, List.cons.injEq, above]
    constructor
    · rintro ⟨⟨isTyped, isList⟩, rfl, rfl⟩
      exact ⟨isTyped, list, isList, rfl, rfl, rfl⟩
    · rintro ⟨isTyped, _, isList, rfl, rfl, rfl⟩
      exact ⟨⟨isTyped, isList⟩, rfl, rfl⟩
  · rename_i tooShort
    constructor
    · intro impossible
      cases impossible
    · rintro ⟨_, list, _, above⟩
      exact absurd above (tooShort list owner beyond)

/-- The scope of a parameter is looked for from its owner on: a parameter list is no scope itself. -/
theorem scope?_of_owner? (isOwned : place.owner? = some (owner, beyond)) :
    place.scope? = (owner :: beyond).find? Node.isFunctionScope := by
  obtain ⟨isTyped, list, isList, above⟩ := owner?_eq_some_iff.mp isOwned
  have isParameter : (parameterKinds.contains place.node.kind || place.isFunctionWide) = true := by
    rw [isTyped, Bool.true_or]
  have noScope : list.isFunctionScope = false := by
    rw [Node.isFunctionScope, isList]
    decide
  calc place.scope?
      = place.enclosing? functionScopeKinds := if_pos isParameter
    _ = (list :: owner :: beyond).find? Node.isFunctionScope := by rw [← above]; rfl
    _ = (owner :: beyond).find? Node.isFunctionScope := by rw [List.find?_cons, noScope]

end Place

namespace Source

variable {source : Source} {identifier owner : Node} {beyond : List Node} {place : Place}

/-- An identifier that is resolved to a typed parameter lies within the function that owns it. Only
where the owner bounds no scope, as a signature does not, it lies within the nearest function around
the owner, or anywhere in the file if there is none. -/
theorem declarationOf_within_owner (isOwned : place.owner? = some (owner, beyond))
    (answered : source.declarationOf identifier = .ok (some place)) :
    (owner.isFunctionScope = true → owner.encloses identifier = true) ∧
      (owner.isFunctionScope = false →
        ∃ scope, beyond.find? Node.isFunctionScope = some scope ∧
          scope.encloses identifier = true) := by
  obtain ⟨_, scope, isVisible⟩ := visible_of_declarationOf answered
  have isScope : (owner :: beyond).find? Node.isFunctionScope = some scope :=
    (Place.scope?_of_owner? isOwned).symm.trans isVisible.isScope
  rw [List.find?_cons] at isScope
  constructor
  · intro isFunction
    rw [isFunction] at isScope
    cases isScope
    exact isVisible.encloses
  · intro noFunction
    rw [noFunction] at isScope
    exact ⟨scope, isScope, isVisible.encloses⟩

/-- The types and signatures that own parameters bound no scope. -/
example : ∀ kind ∈ ["function_type", "constructor_type", "function_signature", "method_signature",
    "abstract_method_signature", "call_signature", "construct_signature"],
    functionScopeKinds.contains kind = false := by
  decide

/-- An answer is a typed parameter if an owner of it can be computed. -/
private theorem exists_owner (source : Source) (identifier : Node) {α : Type} (tell : Node → α)
    (told : α) (isOk : (source.declarationOf identifier).isOk = true)
    (owned : ∀ answer, source.declarationOf identifier = .ok answer →
      (answer.bind Place.owner?).map (fun found => tell found.1) = some told) :
    ∃ place owner beyond, source.declarationOf identifier = .ok (some place) ∧
      place.owner? = some (owner, beyond) ∧ tell owner = told := by
  obtain ⟨answer, answered⟩ := exists_of_isOk isOk
  obtain ⟨⟨owner, beyond⟩, isFound, isTold⟩ := Option.map_eq_some_iff.mp (owned answer answered)
  obtain ⟨place, rfl, isOwned⟩ := Option.bind_eq_some_iff.mp isFound
  exact ⟨place, owner, beyond, answered, isOwned, isTold⟩

/-- The parameter list `(b: D)`. -/
def parameterList (start : Nat) : Node :=
  ⟨"formal_parameters", start, start + 6, true, false, some "parameters", [
    ⟨"(", start, start + 1, false, false, none, []⟩,
    ⟨"required_parameter", start + 1, start + 5, true, false, none, [
      ⟨"identifier", start + 1, start + 2, true, false, some "pattern", []⟩,
      ⟨"type_annotation", start + 2, start + 5, true, false, some "type", [
        ⟨":", start + 2, start + 3, false, false, none, []⟩,
        ⟨"type_identifier", start + 4, start + 5, true, false, none, []⟩]⟩]⟩,
    ⟨")", start + 5, start + 6, false, false, none, []⟩]⟩

/-- A function that answers its parameter. -/
def functionSource : Source :=
  ⟨⟨.root, ["a.tsx"]⟩, Utf8.encode "(b: D) => b;", .tsx,
    ⟨"program", 0, 12, true, false, none, [
      ⟨"expression_statement", 0, 12, true, false, none, [
        ⟨"arrow_function", 0, 11, true, false, none, [
          parameterList 0,
          ⟨"=>", 7, 9, false, false, none, []⟩,
          ⟨"identifier", 10, 11, true, false, some "body", []⟩]⟩,
        ⟨";", 11, 12, false, false, none, []⟩]⟩]⟩⟩

/-- The use of a name behind a function without a body that has a parameter of this name. -/
def useStatement : Node :=
  ⟨"expression_statement", 32, 34, true, false, none, [
    ⟨"identifier", 32, 33, true, false, none, []⟩,
    ⟨";", 33, 34, false, false, none, []⟩]⟩

def signatureSource : Source :=
  ⟨⟨.root, ["a.tsx"]⟩, Utf8.encode "declare function g(b: D): void; b;", .tsx,
    ⟨"program", 0, 34, true, false, none, [
      ⟨"ambient_declaration", 0, 31, true, false, none, [
        ⟨"declare", 0, 7, false, false, none, []⟩,
        ⟨"function_signature", 8, 31, true, false, none, [
          ⟨"function", 8, 16, false, false, none, []⟩,
          ⟨"identifier", 17, 18, true, false, some "name", []⟩,
          parameterList 18,
          ⟨"type_annotation", 24, 30, true, false, some "return_type", [
            ⟨":", 24, 25, false, false, none, []⟩,
            ⟨"predefined_type", 26, 30, true, false, none, [
              ⟨"void", 26, 30, false, false, none, []⟩]⟩]⟩,
          ⟨";", 30, 31, false, false, none, []⟩]⟩]⟩,
      useStatement]⟩⟩

/-- The parameter of a function is met within the function, the one of a signature within the file. -/
theorem declarationOf_within_owner_of_both :
    let body : Node := ⟨"identifier", 10, 11, true, false, some "body", []⟩
    let use : Node := ⟨"identifier", 32, 33, true, false, none, []⟩
    (∃ place owner beyond, functionSource.declarationOf body = .ok (some place) ∧
      place.owner? = some (owner, beyond) ∧ owner.kind = "arrow_function" ∧
        owner.encloses body = true) ∧
      ∃ place owner beyond, signatureSource.declarationOf use = .ok (some place) ∧
        place.owner? = some (owner, beyond) ∧ owner.kind = "function_signature" ∧
          ∃ scope, beyond.find? Node.isFunctionScope = some scope ∧ scope.encloses use = true := by
  intro body use
  constructor
  · obtain ⟨place, owner, beyond, answered, isOwned, isArrow⟩ :=
      exists_owner functionSource body Node.kind "arrow_function" (by decide +kernel)
        (by decide +kernel)
    have isFunction : owner.isFunctionScope = true := by
      rw [Node.isFunctionScope, isArrow]
      decide
    have within := (declarationOf_within_owner isOwned answered).1 isFunction
    exact ⟨place, owner, beyond, answered, isOwned, isArrow, within⟩
  · obtain ⟨place, owner, beyond, answered, isOwned, isSignature⟩ :=
      exists_owner signatureSource use Node.kind "function_signature" (by decide +kernel)
        (by decide +kernel)
    have noFunction : owner.isFunctionScope = false := by
      rw [Node.isFunctionScope, isSignature]
      decide
    have within := (declarationOf_within_owner isOwned answered).2 noFunction
    exact ⟨place, owner, beyond, answered, isOwned, isSignature, within⟩

/-- The use behind the signature is resolved to the parameter within. -/
theorem parameter_escapes_signature :
    let identifier : Node := ⟨"identifier", 32, 33, true, false, none, []⟩
    signatureSource.root.WellFormed ∧ identifier ∈ signatureSource.root.walk ∧
      ∃ place owner beyond, signatureSource.declarationOf identifier = .ok (some place) ∧
        place.owner? = some (owner, beyond) ∧ owner.kind = "function_signature" ∧
          owner.encloses identifier = false := by
  intro identifier
  have wellFormed : signatureSource.root.WellFormed := by decide +kernel
  have isUsed : identifier ∈ signatureSource.root.walk := by
    have isStatement : useStatement ∈ signatureSource.root.children := .tail _ (.head _)
    refine Node.mem_walk_of_child isStatement ?_
    exact Node.mem_walk_of_child (.head _) (Node.mem_walk_self identifier)
  obtain ⟨place, owner, beyond, answered, isOwned, isTold⟩ :=
    exists_owner signatureSource identifier (fun owner => (owner.kind, owner.encloses identifier))
      ("function_signature", false) (by decide +kernel) (by decide +kernel)
  obtain ⟨isSignature, outside⟩ := Prod.mk.inj isTold
  exact ⟨wellFormed, isUsed, place, owner, beyond, answered, isOwned, isSignature, outside⟩

end Source

end ImportBoundary
