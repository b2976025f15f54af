import ImportBoundary.Syntax.Source

/-!
Contract: which declaration a name refers to.

Owns the kinds of declarations and scopes, the scope of a declaration, and
`Source.declarationOf`, the declaration that an identifier means.

Main definitions to reason with: `Place.bindingName?` is the name node of a declaration,
`Place.scope?` the node within which it is visible, and `choose` picks from the visible declarations,
given in document order with their scopes.
-/

namespace ImportBoundary

def functionExpressionKinds : List String :=
  ["arrow_function", "function_expression", "function", "generator_function"]

def functionDeclarationKinds : List String :=
  ["function_declaration", "generator_function_declaration"]

def classDeclarationKinds : List String :=
  ["class_declaration", "abstract_class_declaration"]

/-- Parameters that can carry a type. -/
def parameterKinds : List String :=
  ["required_parameter", "optional_parameter"]

/-- The nodes that bound the scope of a parameter or a function-wide variable. -/
def functionScopeKinds : List String :=
  functionExpressionKinds ++ functionDeclarationKinds ++ ["method_definition", "program"]

/-- The nodes that bound the scope of every other declaration. -/
def blockScopeKinds : List String :=
  ["statement_block", "program", "for_statement", "for_in_statement"]

namespace Place

def parent? (place : Place) : Option Node :=
  place.above.head?

/-- The nearest node above of one of some kinds. -/
def enclosing? (place : Place) (kinds : List String) : Option Node :=
  place.above.find? fun node => kinds.contains node.kind

/-- The node with the name that a declaration binds, if the node is a declaration that binds a
plain name. -/
def bindingName? (place : Place) : Option Node :=
  let kind := place.node.kind
  if kind == "variable_declarator" || functionDeclarationKinds.contains kind then
    (place.node.child? "name").filter fun name => name.kind == "identifier"
  else if classDeclarationKinds.contains kind then
    (place.node.child? "name").filter fun name =>
      name.kind == "type_identifier" || name.kind == "identifier"
  else if parameterKinds.contains kind then
    (place.node.child? "pattern").filter fun name => name.kind == "identifier"
  else none

/-- Whether the declaration declares function-wide variables. -/
def isFunctionWide (place : Place) : Bool :=
  place.node.kind == "variable_declarator" &&
    place.parent?.any fun parent => parent.kind == "variable_declaration"

/-- The node within whose range the binding of a declaration is visible. -/
def scope? (place : Place) : Option Node :=
  if parameterKinds.contains place.node.kind || place.isFunctionWide then
    place.enclosing? functionScopeKinds
  else place.enclosing? blockScopeKinds

/-- Whether the variable of a declaration may be assigned again. -/
def isMutable (place : Place) : Bool :=
  match place.parent? with
  | none => false
  | some parent =>
    parent.kind == "variable_declaration" ||
      (parent.kind == "lexical_declaration" &&
        (parent.child? "kind").any fun keyword => keyword.kind == "let")

end Place

namespace Source

/-- The scope and the place of a declaration of this name that is visible at an identifier, if the
place is one. A declaration is not visible at its own name. -/
def visible? (source : Source) (identifier : Node) (name : String) (place : Place) :
    Except Failure (Option (Node × Place)) :=
  match place.bindingName? with
  | none => .ok none
  | some target => do
    let bound ← source.text target
    if bound ≠ name ∨ target.start = identifier.start then .ok none
    else
      .ok ((place.scope?.filter fun scope => scope.encloses identifier).map fun scope =>
        (scope, place))

/-- Of visible declarations in document order: among those with the smallest scope, the last one
that begins before the identifier, or else the first one. -/
def choose (identifier : Node) (candidates : List (Node × Place)) : Option Place :=
  match (candidates.map fun candidate => candidate.1.extent).min? with
  | none => none
  | some smallest =>
    let innermost :=
      (candidates.filter fun candidate => candidate.1.extent = smallest).map Prod.snd
    match (innermost.filter fun place => place.node.start < identifier.start).getLast? with
    | some latest => some latest
    | none => innermost.head?

def declarationOf (source : Source) (identifier : Node) : Except Failure (Option Place) := do
  let name ← source.text identifier
  let candidates ← gather (source.visible? identifier name) source.root.places
  .ok (choose identifier candidates)

end Source

end ImportBoundary
