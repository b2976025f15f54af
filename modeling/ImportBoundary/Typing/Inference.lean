import ImportBoundary.Typing.Scope
import ImportBoundary.Typing.Annotation

/-!
Contract: the type of an expression, read off its syntax and the declarations of its file.

Owns `Source.inferWithin`, which infers with a budget of steps into parts and declarations, and
`Source.typeAt`, which starts with the full budget. Imports, member accesses and awaited values are
unknown, and so is whatever lies deeper than the budget reaches.

Main definition to reason with: `inferWithin` is one case for each kind of expression; each case is a
definition of its own that takes the inference of its parts as a parameter.
-/

namespace ImportBoundary

abbrev Inference := Node → Except Failure (Option TypeInfo)

/-- The operators that compare. -/
def comparisonOperators : List String :=
  ["===", "!==", "==", "!=", "<", ">", "<=", ">=", "instanceof", "in"]

/-- The operators that yield a number whatever they are applied to. -/
def arithmeticOperators : List String :=
  ["-", "*", "/", "%", "**", "|", "&", "^", "<<", ">>", ">>>"]

def promiseFunctions : List String :=
  ["Promise.resolve", "Promise.reject", "Promise.all", "Promise.allSettled", "fetch"]

/-- The functions that yield a value of a primitive type, with the name of that type. -/
def primitiveFunctions : List (String × String) :=
  [("String", "string"), ("Number", "number"), ("Boolean", "boolean"), ("BigInt", "bigint")]

def symbolFunctions : List String := ["Symbol", "Symbol.for"]

/-- The element expressions. -/
def elementKinds : List String := ["jsx_element", "jsx_self_closing_element", "jsx_fragment"]

/-- The expressions that have the type of the expression within. -/
def wrapperKinds : List String :=
  ["parenthesized_expression", "non_null_expression", "satisfies_expression"]

/-- The text of a type that may be unknown. -/
def displayOrAny (info : Option TypeInfo) : String :=
  match info with
  | some known => known.display
  | none => "any"

namespace Source

/-- The type of a function by its parameters and its result. A function without annotated result
yields nothing if its body is a block, and anything if it is an expression. -/
def functionType (source : Source) (node : Node) : Except Failure TypeInfo := do
  let parameters ← match node.child? "parameters" with
    | some parameters => source.text parameters
    | none =>
      match node.child? "parameter" with
      | some single => do
        let name ← source.text single
        .ok ("(" ++ name ++ ")")
      | none => .ok "()"
  let result ← match Node.behindColon? (node.child? "return_type") with
    | some annotation => source.text annotation
    | none =>
      match node.child? "body" with
      | none => .ok "void"
      | some body => .ok (if body.kind == "statement_block" then "void" else "any")
  .ok (TypeInfo.callable (parameters ++ " => " ++ result))

def classType (source : Source) (node : Node) : Except Failure TypeInfo := do
  let name ← source.text? (node.child? "name")
  let className := name.getD "(Anonymous class)"
  .ok (TypeInfo.object ("typeof " ++ className) className)

/-- The type that an identifier has by its declaration; an initial value is inferred by `infer`. -/
def identifierType (source : Source) (infer : Inference) (identifier : Node) :
    Except Failure (Option TypeInfo) := do
  match ← source.declarationOf identifier with
  | none => .ok none
  | some place =>
    let declaration := place.node
    if functionDeclarationKinds.contains declaration.kind then
      (source.functionType declaration).map some
    else if classDeclarationKinds.contains declaration.kind then
      let name ← source.text identifier
      .ok (some (TypeInfo.object ("typeof " ++ name) name))
    else
      match Node.behindColon? (declaration.child? "type") with
      | some annotation => source.annotationType annotation
      | none =>
        if declaration.kind == "variable_declarator" then
          match declaration.child? "value" with
          | none => .ok none
          | some value =>
            let inferred ← infer value
            .ok (if place.isMutable then inferred.map TypeInfo.widen else inferred)
        else .ok none

/-- The text of one member of an object expression, unless the child writes no member. -/
def memberText (source : Source) (infer inferShorthand : Inference) (child : Node) :
    Except Failure (Option String) :=
  if child.kind == "pair" then do
    let valueType ← match child.child? "value" with
      | some value => infer value
      | none => .ok none
    let key ← source.text? (child.child? "key")
    .ok (some (key.getD "?" ++ ": " ++ displayOrAny valueType ++ ";"))
  else if child.kind == "shorthand_property_identifier" then do
    let valueType ← inferShorthand child
    let name ← source.text child
    .ok (some (name ++ ": " ++ displayOrAny valueType ++ ";"))
  else if child.kind == "method_definition" then do
    let name ← source.text? (child.child? "name")
    .ok (some (name.getD "?" ++ "(): any;"))
  else .ok none

/-- The type of an object expression: an object without a symbol. -/
def objectType (source : Source) (infer inferShorthand : Inference) (node : Node) :
    Except Failure TypeInfo := do
  let members ← gather (source.memberText infer inferShorthand) node.namedChildren
  .ok (TypeInfo.plain .object
    (if members.isEmpty then "\x7b\x7d"
      else "\x7b " ++ String.intercalate " " members ++ " \x7d"))

/-- The type of an array expression by its first element. -/
def arrayType (infer : Inference) (node : Node) : Except Failure TypeInfo :=
  match node.namedContent with
  | [] => .ok (TypeInfo.object "never[]" "Array")
  | first :: _ => do
    let element ← infer first
    .ok (TypeInfo.object (displayOrAny (element.map TypeInfo.widen) ++ "[]") "Array")

/-- The type that a constructor call yields: an object with the constructor's name as its symbol. -/
def constructedType (source : Source) (node : Node) : Except Failure (Option TypeInfo) :=
  match node.child? "constructor" with
  | none => .ok none
  | some constructorNode => do
    let name ← match ← source.memberParts constructorNode with
      | some (_, member) => .ok member
      | none => source.text constructorNode
    let arguments ← source.text? (node.child? "type_arguments")
    .ok (some (TypeInfo.object (name ++ arguments.getD "") name))

/-- The type that a call yields: known by the text of the function, or by the annotated result of
the function declaration that it names. -/
def callType (source : Source) (node : Node) : Except Failure (Option TypeInfo) :=
  match node.child? "function" with
  | none => .ok none
  | some function => do
    let callee ← source.text function
    if symbolFunctions.contains callee then .ok (TypeInfo.ofName? "symbol")
    else
      match primitiveFunctions.lookup callee with
      | some primitive => .ok (TypeInfo.ofName? primitive)
      | none =>
        if promiseFunctions.contains callee then
          .ok (some (TypeInfo.object "Promise<any>" "Promise"))
        else if function.kind != "identifier" then .ok none
        else
          match ← source.declarationOf function with
          | none => .ok none
          | some place =>
            if functionDeclarationKinds.contains place.node.kind then
              source.annotationType? (Node.behindColon? (place.node.child? "return_type"))
            else .ok none

/-- The type of a sum: a text if an operand is one, a number if both are. -/
def sumType (left right : Option TypeInfo) : Option TypeInfo :=
  let isText := fun (info : TypeInfo) => info.flags.hasAny [.string, .stringLiteral]
  let isNumber := fun (info : TypeInfo) => info.flags.hasAny [.number, .numberLiteral]
  if left.any isText || right.any isText then TypeInfo.ofName? "string"
  else if left.any isNumber && right.any isNumber then TypeInfo.ofName? "number"
  else none

/-- The type of a binary expression by its operator. -/
def binaryType (source : Source) (infer : Inference) (node : Node) :
    Except Failure (Option TypeInfo) := do
  let operator ← source.operatorText node
  if comparisonOperators.contains operator then .ok (TypeInfo.ofName? "boolean")
  else if arithmeticOperators.contains operator then .ok (TypeInfo.ofName? "number")
  else if operator ≠ "+" then .ok none
  else
    let left ← match node.child? "left" with
      | some operand => infer operand
      | none => .ok none
    let right ← match node.child? "right" with
      | some operand => infer operand
      | none => .ok none
    .ok (sumType left right)

/-- The type of an assertion `value as Type`; `as const` keeps the type of the value. -/
def assertedType (source : Source) (infer : Inference) (node : Node) :
    Except Failure (Option TypeInfo) :=
  match node.namedChildren with
  | [_, annotation] => source.annotationType annotation
  | value :: _ => infer value
  | [] => .ok none

/-- The type of an expression of the given text, where `infer` answers for its parts and for the
values of the names in it, and `inferDeeper` for the values of the names that stand for themselves
in an object. -/
def expressionType (source : Source) (infer inferDeeper : Inference) (node : Node)
    (text : String) : Except Failure (Option TypeInfo) :=
  let kind := node.kind
  if kind == "template_string" then .ok (TypeInfo.ofName? "string")
  else if kind == "identifier" && text == "undefined" then .ok (TypeInfo.ofName? "undefined")
  else if kind == "regex" then .ok (some (TypeInfo.object "RegExp" "RegExp"))
  else if elementKinds.contains kind then .ok (some elementType)
  else if functionExpressionKinds.contains kind then (source.functionType node).map some
  else if kind == "class" then (source.classType node).map some
  else if kind == "object" then
    (source.objectType infer (source.identifierType inferDeeper) node).map some
  else if kind == "array" then (arrayType infer node).map some
  else if kind == "new_expression" then source.constructedType node
  else if kind == "call_expression" then source.callType node
  else if wrapperKinds.contains kind then
    match node.firstNamed? with
    | some inner => infer inner
    | none => .ok none
  else if kind == "as_expression" then source.assertedType infer node
  else if kind == "binary_expression" then source.binaryType infer node
  else if kind == "identifier" then source.identifierType infer node
  else source.literalType node text

/-- The type of an expression as far as a budget of steps tells. -/
def inferWithin (source : Source) : Nat → Inference
  | 0, _ => .ok none
  | 1, node => do
    let text ← source.text node
    source.expressionType (fun _ => .ok none) (fun _ => .ok none) node text
  | budget + 2, node => do
    let text ← source.text node
    source.expressionType (inferWithin source (budget + 1)) (inferWithin source budget) node text

/-- How many steps into parts and declarations an inference may take. -/
def depthLimit : Nat := 8

/-- The type of an expression. -/
def typeAt (source : Source) (node : Node) : Except Failure (Option TypeInfo) :=
  source.inferWithin (depthLimit + 1) node

end Source

/-- A way to look up the type of an expression: known, unknown, or a failure. -/
abbrev TypeLookup := Source → Node → Except Failure (Option TypeInfo)

end ImportBoundary
