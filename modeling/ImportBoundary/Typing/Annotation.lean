import ImportBoundary.Typing.Info
import ImportBoundary.Syntax.Source

/-!
Contract: the types that annotations and literals write.

Owns `Source.literalType`, for the expressions that are a type by themselves, and
`Source.annotationType`, which reads a type annotation. An annotation of any other shape is unknown.
-/

namespace ImportBoundary

def elementType : TypeInfo := TypeInfo.object "JSX.Element" "JSXElement"

def elementTypeNames : List String :=
  ["JSX.Element", "React.JSX.Element", "ReactElement", "React.ReactElement"]

/-- The part of a dotted name after its last dot. -/
def lastSegment (name : String) : String :=
  String.ofList (name.toList.reverse.takeWhile (· ≠ '.')).reverse

def unaryType (operator : String) : Option TypeInfo :=
  if operator = "!" then TypeInfo.ofName? "boolean"
  else if operator = "typeof" then TypeInfo.ofName? "string"
  else if operator = "-" ∨ operator = "+" ∨ operator = "~" then TypeInfo.ofName? "number"
  else if operator = "void" then TypeInfo.ofName? "undefined"
  else none

/-- The type that an annotation gives by name: a known type, or an object type with the last part
of the name as its symbol. -/
def namedType (name text : String) : TypeInfo :=
  if elementTypeNames.contains name then elementType
  else (TypeInfo.ofName? name).getD (TypeInfo.object text (lastSegment name))

/-- The child behind the colon of an annotation; any other node stands for itself. -/
def Node.behindColon? (node : Option Node) : Option Node :=
  node.bind fun present =>
    if present.kind == "type_annotation" then present.firstNamed? else some present

namespace Source

/-- The text of the operator of an expression, or nothing. -/
def operatorText (source : Source) (node : Node) : Except Failure String := do
  let operator ← source.text? (node.child? "operator")
  .ok (operator.getD "")

def literalType (source : Source) (node : Node) (text : String) :
    Except Failure (Option TypeInfo) :=
  if node.kind == "number" then
    .ok (some (TypeInfo.plain
      (if text.toList.getLast? = some 'n' then .bigintLiteral else .numberLiteral) text))
  else if node.kind == "string" then .ok (some (TypeInfo.plain .stringLiteral text))
  else if node.kind == "true" || node.kind == "false" then
    .ok (some (TypeInfo.plain .booleanLiteral text))
  else if node.kind == "null" then .ok (TypeInfo.ofName? "null")
  else if node.kind == "undefined" then .ok (TypeInfo.ofName? "undefined")
  else if node.kind == "unary_expression" then (source.operatorText node).map unaryType
  else .ok none

def annotationName (source : Source) (node : Node) (text : String) :
    Except Failure (Option TypeInfo) := do
  let name ← if node.kind == "generic_type" then source.text? (node.child? "name")
    else .ok (some text)
  .ok (some (namedType (name.getD text) text))

/-- The type of an annotation that is no wrapper around another, from its text. The grammar lets a
literal type hold a number, which may have a sign, a text, `true`, `false`, `null` or `undefined`, and
nothing else. Each of these has its type by itself: it names nothing and has no part whose type is
asked for, so that inferring its type as that of an expression, with whatever budget, answers the
same. -/
def bareAnnotation (source : Source) (node : Node) (text : String) :
    Except Failure (Option TypeInfo) :=
  if node.kind == "predefined_type" then .ok (TypeInfo.ofName? text)
  else if node.kind == "literal_type" then
    match node.firstNamed? with
    | none => .ok none
    | some literal => do
      let literalText ← source.text literal
      source.literalType literal literalText
  else if node.kind == "array_type" || node.kind == "tuple_type" then
    .ok (some (TypeInfo.object text "Array"))
  else if node.kind == "function_type" then .ok (some (TypeInfo.callable text))
  else if node.kind == "object_type" then .ok (some (TypeInfo.plain .object text))
  else if node.kind == "union_type" then .ok (some (TypeInfo.plain .union text))
  else if node.kind == "type_identifier" || node.kind == "nested_type_identifier" ||
      node.kind == "generic_type" then
    source.annotationName node text
  else .ok none

mutual

/-- The type that an annotation writes. Parentheses and `readonly` add nothing. -/
def annotationType (source : Source) : Node → Except Failure (Option TypeInfo)
  | ⟨kind, start, stop, named, missing, field, children⟩ => do
    let node : Node := ⟨kind, start, stop, named, missing, field, children⟩
    let text ← source.text node
    if kind == "parenthesized_type" || kind == "readonly_type" then
      annotationOfFirst source children
    else source.bareAnnotation node text

/-- The type that the first named one of some children writes. -/
def annotationOfFirst (source : Source) : List Node → Except Failure (Option TypeInfo)
  | [] => .ok none
  | child :: rest => if child.named then annotationType source child else annotationOfFirst source rest

end

def annotationType? (source : Source) (node : Option Node) : Except Failure (Option TypeInfo) :=
  match node with
  | none => .ok none
  | some annotation => source.annotationType annotation

end Source

end ImportBoundary
