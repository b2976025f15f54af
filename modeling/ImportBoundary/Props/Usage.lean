import ImportBoundary.Import.Marked

/-!
Contract: the elements that use a marked import, and the props they are given.

Owns `Source.usagesOf`, the elements whose tag is a name that the import binds or a member of its
namespace, in document order, and `propOf?`, the name and value of a prop that is given an
expression.
-/

namespace ImportBoundary

/-- The elements that have a tag. -/
def taggedKinds : List String := ["jsx_element", "jsx_self_closing_element"]

namespace Node

/-- The part of an element that holds its tag and its props. -/
def opening? (element : Node) : Option Node :=
  if element.kind == "jsx_self_closing_element" then some element
  else element.firstOfKind? "jsx_opening_element"

def tag? (element : Node) : Option Node :=
  element.opening?.bind (·.child? "name")

/-- The name and the value of a prop that is given an expression. A prop that is given text,
nothing, or a spread has neither. -/
def propOf? (prop : Node) : Option (Node × Node) :=
  match prop.namedContent with
  | name :: second :: rest =>
    match (second :: rest).getLast? with
    | some last =>
      if last.kind == "jsx_expression" then
        (last.namedContent.head?.filter fun value => value.kind != "spread_element").map
          fun value => (name, value)
      else none
    | none => none
  | _ => none

end Node

def ImportParts.bindsTag (parts : ImportParts) (tag : String) : Bool :=
  parts.localNames.contains tag ||
    parts.namespaceName.any fun name => (name ++ ".").toList.isPrefixOf tag.toList

namespace Source

/-- The element itself, if it uses the import. -/
def usage? (source : Source) (parts : ImportParts) (element : Node) :
    Except Failure (Option Node) :=
  if !taggedKinds.contains element.kind then .ok none
  else
    match element.tag? with
    | none => .ok none
    | some tag => do
      let name ← source.text tag
      .ok (if parts.bindsTag name then some element else none)

/-- The elements that use an import, in document order. -/
def usagesOf (source : Source) (parts : ImportParts) : Except Failure (List Node) :=
  gather (source.usage? parts) source.root.walk

end Source

end ImportBoundary
