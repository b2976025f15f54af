import ImportBoundary.Props.Usage
import ImportBoundary.Typing.Inference
import ImportBoundary.Diagnostic

/-!
Contract: the props of a source that may not cross to the client.

Owns `Source.analyze`, one finding for each such prop, by import, then by element, then by prop. A
lookup that fails, or knows nothing, passes over its prop and nothing else.
-/

namespace ImportBoundary

/-- The number of findings about props. -/
def propCode : Int := 100001

/-- Where to read on. -/
def learnMoreAddress : String := "https://react.dev/reference/rsc/use-client#serializable-types"

/-- What a function prop may have been meant to be. -/
def actionHint : String := " Did you forget to suffix a server action prop with \"Action\"?"

/-- The text of a finding about a prop. -/
def propMessage (prop : String) (info : TypeInfo) : String :=
  "Non-serializable prop '" ++ prop ++ "' of type '" ++ info.display ++ "'." ++
    (if info.calls ≠ 0 then actionHint else "") ++ "\n\nLearn more: " ++ learnMoreAddress

namespace Source

/-- The finding about one prop, if there is one. -/
def propDiagnostic? (source : Source) (lookup : TypeLookup) (prop : Node) :
    Except Failure (Option Diagnostic) :=
  if prop.kind != "jsx_attribute" then .ok none
  else
    match prop.propOf? with
    | none => .ok none
    | some (nameNode, value) => do
      let name ← source.text nameNode
      match lookup source value with
      | .error _ => .ok none
      | .ok none => .ok none
      | .ok (some info) =>
        let text ← source.text value
        .ok ((rejection? name info text).map fun reason =>
          Diagnostic.atNode source prop propCode (propMessage name info) (some reason))

/-- The findings about the props of an element. -/
def elementDiagnostics (source : Source) (lookup : TypeLookup) (element : Node) :
    Except Failure (List Diagnostic) :=
  match element.opening? with
  | none => .ok []
  | some opening => gather (source.propDiagnostic? lookup) opening.namedChildren

/-- The findings about the elements that use an import. -/
def importDiagnostics (source : Source) (lookup : TypeLookup) (marked : MarkedImport) :
    Except Failure (List Diagnostic) := do
  let usages ← source.usagesOf marked.parts
  let findings ← usages.mapM (source.elementDiagnostics lookup)
  .ok findings.flatten

/-- The findings about all props that may not cross. -/
def analyze (source : Source) (lookup : TypeLookup) : Except Failure (List Diagnostic) := do
  let marked ← source.markedImports
  let findings ← marked.mapM (source.importDiagnostics lookup)
  .ok findings.flatten

end Source

/-- The findings of another service about a file, followed by those about its props. Without a
source or a lookup, or if the analysis fails, only the former. -/
def withPropDiagnostics (prior : List Diagnostic) (source : Option Source)
    (lookup : Option TypeLookup) : List Diagnostic :=
  match source, lookup with
  | some file, some types =>
    match file.analyze types with
    | .ok found => prior ++ found
    | .error _ => prior
  | _, _ => prior

end ImportBoundary
