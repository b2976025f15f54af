import ImportBoundary.Typing.Info

/-!
Contract: which values may cross the boundary between server and client.

Owns the reasons against a value and `rejection?`, the verdict on a prop by the type of its value.
The verdict is shallow: a container is judged by its own name, whatever it holds, and a promise
whatever it resolves to.
-/

namespace ImportBoundary

/-- Why a value may not cross. -/
inductive RejectionReason where
  | notAnAllowedContainer
  | opaqueObject
  | nonConformingFunction
  | unregisteredSymbol
  | unsupportedType
deriving DecidableEq, Repr

def RejectionReason.name : RejectionReason → String
  | .notAnAllowedContainer => "not-an-allowed-container"
  | .opaqueObject => "opaque-object"
  | .nonConformingFunction => "non-conforming-function"
  | .unregisteredSymbol => "unregistered-symbol"
  | .unsupportedType => "unsupported-type"

/-- The containers that may cross. -/
def allowedContainers : List String := [
  "Array", "Set", "Map", "Int8Array", "Uint8Array", "Uint8ClampedArray", "Int16Array",
  "Uint16Array", "Int32Array", "Uint32Array", "Float32Array", "Float64Array", "BigInt64Array",
  "BigUint64Array"]

def promiseSymbol : String := "Promise"

/-- The containers that may not cross. -/
def forbiddenContainers : List String :=
  ["WeakMap", "WeakSet", "WeakRef", "Iterator", "IterableIterator", "Generator", "AsyncGenerator"]

/-- The symbols of objects that may cross: plain objects and elements. -/
def plainObjectSymbols : List String := ["Object", "__object", "JSXElement"]

/-- The flags of types that may cross whatever else is known. -/
def primitiveFlags : List TypeFlag := [
  .string, .number, .boolean, .bigint, .stringLiteral, .numberLiteral, .booleanLiteral,
  .bigintLiteral, .undefined, .null]

/-- The call that makes a registered symbol. -/
def symbolRegistration : String := "Symbol.for"

/-- Whether a text occurs within another. -/
def occursIn (part : List Char) : List Char → Bool
  | [] => part.isEmpty
  | character :: rest => part.isPrefixOf (character :: rest) || occursIn part rest

def isActionName (prop : String) : Bool :=
  prop == "action" || "Action".toList.isSuffixOf prop.toList

def objectRejection? (symbol : Option String) : Option RejectionReason :=
  match symbol with
  | none => none
  | some name =>
    if plainObjectSymbols.contains name then none
    else if forbiddenContainers.contains name then some .notAnAllowedContainer
    else some .opaqueObject

/-- The reason why a prop may not cross, if there is one, from its name, the type of its value and
the text of its value. Only that text tells a registered symbol from another. -/
def rejection? (prop : String) (info : TypeInfo) (text : String) : Option RejectionReason :=
  if info.calls ≠ 0 then
    if isActionName prop then none else some .nonConformingFunction
  else if info.flags.hasAny primitiveFlags then none
  else if info.symbol.any fun name => allowedContainers.contains name || name == promiseSymbol then
    none
  else if info.flags.has .uniqueSymbol then
    if occursIn symbolRegistration.toList text.toList then none else some .unregisteredSymbol
  else if info.flags.has .object then objectRejection? info.symbol
  else some .unsupportedType

end ImportBoundary
