/-!
Contract: what is known about the type of an expression.

Owns the type flags as bits of a mask, the description of a type, the types that are known by name,
and `TypeInfo.widen`, which takes a literal type to the type it is a literal of.
-/

namespace ImportBoundary

/-- What sort of type it is. -/
inductive TypeFlag where
  | any
  | unknown
  | string
  | number
  | boolean
  | bigint
  | stringLiteral
  | numberLiteral
  | booleanLiteral
  | bigintLiteral
  | uniqueSymbol
  | void
  | undefined
  | null
  | never
  | object
  | union
deriving DecidableEq, Repr

def TypeFlag.position : TypeFlag → Nat
  | .any => 0
  | .unknown => 1
  | .string => 2
  | .number => 3
  | .boolean => 4
  | .bigint => 5
  | .stringLiteral => 6
  | .numberLiteral => 7
  | .booleanLiteral => 8
  | .bigintLiteral => 9
  | .uniqueSymbol => 10
  | .void => 11
  | .undefined => 12
  | .null => 13
  | .never => 14
  | .object => 15
  | .union => 16

/-- A set of flags as a mask. Bits of no flag may be set and mean nothing. -/
structure TypeFlags where
  mask : Nat
deriving DecidableEq, Repr

namespace TypeFlags

/-- The set of one flag. -/
def single (flag : TypeFlag) : TypeFlags :=
  ⟨1 <<< flag.position⟩

/-- Whether a flag is in the set. -/
def has (flags : TypeFlags) (flag : TypeFlag) : Bool :=
  flags.mask.testBit flag.position

/-- Whether one of some flags is in the set. -/
def hasAny (flags : TypeFlags) (candidates : List TypeFlag) : Bool :=
  candidates.any flags.has

end TypeFlags

/-- What a type lookup reports: the sort of type, its text, the name of its symbol, and how many
ways there are to call it. -/
structure TypeInfo where
  flags : TypeFlags
  display : String
  symbol : Option String
  calls : Int
deriving DecidableEq, Repr

namespace TypeInfo

/-- A type of one sort without a symbol. -/
def plain (flag : TypeFlag) (display : String) : TypeInfo :=
  ⟨.single flag, display, none, 0⟩

def object (display symbol : String) : TypeInfo :=
  ⟨.single .object, display, some symbol, 0⟩

/-- A type that can be called. -/
def callable (display : String) : TypeInfo :=
  ⟨.single .object, display, none, 1⟩

/-- The types that are known by name. -/
def predefined : List (String × TypeFlag) := [
  ("string", .string), ("number", .number), ("boolean", .boolean), ("bigint", .bigint),
  ("symbol", .uniqueSymbol), ("unique symbol", .uniqueSymbol), ("undefined", .undefined),
  ("null", .null), ("void", .void), ("never", .never), ("any", .any), ("unknown", .unknown),
  ("object", .object)]

def ofName? (name : String) : Option TypeInfo :=
  (predefined.lookup name).map fun flag => plain flag name

/-- A literal type becomes the type it is a literal of; any other type stays. -/
def widen (info : TypeInfo) : TypeInfo :=
  if info.flags.has .stringLiteral then plain .string "string"
  else if info.flags.has .numberLiteral then plain .number "number"
  else if info.flags.has .booleanLiteral then plain .boolean "boolean"
  else if info.flags.has .bigintLiteral then plain .bigint "bigint"
  else info

end TypeInfo

end ImportBoundary
