import ImportBoundary.Syntax.Language
import ImportBoundary.Syntax.Node

/-!
Contract: parsed source files.

Owns the pairing of a source with its tree, the text and place of a node, and the faults of the
text. How a tree is made from octets is a parameter: any function of language and octets.

Main statement: `syntaxFaults` lists the faulty nodes in document order, and `ensureClean` fails at
the first of them.
-/

namespace ImportBoundary

/-- A way to make a syntax tree from the octets of a source in a language. -/
abbrev Parser := Language → List UInt8 → Node

/-- What a rule finds at each of some places, in order. Fails where the rule first fails. -/
def gather {ε α β : Type} (rule : α → Except ε (Option β)) : List α → Except ε (List β)
  | [] => .ok []
  | head :: tail => do
    let found ← rule head
    let rest ← gather rule tail
    .ok (found.toList ++ rest)

/-- A parsed source file. All offsets of its tree are octets into its source. -/
structure Source where
  path : FilePath
  octets : List UInt8
  language : Language
  root : Node
deriving Repr, Inhabited

namespace Source

/-- Parse octets as the file at `path`, in the given language or the one of the path. -/
def parse (parser : Parser) (octets : List UInt8) (path : FilePath)
    (language : Option String) : Except Failure Source := do
  let resolved ← Language.resolve language (some path)
  .ok ⟨path, octets, resolved, parser resolved octets⟩

/-- The octets in the range of a node. -/
def slice (source : Source) (node : Node) : List UInt8 :=
  (source.octets.drop node.start).take node.extent

def text (source : Source) (node : Node) : Except Failure String :=
  (Utf8.decode (source.slice node)).mapError .undecodable

def text? (source : Source) (node : Option Node) : Except Failure (Option String) :=
  match node with
  | none => .ok none
  | some present => (source.text present).map some

/-- Where a node begins. -/
def place (source : Source) (node : Node) : Text.Point :=
  Text.point source.octets node.start

/-- The faulty nodes in document order. -/
def syntaxFaults (source : Source) : List Node :=
  source.root.walk.filter (·.isFault)

/-- Fails at the first faulty node. -/
def ensureClean (source : Source) : Except Failure Unit :=
  match source.syntaxFaults with
  | [] => .ok ()
  | first :: _ => .error (.brokenSource source.path (source.place first))

/-- The kinds of nodes that are written between quotes. -/
def quotedKinds : List String := ["string", "template_string"]

/-- The text of a node, without its quotes if it is a string. -/
def unquoted (source : Source) (node : Node) : Except Failure String := do
  let text ← source.text node
  if quotedKinds.contains node.kind && 2 ≤ text.length then
    .ok (String.ofList (text.toList.drop 1).dropLast)
  else .ok text

/-- The object and the member of an access `object.member`, if the object is a plain name. -/
def memberParts (source : Source) (node : Node) : Except Failure (Option (String × String)) :=
  if node.kind == "member_expression" || node.kind == "nested_identifier" then
    match node.namedContent with
    | [object, member] =>
      if object.kind == "identifier" &&
          (member.kind == "property_identifier" || member.kind == "identifier") then do
        let objectName ← source.text object
        let memberName ← source.text member
        .ok (some (objectName, memberName))
      else .ok none
    | _ => .ok none
  else .ok none

end Source

end ImportBoundary
