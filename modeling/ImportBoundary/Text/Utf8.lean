/-!
Contract: strict UTF-8, as a list of octets and as text.

Owns:
- `encode`, which writes every character in its shortest form;
- `decode`, which accepts exactly well-formed octet sequences and otherwise reports the first
  ill-formed one: which octets, and in which of three ways they are wrong.

Positions in a `Fault` count from the start of the octets handed to `decode`.
-/

namespace ImportBoundary.Utf8

/-- How a sequence of octets fails to be the encoding of a character. -/
inductive Reason where
  /-- The octet can begin no sequence. -/
  | invalidStart
  /-- An octet that should continue the sequence does not. -/
  | invalidContinuation
  /-- The octets end before the sequence does. -/
  | unexpectedEnd
deriving DecidableEq, Repr

/-- The wording of a reason. -/
def Reason.text : Reason → String
  | .invalidStart => "invalid start byte"
  | .invalidContinuation => "invalid continuation byte"
  | .unexpectedEnd => "unexpected end of data"

/-- The first ill-formed sequence: its lead octet, the positions of its first and last faulty
octet, and what is wrong. -/
structure Fault where
  lead : UInt8
  first : Nat
  last : Nat
  reason : Reason
deriving DecidableEq, Repr

/-- One octet as two lower-case hexadecimal digits. -/
def hexOctet (octet : UInt8) : List Char :=
  [Nat.digitChar (octet.toNat / 16), Nat.digitChar (octet.toNat % 16)]

/-- A fault of one octet names its value and position, a longer one only its positions. -/
def Fault.message (fault : Fault) : String :=
  if fault.first = fault.last then
    "'utf-8' codec can't decode byte 0x" ++ String.ofList (hexOctet fault.lead) ++
      " in position " ++ toString fault.first ++ ": " ++ fault.reason.text
  else
    "'utf-8' codec can't decode bytes in position " ++ toString fault.first ++ "-" ++
      toString fault.last ++ ": " ++ fault.reason.text

/-- What a lead octet announces: how many octets follow, its own payload bits, and the range that
the first following octet must lie in. The narrowed ranges rule out overlong forms, surrogates and
values above U+10FFFF. -/
structure Lead where
  following : Nat
  payload : Nat
  low : UInt8
  high : UInt8
deriving DecidableEq, Repr

/-- The announcement of a lead octet, if it can begin a sequence. -/
def Lead.of? (octet : UInt8) : Option Lead :=
  if octet < 0x80 then some ⟨0, octet.toNat, 0x80, 0xbf⟩
  else if octet < 0xc2 then none
  else if octet < 0xe0 then some ⟨1, octet.toNat - 0xc0, 0x80, 0xbf⟩
  else if octet = 0xe0 then some ⟨2, 0, 0xa0, 0xbf⟩
  else if octet = 0xed then some ⟨2, 0xd, 0x80, 0x9f⟩
  else if octet < 0xf0 then some ⟨2, octet.toNat - 0xe0, 0x80, 0xbf⟩
  else if octet = 0xf0 then some ⟨3, 0, 0x90, 0xbf⟩
  else if octet < 0xf4 then some ⟨3, octet.toNat - 0xf0, 0x80, 0xbf⟩
  else if octet = 0xf4 then some ⟨3, 4, 0x80, 0x8f⟩
  else none

/-- Read the octets that continue a sequence: the code point they complete, or why they do not,
with the number of octets that were still right. -/
def continuation (payload : Nat) (low high : UInt8) (read : Nat) :
    Nat → List UInt8 → Except (Reason × Nat) Nat
  | 0, _ => .ok payload
  | _ + 1, [] => .error (.unexpectedEnd, read)
  | remaining + 1, octet :: rest =>
    if low ≤ octet ∧ octet ≤ high then
      continuation (payload * 64 + (octet.toNat - 0x80)) 0x80 0xbf (read + 1) remaining rest
    else .error (.invalidContinuation, read)

/-- Decode octets of which the first stands at `position`. -/
def decodeFrom (position : Nat) : List UInt8 → Except Fault (List Char)
  | [] => .ok []
  | octet :: rest =>
    match Lead.of? octet with
    | none => .error ⟨octet, position, position, .invalidStart⟩
    | some lead =>
      match continuation lead.payload lead.low lead.high 0 lead.following rest with
      | .error (reason, read) => .error ⟨octet, position, position + read, reason⟩
      | .ok point =>
        match decodeFrom (position + lead.following + 1) (rest.drop lead.following) with
        | .error fault => .error fault
        | .ok characters => .ok (Char.ofNat point :: characters)
termination_by octets => octets.length
decreasing_by
  simp only [List.length_drop, List.length_cons]
  omega

/-- Text whose encoding is exactly the given octets. -/
def decode (octets : List UInt8) : Except Fault String :=
  (decodeFrom 0 octets).map String.ofList

def encode (text : String) : List UInt8 :=
  text.toList.flatMap String.utf8EncodeChar

end ImportBoundary.Utf8
