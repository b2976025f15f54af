/-!
Contract: line ends.

Owns `joinLineEnds`, under which every carriage return, alone or before a line feed, becomes one
line feed, and `point`, the place of an octet as a line and a column.
-/

namespace ImportBoundary.Text

/-- Carriage return and line feed together, and carriage return alone, become a line feed. -/
def joinLineEnds : List Char → List Char
  | [] => []
  | '\r' :: '\n' :: rest => '\n' :: joinLineEnds rest
  | '\r' :: rest => '\n' :: joinLineEnds rest
  | character :: rest => character :: joinLineEnds rest

/-- A place in a source, counted from zero: the line, and the octets before it on that line. -/
structure Point where
  row : Nat
  column : Nat
deriving DecidableEq, Repr

/-- The place of the octet at `offset`: the line feeds before it, and the octets since the last
of them. -/
def point (source : List UInt8) (offset : Nat) : Point :=
  let before := source.take offset
  { row := before.count 0x0a
    column := (before.reverse.takeWhile (· != 0x0a)).length }

end ImportBoundary.Text
