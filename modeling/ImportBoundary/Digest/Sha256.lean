import ImportBoundary.Text.Utf8

/-!
Contract: the SHA-256 digest of a sequence of octets.

Owns padding, the message schedule as its recurrence, the compression round, and `hex`, the digest
as sixty-four lower-case hexadecimal digits.
-/

namespace ImportBoundary.Sha256

/-- The chaining value: eight words. -/
structure State where
  a : UInt32
  b : UInt32
  c : UInt32
  d : UInt32
  e : UInt32
  f : UInt32
  g : UInt32
  h : UInt32
deriving DecidableEq, Repr

/-- The value before the first block. -/
def State.initial : State :=
  ⟨0x6a09e667, 0xbb67ae85, 0x3c6ef372, 0xa54ff53a, 0x510e527f, 0x9b05688c, 0x1f83d9ab, 0x5be0cd19⟩

/-- One constant for each of the sixty-four rounds. -/
def roundConstants : List UInt32 := [
  0x428a2f98, 0x71374491, 0xb5c0fbcf, 0xe9b5dba5, 0x3956c25b, 0x59f111f1, 0x923f82a4, 0xab1c5ed5,
  0xd807aa98, 0x12835b01, 0x243185be, 0x550c7dc3, 0x72be5d74, 0x80deb1fe, 0x9bdc06a7, 0xc19bf174,
  0xe49b69c1, 0xefbe4786, 0x0fc19dc6, 0x240ca1cc, 0x2de92c6f, 0x4a7484aa, 0x5cb0a9dc, 0x76f988da,
  0x983e5152, 0xa831c66d, 0xb00327c8, 0xbf597fc7, 0xc6e00bf3, 0xd5a79147, 0x06ca6351, 0x14292967,
  0x27b70a85, 0x2e1b2138, 0x4d2c6dfc, 0x53380d13, 0x650a7354, 0x766a0abb, 0x81c2c92e, 0x92722c85,
  0xa2bfe8a1, 0xa81a664b, 0xc24b8b70, 0xc76c51a3, 0xd192e819, 0xd6990624, 0xf40e3585, 0x106aa070,
  0x19a4c116, 0x1e376c08, 0x2748774c, 0x34b0bcb5, 0x391c0cb3, 0x4ed8aa4a, 0x5b9cca4f, 0x682e6ff3,
  0x748f82ee, 0x78a5636f, 0x84c87814, 0x8cc70208, 0x90befffa, 0xa4506ceb, 0xbef9a3f7, 0xc67178f2]

def rotateRight (word amount : UInt32) : UInt32 :=
  (word >>> amount) ||| (word <<< (32 - amount))

/-- Most significant octet first. -/
def wordOfOctets (octets : List UInt8) : UInt32 :=
  octets.foldl (fun word octet => (word <<< 8) ||| octet.toUInt32) 0

/-- Most significant octet first. -/
def octetsOfWord (word : UInt32) : List UInt8 :=
  [(word >>> 24).toUInt8, (word >>> 16).toUInt8, (word >>> 8).toUInt8, word.toUInt8]

/-- The message followed by a one bit, zeros, and its length in bits as eight octets, so that the
whole is a multiple of sixty-four octets. -/
def pad (message : List UInt8) : List UInt8 :=
  let bits := message.length * 8
  let zeros := (119 - message.length % 64) % 64
  let length : List UInt8 :=
    [56, 48, 40, 32, 24, 16, 8, 0].map fun shift => (bits >>> shift).toUInt8
  message ++ 0x80 :: List.replicate zeros 0 ++ length

/-- The list cut into pieces of `width + 1` elements, the last one perhaps shorter. -/
def pieces {α : Type} (width : Nat) : List α → List (List α)
  | [] => []
  | head :: tail => (head :: tail.take width) :: pieces width (tail.drop width)
termination_by elements => elements.length
decreasing_by
  simp only [List.length_drop, List.length_cons]
  omega

/-- The next word of the schedule from the words so far, newest first. -/
def nextWord (words : List UInt32) : UInt32 :=
  let first := words.getD 14 0
  let second := words.getD 1 0
  let sigma0 := rotateRight first 7 ^^^ rotateRight first 18 ^^^ (first >>> 3)
  let sigma1 := rotateRight second 17 ^^^ rotateRight second 19 ^^^ (second >>> 10)
  words.getD 15 0 + sigma0 + words.getD 6 0 + sigma1

/-- The schedule extended by `count` words, newest first. -/
def extend : Nat → List UInt32 → List UInt32
  | 0, words => words
  | count + 1, words => extend count (nextWord words :: words)

/-- The sixty-four schedule words of a block of sixty-four octets. -/
def schedule (block : List UInt8) : List UInt32 :=
  (extend 48 ((pieces 3 block).map wordOfOctets).reverse).reverse

/-- One round of compression. -/
def round (state : State) (constantAndWord : UInt32 × UInt32) : State :=
  let sum1 := rotateRight state.e 6 ^^^ rotateRight state.e 11 ^^^ rotateRight state.e 25
  let choice := (state.e &&& state.f) ^^^ ((~~~ state.e) &&& state.g)
  let first := state.h + sum1 + choice + constantAndWord.1 + constantAndWord.2
  let sum0 := rotateRight state.a 2 ^^^ rotateRight state.a 13 ^^^ rotateRight state.a 22
  let majority := (state.a &&& state.b) ^^^ (state.a &&& state.c) ^^^ (state.b &&& state.c)
  ⟨first + (sum0 + majority), state.a, state.b, state.c, state.d + first, state.e, state.f, state.g⟩

/-- The chaining value after one more block. -/
def compress (state : State) (block : List UInt8) : State :=
  let final := (roundConstants.zip (schedule block)).foldl round state
  ⟨state.a + final.a, state.b + final.b, state.c + final.c, state.d + final.d,
    state.e + final.e, state.f + final.f, state.g + final.g, state.h + final.h⟩

/-- The digest: thirty-two octets. -/
def digest (message : List UInt8) : List UInt8 :=
  let state := (pieces 63 (pad message)).foldl compress State.initial
  [state.a, state.b, state.c, state.d, state.e, state.f, state.g, state.h].flatMap octetsOfWord

/-- The digest in lower-case hexadecimal digits. -/
def hex (message : List UInt8) : List Char :=
  (digest message).flatMap Utf8.hexOctet

end ImportBoundary.Sha256
