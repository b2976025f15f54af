import ImportBoundary.Json.Value

/-!
Contract: reading JSON text.

Owns `read`, which accepts RFC 8259 documents and the three words `NaN`, `Infinity` and
`-Infinity`, and names the first thing that is wrong with any other text. Blanks between tokens are
space, tab, line feed and carriage return only. Integers have a greatest length, and containers a
greatest nesting.
-/

namespace ImportBoundary.Json

/-- The values that hold other values. -/
inductive Container where
  | array
  | object
deriving DecidableEq, Repr

/-- The word for a container. -/
def Container.name : Container → String
  | .array => "array"
  | .object => "object"

/-- What is wrong with a text that is no JSON document. -/
inductive Fault where
  | expectedValue
  | expectedName
  | expectedColon
  | expectedComma
  | extraData
  | unterminatedString
  | controlCharacter
  | badEscape
  | badUnicodeEscape
  | byteOrderMark
  /-- An integer of more digits than are read. -/
  | integerTooLong (digits : Nat)
  /-- A container within more containers than are read. -/
  | nestedTooDeeply (container : Container)
deriving DecidableEq, Repr

def maxIntegerDigits : Nat := 4300

/-- The most containers within one another. -/
def maxNesting : Nat := 988

/-- The wording of a fault. -/
def Fault.message : Fault → String
  | .expectedValue => "Expecting value"
  | .expectedName => "Expecting property name enclosed in double quotes"
  | .expectedColon => "Expecting ':' delimiter"
  | .expectedComma => "Expecting ',' delimiter"
  | .extraData => "Extra data"
  | .unterminatedString => "Unterminated string starting at"
  | .controlCharacter => "Invalid control character at"
  | .badEscape => "Invalid \\escape"
  | .badUnicodeEscape => "Invalid \\uXXXX escape"
  | .byteOrderMark => "Unexpected UTF-8 BOM (decode using utf-8-sig)"
  | .integerTooLong digits =>
    "Exceeds the limit (" ++ toString maxIntegerDigits ++
      " digits) for integer string conversion: value has " ++ toString digits ++
      " digits; use sys.set_int_max_str_digits() to increase the limit"
  | .nestedTooDeeply container =>
    "maximum recursion depth exceeded while decoding a JSON " ++ container.name ++
      " from a unicode string"

/-- A blank between two tokens. -/
def isSpace (character : Char) : Bool :=
  character == ' ' || character == '\t' || character == '\n' || character == '\r'

/-- The text from its first character that is no blank. -/
def skipSpaces (text : List Char) : List Char :=
  text.dropWhile isSpace

/-- The value of a hexadecimal digit. -/
def hexDigit? (character : Char) : Option Nat :=
  if '0' ≤ character ∧ character ≤ '9' then some (character.toNat - 48)
  else if 'a' ≤ character ∧ character ≤ 'f' then some (character.toNat - 87)
  else if 'A' ≤ character ∧ character ≤ 'F' then some (character.toNat - 55)
  else none

/-- The value of four hexadecimal digits and what follows them, which cannot be nothing. -/
def hexQuad? : List Char → Option (Nat × List Char)
  | first :: second :: third :: fourth :: next :: rest => do
    let high ← hexDigit? first
    let upper ← hexDigit? second
    let lower ← hexDigit? third
    let low ← hexDigit? fourth
    some (((high * 16 + upper) * 16 + lower) * 16 + low, next :: rest)
  | _ => none

/-- What follows four digits is shorter. -/
theorem length_lt_of_hexQuad? {text after : List Char} {value : Nat}
    (found : hexQuad? text = some (value, after)) : after.length < text.length := by
  unfold hexQuad? at found
  split at found
  · simp only [Option.bind_eq_bind, Option.bind_eq_some_iff, Option.some.injEq,
      Prod.mk.injEq] at found
    obtain ⟨_, _, _, _, _, _, _, _, _, rfl⟩ := found
    simp only [List.length_cons]
    omega
  · exact absurd found (by simp)

/-- The character that a letter stands for after a backslash. -/
def escaped? (letter : Char) : Option Char :=
  if letter = '"' ∨ letter = '\\' ∨ letter = '/' then some letter
  else if letter = 'b' then some (Char.ofNat 8)
  else if letter = 'f' then some (Char.ofNat 12)
  else if letter = 'n' then some '\n'
  else if letter = 'r' then some '\r'
  else if letter = 't' then some '\t'
  else none

/-- The code units of a string literal and what follows it, from the text after its opening quote.
A unit is a code point, or half of a surrogate pair where the text escapes one. -/
def readUnits : List Char → Except Fault (List Nat × List Char)
  | [] => .error .unterminatedString
  | '\\' :: 'u' :: rest =>
    match _found : hexQuad? rest with
    | none => .error .badUnicodeEscape
    | some (unit, after) => do
      let (units, remaining) ← readUnits after
      .ok (unit :: units, remaining)
  | '\\' :: letter :: rest =>
    match escaped? letter with
    | none => .error .badEscape
    | some character => do
      let (units, remaining) ← readUnits rest
      .ok (character.toNat :: units, remaining)
  | character :: rest =>
    if character = '"' then .ok ([], rest)
    else if character = '\\' then .error .unterminatedString
    else if character.toNat < 32 then .error .controlCharacter
    else do
      let (units, remaining) ← readUnits rest
      .ok (character.toNat :: units, remaining)
termination_by text => text.length
decreasing_by
  all_goals simp only [List.length_cons]
  · have := length_lt_of_hexQuad? _found
    omega
  · omega
  · omega

/-- Characters from code units: two halves of a surrogate pair that stand together are one
character. A half that stands alone is no `Char`; the replacement character is read in its place, so
that a document with such a half is read as another one. -/
def joinUnits : List Nat → List Char
  | [] => []
  | high :: low :: rest =>
    if 0xd800 ≤ high ∧ high < 0xdc00 ∧ 0xdc00 ≤ low ∧ low < 0xe000 then
      Char.ofNat (0x10000 + (high - 0xd800) * 0x400 + (low - 0xdc00)) :: joinUnits rest
    else if 0xd800 ≤ high ∧ high < 0xe000 then Char.ofNat 0xfffd :: joinUnits (low :: rest)
    else Char.ofNat high :: joinUnits (low :: rest)
  | [unit] => [if 0xd800 ≤ unit ∧ unit < 0xe000 then Char.ofNat 0xfffd else Char.ofNat unit]

/-- A string from the text after its opening quote. -/
def readString (text : List Char) : Except Fault (String × List Char) := do
  let (units, rest) ← readUnits text
  .ok (String.ofList (joinUnits units), rest)

/-- The leading decimal digits and what follows them. -/
def takeDigits (text : List Char) : List Char × List Char :=
  (text.takeWhile Char.isDigit, text.dropWhile Char.isDigit)

/-- The digits of a number before its fraction: a zero, or digits that do not begin with one. -/
def integerPart (text : List Char) : List Char × List Char :=
  match text with
  | '0' :: rest => (['0'], rest)
  | _ => takeDigits text

/-- A fraction, which needs a digit. -/
def fractionPart (text : List Char) : List Char × List Char :=
  match text with
  | '.' :: rest =>
    let (digits, after) := takeDigits rest
    if digits.isEmpty then ([], text) else ('.' :: digits, after)
  | _ => ([], text)

/-- An exponent, which needs a digit. -/
def exponentPart (text : List Char) : List Char × List Char :=
  match text with
  | [] => ([], text)
  | mark :: rest =>
    if mark = 'e' ∨ mark = 'E' then
      let (sign, unsigned) := match rest with
        | '+' :: after => (['+'], after)
        | '-' :: after => (['-'], after)
        | _ => ([], rest)
      let (digits, after) := takeDigits unsigned
      if digits.isEmpty then ([], text) else (mark :: sign ++ digits, after)
    else ([], text)

/-- A number as it is written, and what follows it. -/
def readNumber (text : List Char) : Except Fault (String × List Char) :=
  let (sign, unsigned) := match text with
    | '-' :: rest => (['-'], rest)
    | _ => ([], text)
  let (digits, afterDigits) := integerPart unsigned
  if digits.isEmpty then .error .expectedValue
  else
    let (fraction, afterFraction) := fractionPart afterDigits
    let (exponent, after) := exponentPart afterFraction
    if fraction.isEmpty ∧ exponent.isEmpty ∧ maxIntegerDigits < digits.length then
      .error (.integerTooLong digits.length)
    else .ok (String.ofList (sign ++ digits ++ fraction ++ exponent), after)

def words : List (String × Value) := [
  ("null", .null), ("true", .boolean true), ("false", .boolean false),
  ("NaN", .number "NaN"), ("Infinity", .number "Infinity"), ("-Infinity", .number "-Infinity")]

/-- A value that is written as a word, and what follows it. -/
def readWord? (text : List Char) : Option (Value × List Char) :=
  words.findSome? fun (word, value) =>
    if word.toList.isPrefixOf text then some (value, text.drop word.length) else none

mutual

/-- A value and what follows it, with room for so many more containers within one another. Every
value and every element takes a character, so two steps for each character of the text suffice. -/
def readValue : Nat → Nat → List Char → Except Fault (Value × List Char)
  | 0, _, _ => .error .expectedValue
  | _ + 1, _, [] => .error .expectedValue
  | steps + 1, levels, first :: rest =>
    if first = '"' then do
      let (characters, after) ← readString rest
      .ok (.text characters, after)
    else if first = '[' then
      if levels = 0 then .error (.nestedTooDeeply .array)
      else
        match skipSpaces rest with
        | ']' :: after => .ok (.list [], after)
        | elements => do
          let (values, after) ← readElements steps (levels - 1) elements
          .ok (.list values, after)
    else if first = '{' then
      if levels = 0 then .error (.nestedTooDeeply .object)
      else
        match skipSpaces rest with
        | '}' :: after => .ok (.object [], after)
        | members => do
          let (values, after) ← readMembers steps (levels - 1) members
          .ok (.object values, after)
    else
      match readWord? (first :: rest) with
      | some found => .ok found
      | none => do
        let (literal, after) ← readNumber (first :: rest)
        .ok (.number literal, after)

/-- The elements of an array up to its closing bracket, of which there is at least one. -/
def readElements : Nat → Nat → List Char → Except Fault (List Value × List Char)
  | 0, _, _ => .error .expectedValue
  | steps + 1, levels, text => do
    let (value, afterValue) ← readValue steps levels text
    match skipSpaces afterValue with
    | ']' :: after => .ok ([value], after)
    | ',' :: more =>
      let (values, after) ← readElements steps levels (skipSpaces more)
      .ok (value :: values, after)
    | _ => .error .expectedComma

/-- The members of an object up to its closing brace, of which there is at least one. -/
def readMembers : Nat → Nat → List Char → Except Fault (List (String × Value) × List Char)
  | 0, _, _ => .error .expectedName
  | steps + 1, levels, text =>
    match text with
    | '"' :: rest => do
      let (name, afterName) ← readString rest
      match skipSpaces afterName with
      | ':' :: beforeValue =>
        let (value, afterValue) ← readValue steps levels (skipSpaces beforeValue)
        match skipSpaces afterValue with
        | '}' :: after => .ok ([(name, value)], after)
        | ',' :: more =>
          let (members, after) ← readMembers steps levels (skipSpaces more)
          .ok ((name, value) :: members, after)
        | _ => .error .expectedComma
      | _ => .error .expectedColon
    | _ => .error .expectedName

end

/-- The document that a text writes. -/
def read (text : String) : Except Fault Value :=
  let characters := text.toList
  if characters.head?.map Char.toNat = some 0xfeff then .error .byteOrderMark
  else do
    let steps := 2 * characters.length + 1
    let (value, after) ← readValue steps maxNesting (skipSpaces characters)
    if (skipSpaces after).isEmpty then .ok value else .error .extraData

end ImportBoundary.Json
