import ImportBoundary.Json.Comments
import ImportBoundary.Json.Reader

/-!
Contract: how JSON documents are written.

Owns the tokens of JSON text and their valid forms, `tokenize`, the grammar of documents as sequences
of tokens, and `Layout`, which adds what may stand between the tokens: blanks and, beyond JSON,
comments. The grammar also lets an array or an object end with one more comma; such a comma is no
token of the document.

Main statements: `IsDocument.valid` and `IsDocument.orderly`, what the grammar says about one token
and about two that follow one another. Nothing else about documents is used to prove what reading and
stripping make of them.
-/

namespace ImportBoundary.Json

/-! ## Tokens -/

/-- The tokens that are one fixed character. -/
inductive Mark where
  | openArray
  | closeArray
  | openObject
  | closeObject
  | comma
  | colon
deriving DecidableEq, Repr

namespace Mark

def character : Mark → Char
  | .openArray => '['
  | .closeArray => ']'
  | .openObject => '\x7b'
  | .closeObject => '\x7d'
  | .comma => ','
  | .colon => ':'

def of? (character : Char) : Option Mark :=
  [openArray, closeArray, openObject, closeObject, comma, colon].find? fun mark =>
    mark.character = character

/-- Whether a mark ends an array or an object. -/
def closes : Mark → Bool
  | .closeArray | .closeObject => true
  | _ => false

theorem of?_character (mark : Mark) : of? mark.character = some mark := by
  cases mark <;> decide

end Mark

/-- Whether a character may stand in a number or a word: it separates no tokens and opens no string
literal. -/
def isBare (character : Char) : Bool :=
  !isSpace character && (Mark.of? character).isNone && character != '"'

/-- A token as it is written: a mark, a string literal by what stands between its quotes, or a number
or word. -/
inductive Token where
  | mark (mark : Mark)
  | text (body : List Char)
  | bare (characters : List Char)
deriving DecidableEq, Repr

def Token.characters : Token → List Char
  | .mark sort => [sort.character]
  | .text body => '"' :: (body ++ ['"'])
  | .bare characters => characters

/-- What may stand between the quotes of a string literal. -/
inductive IsBody : List Char → Prop where
  | empty : IsBody []
  | plain {character : Char} {rest : List Char} (noQuote : character ≠ '"')
      (noBackslash : character ≠ '\\') (noControl : 0x20 ≤ character.toNat) (body : IsBody rest) :
      IsBody (character :: rest)
  | escaped {letter : Char} {rest : List Char} (known : (escaped? letter).isSome = true)
      (body : IsBody rest) : IsBody ('\\' :: letter :: rest)
  | code {digits rest : List Char} (four : digits.length = 4)
      (hexadecimal : ∀ digit ∈ digits, (hexDigit? digit).isSome = true) (body : IsBody rest) :
      IsBody ('\\' :: 'u' :: (digits ++ rest))

/-- Whether a character may stand in a string literal for itself. -/
def isLiteral (character : Char) : Bool :=
  character != '"' && character != '\\' && decide (0x20 ≤ character.toNat)

theorem isBody_of_all {body : List Char} (literal : body.all isLiteral = true) : IsBody body := by
  induction body with
  | nil => exact .empty
  | cons character rest inductionHypothesis =>
      simp only [List.all_cons, isLiteral, Bool.and_eq_true, bne_iff_ne, decide_eq_true_eq] at literal
      obtain ⟨⟨⟨noQuote, noBackslash⟩, noControl⟩, others⟩ := literal
      exact .plain noQuote noBackslash noControl (inductionHypothesis others)

/-- One digit or more. -/
def AreDigits (characters : List Char) : Prop :=
  characters ≠ [] ∧ ∀ character ∈ characters, character.isDigit = true

instance : DecidablePred AreDigits := fun characters =>
  decidable_of_iff (characters ≠ [] ∧ characters.all Char.isDigit = true)
    (and_congr_right' List.all_eq_true)

/-- A number: a sign, digits without a needless zero in front, a fraction and an exponent, of which
only the digits must be there. -/
structure IsNumber (characters : List Char) : Prop where
  parts : ∃ sign integer fraction exponent,
    characters = sign ++ integer ++ fraction ++ exponent ∧
      (sign = [] ∨ sign = ['-']) ∧
      (integer = ['0'] ∨ (AreDigits integer ∧ integer.head? ≠ some '0')) ∧
      (fraction = [] ∨ ∃ digits, AreDigits digits ∧ fraction = '.' :: digits) ∧
      (exponent = [] ∨ ∃ letter mark digits, (letter = 'e' ∨ letter = 'E') ∧
        (mark = [] ∨ mark = ['+'] ∨ mark = ['-']) ∧ AreDigits digits ∧
        exponent = letter :: (mark ++ digits))

/-- The words that are values. -/
def valueWords : List (List Char) :=
  ["null".toList, "true".toList, "false".toList]

/-- Whether a token is written as JSON allows. -/
def Token.IsValid : Token → Prop
  | .mark _ => True
  | .text body => IsBody body
  | .bare characters => characters ∈ valueWords ∨ IsNumber characters

/-- The tokens of a text, without the blanks between them. A number or word goes as far as it can, and
any character that begins no other token counts as part of one; only a string literal that is not
closed is refused. -/
def tokenize (text : List Char) : Option (List Token) :=
  match text with
  | [] => some []
  | first :: rest =>
    if isSpace first then tokenize rest
    else if first = '"' then
      match _closed : closeString? rest with
      | none => none
      | some (literal, after) => (tokenize after).map (Token.text literal.dropLast :: ·)
    else
      match Mark.of? first with
      | some mark => (tokenize rest).map (Token.mark mark :: ·)
      | none =>
        (tokenize (rest.dropWhile isBare)).map
          (Token.bare (first :: rest.takeWhile isBare) :: ·)
termination_by text.length
decreasing_by
  all_goals simp only [List.length_cons]
  · omega
  · have := length_lt_of_closeString? _closed
    omega
  · omega
  · have := (List.dropWhile_suffix isBare (l := rest)).length_le
    omega

/-! ## Documents -/

/-- A token of a document, or the comma that ends an array or object. -/
inductive Lexeme where
  | token (token : Token)
  | finalComma
deriving DecidableEq, Repr

namespace Lexeme

def token? : Lexeme → Option Token
  | .token written => some written
  | .finalComma => none

def mark (sort : Mark) : Lexeme :=
  .token (.mark sort)

def text (body : List Char) : Lexeme :=
  .token (.text body)

def bare (characters : List Char) : Lexeme :=
  .token (.bare characters)

/-- Whether a lexeme ends an array or an object. -/
def closes : Lexeme → Bool
  | .token (.mark sort) => sort.closes
  | _ => false

/-- Whether a lexeme is a number or a word. -/
def isBare : Lexeme → Bool
  | .token (.bare _) => true
  | _ => false

end Lexeme

/-- The last comma of an array or object, if there is one. -/
def finalComma (present : Bool) : List Lexeme :=
  if present then [.finalComma] else []

/-- What a sequence of lexemes can be: one value, the elements of an array, or the members of an
object. -/
inductive Part where
  | value
  | elements
  | members
deriving DecidableEq, Repr

/-- The grammar of JSON, with a comma allowed behind the last element or member. -/
inductive Writes : Part → List Lexeme → Prop where
  | text {body : List Char} (valid : (Token.text body).IsValid) : Writes .value [.text body]
  | bare {characters : List Char} (valid : (Token.bare characters).IsValid) :
      Writes .value [.bare characters]
  | emptyArray : Writes .value [.mark .openArray, .mark .closeArray]
  | array {elements : List Lexeme} (more : Bool) (inner : Writes .elements elements) :
      Writes .value (.mark .openArray :: (elements ++ (finalComma more ++ [.mark .closeArray])))
  | emptyObject : Writes .value [.mark .openObject, .mark .closeObject]
  | object {members : List Lexeme} (more : Bool) (inner : Writes .members members) :
      Writes .value (.mark .openObject :: (members ++ (finalComma more ++ [.mark .closeObject])))
  | lastElement {value : List Lexeme} (last : Writes .value value) : Writes .elements value
  | element {value rest : List Lexeme} (first : Writes .value value)
      (others : Writes .elements rest) : Writes .elements (value ++ .mark .comma :: rest)
  | lastMember {name : List Char} {value : List Lexeme} (valid : (Token.text name).IsValid)
      (last : Writes .value value) : Writes .members (.text name :: .mark .colon :: value)
  | member {name : List Char} {value rest : List Lexeme} (valid : (Token.text name).IsValid)
      (first : Writes .value value) (others : Writes .members rest) :
      Writes .members (.text name :: .mark .colon :: (value ++ .mark .comma :: rest))

/-- What may follow a lexeme: behind a comma the next value, behind a last comma the end of its array
or object, and behind a number or word neither of the two. -/
def Lexeme.Precedes : Lexeme → Option Lexeme → Prop
  | .token (.mark .comma), next => ∃ lexeme, next = some lexeme ∧ lexeme.closes = false
  | .finalComma, next => ∃ lexeme, next = some lexeme ∧ lexeme.closes = true
  | .token (.bare _), next => ∀ lexeme, next = some lexeme → lexeme.isBare = false
  | _, _ => True

/-- Every lexeme is followed by one that may follow it. -/
def Orderly : List Lexeme → Prop
  | [] => True
  | first :: rest => first.Precedes rest.head? ∧ Orderly rest

/-! ## What the grammar says -/

theorem Writes.valid {part : Part} {lexemes : List Lexeme} (written : Writes part lexemes)
    {token : Token} (member : Lexeme.token token ∈ lexemes) : token.IsValid := by
  have ofMark : ∀ {sort : Mark}, Lexeme.token token = .mark sort → token.IsValid := by
    rintro sort same
    cases same
    trivial
  have ofComma : ∀ {present : Bool}, Lexeme.token token ∉ finalComma present := by
    intro present
    cases present <;> simp [finalComma]
  induction written with
  | text valid =>
      cases List.mem_singleton.mp member
      exact valid
  | bare valid =>
      cases List.mem_singleton.mp member
      exact valid
  | emptyArray => grind
  | array more inner inductionHypothesis => grind
  | emptyObject => grind
  | object more inner inductionHypothesis => grind
  | lastElement last inductionHypothesis => exact inductionHypothesis member
  | element first others firstValid othersValid => grind
  | lastMember valid last inductionHypothesis => grind [Lexeme.text]
  | member valid first others firstValid othersValid => grind [Lexeme.text]

/-- Whatever is written begins with a lexeme that ends nothing. -/
theorem Writes.exists_head {part : Part} {lexemes : List Lexeme} (written : Writes part lexemes) :
    ∃ first rest, lexemes = first :: rest ∧ first.closes = false := by
  induction written with
  | text valid => exact ⟨_, _, rfl, rfl⟩
  | bare valid => exact ⟨_, _, rfl, rfl⟩
  | emptyArray => exact ⟨_, _, rfl, rfl⟩
  | array more inner inductionHypothesis => exact ⟨_, _, rfl, rfl⟩
  | emptyObject => exact ⟨_, _, rfl, rfl⟩
  | object more inner inductionHypothesis => exact ⟨_, _, rfl, rfl⟩
  | lastElement last inductionHypothesis => exact inductionHypothesis
  | element first others ofFirst ofOthers =>
      obtain ⟨head, rest, rfl, opens⟩ := ofFirst
      exact ⟨head, _, rfl, opens⟩
  | lastMember valid last inductionHypothesis => exact ⟨_, _, rfl, rfl⟩
  | member valid first others ofFirst ofOthers => exact ⟨_, _, rfl, rfl⟩

/-- Whether the first of some lexemes, if there is one, is no number or word. -/
def BeginsApart (lexemes : List Lexeme) : Prop :=
  ∀ lexeme, lexemes.head? = some lexeme → lexeme.isBare = false

theorem beginsApart_cons {first : Lexeme} {rest : List Lexeme} (apart : first.isBare = false) :
    BeginsApart (first :: rest) := by
  rintro lexeme same
  cases same
  exact apart

/-- The end of an array or object is orderly, whatever follows it. -/
private theorem orderly_closing (sort : Mark) {rest : List Lexeme} (closes : sort.closes = true)
    (follows : Orderly rest) (present : Bool) :
    Orderly (finalComma present ++ (.mark sort :: rest)) ∧
      BeginsApart (finalComma present ++ (.mark sort :: rest)) := by
  have closing : Orderly (.mark sort :: rest) := by
    refine ⟨?_, follows⟩
    cases sort with
    | comma => cases closes
    | _ => trivial
  cases present with
  | false => exact ⟨closing, beginsApart_cons rfl⟩
  | true => exact ⟨⟨⟨_, rfl, closes⟩, closing⟩, beginsApart_cons rfl⟩

private theorem orderly_comma {part : Part} {others rest : List Lexeme}
    (written : Writes part others) (orderly : Orderly (others ++ rest)) :
    Orderly (.mark .comma :: (others ++ rest)) := by
  obtain ⟨first, remaining, rfl, opens⟩ := written.exists_head
  exact ⟨⟨first, rfl, opens⟩, orderly⟩

/-- What is written is orderly wherever an end or a mark follows it. -/
theorem Writes.orderly_append {part : Part} {lexemes : List Lexeme} (written : Writes part lexemes)
    {rest : List Lexeme} (follows : Orderly rest) (apart : BeginsApart rest) :
    Orderly (lexemes ++ rest) := by
  induction written generalizing rest with
  | text valid => exact ⟨trivial, follows⟩
  | bare valid => exact ⟨apart, follows⟩
  | emptyArray => exact ⟨trivial, trivial, follows⟩
  | array more inner inductionHypothesis =>
      obtain ⟨closing, begins⟩ := orderly_closing .closeArray rfl follows more
      refine ⟨trivial, ?_⟩
      simpa using inductionHypothesis closing begins
  | emptyObject => exact ⟨trivial, trivial, follows⟩
  | object more inner inductionHypothesis =>
      obtain ⟨closing, begins⟩ := orderly_closing .closeObject rfl follows more
      refine ⟨trivial, ?_⟩
      simpa using inductionHypothesis closing begins
  | lastElement last inductionHypothesis => exact inductionHypothesis follows apart
  | element first others ofFirst ofOthers =>
      have remaining := orderly_comma others (ofOthers follows apart)
      simpa using ofFirst remaining (beginsApart_cons rfl)
  | lastMember valid last inductionHypothesis =>
      exact ⟨trivial, trivial, inductionHypothesis follows apart⟩
  | member valid first others ofFirst ofOthers =>
      have remaining := orderly_comma others (ofOthers follows apart)
      refine ⟨trivial, trivial, ?_⟩
      simpa using ofFirst remaining (beginsApart_cons rfl)

/-! ## Layouts -/

/-- A comment from two slashes to the end of its line. -/
structure LineComment where
  content : List Char
  noLineFeed : '\n' ∉ content

/-- A comment between `/*` and the first `*/`. -/
structure BlockComment where
  content : List Char
  noEnd : ¬ ['*', '/'] <:+: content

/-- A piece of a written document: a lexeme, or something that may stand between two of them. -/
inductive Piece where
  | lexeme (lexeme : Lexeme)
  | space (blank : Char) (isBlank : isSpace blank = true)
  /-- With the line feed that ends it. -/
  | lineComment (comment : LineComment)
  | blockComment (comment : BlockComment)

namespace Piece

def lexeme? : Piece → Option Lexeme
  | .lexeme written => some written
  | _ => none

def characters : Piece → List Char
  | .lexeme (.token token) => token.characters
  | .lexeme .finalComma => [',']
  | .space blank _ => [blank]
  | .lineComment comment => '/' :: '/' :: (comment.content ++ ['\n'])
  | .blockComment comment => '/' :: '*' :: (comment.content ++ ['*', '/'])

/-- Whether a piece is plain JSON: a token or a blank. -/
def isPlain : Piece → Bool
  | .lexeme (.token _) => true
  | .space _ _ => true
  | _ => false

end Piece

/-- A written document: its pieces, and the line comment that the text ends in, if it does. -/
structure Layout where
  pieces : List Piece
  unended : Option LineComment

namespace Layout

def characters (layout : Layout) : List Char :=
  layout.pieces.flatMap Piece.characters ++
    (layout.unended.map fun comment => '/' :: '/' :: comment.content).getD []

def text (layout : Layout) : String :=
  String.ofList layout.characters

def lexemes (layout : Layout) : List Lexeme :=
  layout.pieces.filterMap Piece.lexeme?

/-- The tokens of the document. The last comma of an array or object is none. -/
def tokens (layout : Layout) : List Token :=
  layout.lexemes.filterMap Lexeme.token?

/-- The lexemes are those of one value. -/
def IsDocument (layout : Layout) : Prop :=
  Writes .value layout.lexemes

/-- Nothing but tokens and blanks is written: the text is JSON as it is. -/
structure IsStrict (layout : Layout) : Prop where
  plain : ∀ piece ∈ layout.pieces, piece.isPlain = true
  ended : layout.unended = none

theorem IsDocument.valid {layout : Layout} (document : layout.IsDocument) {token : Token}
    (member : Piece.lexeme (.token token) ∈ layout.pieces) : token.IsValid := by
  apply Writes.valid document
  exact List.mem_filterMap.mpr ⟨_, member, rfl⟩

theorem IsDocument.orderly {layout : Layout} (document : layout.IsDocument) :
    Orderly layout.lexemes := by
  have nothing : Orderly [] := trivial
  have apart : BeginsApart [] := fun _ impossible => nomatch impossible
  simpa using Writes.orderly_append document nothing apart

end Layout

end ImportBoundary.Json
