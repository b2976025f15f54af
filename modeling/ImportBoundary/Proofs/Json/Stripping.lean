import ImportBoundary.Proofs.Json.Document
import Mathlib.Data.List.Infix

/-!
Contract: what `plain` makes of a written document.

Owns `Piece.uncommented` and `Piece.stripped`, what is left of a piece behind the first and behind
both steps of `plain`, and the one equation that everything else here rests on: `plain` strips a
document piece by piece. The comments turn to nothing or to a line feed, the last commas to nothing,
and a string literal loses the commas in it that a closing bracket or brace follows, because the
second step does not know where string literals begin and end.
-/

namespace ImportBoundary.Json

/-! ## String literals -/

theorem closeString?_append {first : List Char}
    (plain : ∀ character ∈ first, character ≠ '"' ∧ character ≠ '\\') (rest : List Char) :
    closeString? (first ++ rest) =
      (closeString? rest).map fun (literal, after) => (first ++ literal, after) := by
  induction first with
  | nil => simp
  | cons character others inductionHypothesis =>
      obtain ⟨noQuote, noBackslash⟩ := plain character List.mem_cons_self
      have remaining := inductionHypothesis fun other member =>
        plain other (List.mem_cons_of_mem character member)
      rw [List.cons_append, closeString?, remaining]
      · simp [noQuote, noBackslash, Function.comp_def]
      · exact fun _ _ impossible => absurd impossible noBackslash

theorem not_quote_of_hexDigit? {digit : Char} (hexadecimal : (hexDigit? digit).isSome = true) :
    digit ≠ '"' ∧ digit ≠ '\\' ∧ digit ≠ ',' := by
  refine ⟨?_, ?_, ?_⟩ <;>
    · rintro rfl
      exact absurd hexadecimal (by decide)

/-- A string literal ends at the first quote that stands behind no backslash. -/
theorem closeString?_body {body : List Char} (written : IsBody body) (rest : List Char) :
    closeString? (body ++ '"' :: rest) = some (body ++ ['"'], rest) := by
  induction written with
  | empty => simp [closeString?]
  | @plain character others noQuote noBackslash noControl body inductionHypothesis =>
      have single : ∀ other ∈ [character], other ≠ '"' ∧ other ≠ '\\' := by
        simpa using ⟨noQuote, noBackslash⟩
      simpa [inductionHypothesis] using
        closeString?_append single (others ++ '"' :: rest)
  | escaped known body inductionHypothesis =>
      simp [closeString?, inductionHypothesis]
  | @code digits others four hexadecimal body inductionHypothesis =>
      have plain : ∀ digit ∈ digits, digit ≠ '"' ∧ digit ≠ '\\' := fun digit member =>
        have apart := not_quote_of_hexDigit? (hexadecimal digit member)
        ⟨apart.1, apart.2.1⟩
      have remaining := closeString?_append plain (others ++ '"' :: rest)
      simp [closeString?, remaining, inductionHypothesis]

/-! ## Characters of tokens -/

theorem isBlank_of_isSpace {character : Char} (space : isSpace character = true) :
    Text.isBlank character = true := by
  simp only [isSpace, Bool.or_eq_true, beq_iff_eq] at space
  rcases space with ((rfl | rfl) | rfl) | rfl <;> decide

/-- A character that begins no comment, is no blank to either step, and belongs to a number or word. -/
structure IsInert (character : Char) : Prop where
  bare : isBare character = true
  notSlash : character ≠ '/'
  notBlank : Text.isBlank character = false

theorem isInert_iff {character : Char} : IsInert character ↔
    isBare character = true ∧ character ≠ '/' ∧ Text.isBlank character = false :=
  ⟨fun inert => ⟨inert.bare, inert.notSlash, inert.notBlank⟩,
    fun ⟨bare, notSlash, notBlank⟩ => ⟨bare, notSlash, notBlank⟩⟩

instance : DecidablePred IsInert := fun _ => decidable_of_iff _ isInert_iff.symm

theorem isInert_of_isDigit {character : Char} (digit : character.isDigit = true) :
    IsInert character := by
  obtain ⟨low, high⟩ := Char.isDigit_iff_toNat.mp digit
  have ofCodes : ∀ code ∈ List.range' 0x30 10, IsInert (Char.ofNat code) := by decide
  have ofCode := ofCodes character.toNat (List.mem_range'_1.mpr ⟨low, Nat.lt_succ_of_le high⟩)
  rwa [Char.ofNat_toNat] at ofCode

theorem AreDigits.isInert {digits : List Char} (areDigits : AreDigits digits) :
    ∀ character ∈ digits, IsInert character :=
  fun character member => isInert_of_isDigit (areDigits.2 character member)

theorem IsNumber.isInert {characters : List Char} (number : IsNumber characters) :
    ∀ character ∈ characters, IsInert character := by
  obtain ⟨sign, integer, fraction, exponent, rfl, isSign, isInteger, isFraction, isExponent⟩ :=
    number.parts
  have ofSign : ∀ character ∈ sign, IsInert character := by
    rcases isSign with rfl | rfl
    · exact List.forall_mem_nil _
    · exact List.forall_mem_singleton.mpr (by decide)
  have ofInteger : ∀ character ∈ integer, IsInert character := by
    rcases isInteger with rfl | ⟨areDigits, -⟩
    · exact List.forall_mem_singleton.mpr (by decide)
    · exact areDigits.isInert
  have ofFraction : ∀ character ∈ fraction, IsInert character := by
    rcases isFraction with rfl | ⟨digits, areDigits, rfl⟩
    · exact List.forall_mem_nil _
    · exact List.forall_mem_cons.mpr ⟨by decide, areDigits.isInert⟩
  have ofExponent : ∀ character ∈ exponent, IsInert character := by
    rcases isExponent with rfl | ⟨letter, mark, digits, isLetter, isMark, areDigits, rfl⟩
    · exact List.forall_mem_nil _
    · have ofLetter : IsInert letter := by
        rcases isLetter with rfl | rfl <;> decide
      have ofMark : ∀ character ∈ mark, IsInert character := by
        rcases isMark with rfl | rfl | rfl
        · exact List.forall_mem_nil _
        · exact List.forall_mem_singleton.mpr (by decide)
        · exact List.forall_mem_singleton.mpr (by decide)
      exact List.forall_mem_cons.mpr
        ⟨ofLetter, List.forall_mem_append.mpr ⟨ofMark, areDigits.isInert⟩⟩
  simp only [List.forall_mem_append]
  exact ⟨⟨⟨ofSign, ofInteger⟩, ofFraction⟩, ofExponent⟩

theorem Token.IsValid.isInert {characters : List Char} (valid : (Token.bare characters).IsValid) :
    ∀ character ∈ characters, IsInert character := by
  rcases valid with word | number
  · have ofWords : ∀ word ∈ valueWords, word.all (fun letter => decide (IsInert letter)) = true := by
      decide
    intro character member
    exact of_decide_eq_true (List.all_eq_true.mp (ofWords characters word) character member)
  · exact number.isInert

theorem IsNumber.ne_nil {characters : List Char} (number : IsNumber characters) :
    characters ≠ [] := by
  obtain ⟨sign, integer, fraction, exponent, rfl, -, isInteger, -⟩ := number.parts
  have some : integer ≠ [] := by
    rcases isInteger with rfl | ⟨areDigits, -⟩
    · exact List.cons_ne_nil _ _
    · exact areDigits.1
  simp [some]

theorem Token.IsValid.ne_nil {characters : List Char} (valid : (Token.bare characters).IsValid) :
    characters ≠ [] := by
  rcases valid with word | number
  · simp only [valueWords, List.mem_cons, List.not_mem_nil, or_false] at word
    rcases word with rfl | rfl | rfl <;> decide
  · exact number.ne_nil

theorem isInert_character (mark : Mark) : mark.character ≠ '"' ∧ mark.character ≠ '/' ∧
    Text.isBlank mark.character = false := by
  cases mark <;> decide

/-! ## Comments -/

section Comments

variable {rest after literal : List Char} {character : Char}

theorem withoutComments_cons (noQuote : character ≠ '"') (noSlash : character ≠ '/') :
    withoutComments (character :: rest) = character :: withoutComments rest := by
  rw [withoutComments.eq_def]
  split <;> simp_all

theorem withoutComments_append {first : List Char}
    (plain : ∀ character ∈ first, character ≠ '"' ∧ character ≠ '/') :
    withoutComments (first ++ rest) = first ++ withoutComments rest := by
  induction first with
  | nil => rfl
  | cons character others inductionHypothesis =>
      obtain ⟨noQuote, noSlash⟩ := plain character List.mem_cons_self
      rw [List.cons_append, withoutComments_cons noQuote noSlash,
        inductionHypothesis fun other member => plain other (List.mem_cons_of_mem character member),
        List.cons_append]

theorem withoutComments_string (closed : closeString? rest = some (literal, after)) :
    withoutComments ('"' :: rest) = '"' :: literal ++ withoutComments after := by
  rw [withoutComments]
  split
  · simp_all
  · simp_all

theorem withoutComments_line :
    withoutComments ('/' :: '/' :: rest) = withoutComments (rest.dropWhile (· ≠ '\n')) := by
  rw [withoutComments]

theorem withoutComments_block (closed : afterBlock? rest = some after) :
    withoutComments ('/' :: '*' :: rest) = withoutComments after := by
  rw [withoutComments]
  split
  · simp_all
  · simp_all

theorem LineComment.dropWhile_append (comment : LineComment) (rest : List Char) :
    (comment.content ++ rest).dropWhile (· ≠ '\n') = rest.dropWhile (· ≠ '\n') := by
  apply List.dropWhile_append_of_pos
  intro character member
  simpa using ne_of_mem_of_not_mem member comment.noLineFeed

theorem afterBlock?_append {content : List Char} (noEnd : ¬ ['*', '/'] <:+: content)
    (rest : List Char) : afterBlock? (content ++ '*' :: '/' :: rest) = some rest := by
  induction content with
  | nil => rfl
  | cons character others inductionHypothesis =>
      have remaining := inductionHypothesis fun inside => noEnd (List.infix_cons inside)
      rw [List.cons_append, afterBlock?]
      · exact remaining
      · rintro after rfl same
        -- The end of the comment cannot begin with its last star: a star follows it.
        cases others with
        | nil => cases same
        | cons second others =>
            cases same
            exact noEnd ⟨[], others, rfl⟩

/-- What the first step of `plain` leaves of a piece. -/
def Piece.uncommented : Piece → List Char
  | .lineComment _ => ['\n']
  | .blockComment _ => []
  | other => other.characters

/-- Whether the token that a piece is, if it is one, is written as JSON allows. -/
def Piece.IsValid (piece : Piece) : Prop :=
  ∀ token, piece = .lexeme (.token token) → token.IsValid

theorem withoutComments_token {token : Token} (valid : token.IsValid) :
    withoutComments (token.characters ++ rest) = token.characters ++ withoutComments rest := by
  cases token with
  | mark sort =>
      obtain ⟨noQuote, noSlash, -⟩ := isInert_character sort
      exact withoutComments_cons noQuote noSlash
  | text body =>
      have closed := closeString?_body valid rest
      simpa [Token.characters] using withoutComments_string closed
  | bare characters =>
      apply withoutComments_append
      intro character member
      have inert := valid.isInert character member
      exact ⟨fun quote => by simpa [isBare, quote] using inert.bare, inert.notSlash⟩

theorem withoutComments_piece {piece : Piece} (valid : piece.IsValid) :
    withoutComments (piece.characters ++ rest) = piece.uncommented ++ withoutComments rest := by
  cases piece with
  | lexeme lexeme =>
      cases lexeme with
      | token token => exact withoutComments_token (valid token rfl)
      | finalComma => exact withoutComments_cons (by decide) (by decide)
  | space blank isBlank =>
      refine withoutComments_cons ?_ ?_ <;>
        · rintro rfl
          exact absurd isBlank (by decide)
  | lineComment comment =>
      have line : withoutComments ('/' :: '/' :: (comment.content ++ '\n' :: rest)) =
          withoutComments ('\n' :: rest) := by
        rw [withoutComments_line, comment.dropWhile_append]
        rfl
      simpa [Piece.characters, Piece.uncommented, withoutComments_cons] using line
  | blockComment comment =>
      have closed := afterBlock?_append comment.noEnd rest
      simp [Piece.characters, Piece.uncommented, withoutComments_block closed]

theorem withoutComments_pieces {pieces : List Piece} (valid : ∀ piece ∈ pieces, piece.IsValid) :
    withoutComments (pieces.flatMap Piece.characters ++ rest) =
      pieces.flatMap Piece.uncommented ++ withoutComments rest := by
  induction pieces with
  | nil => rfl
  | cons piece others inductionHypothesis =>
      have remaining := inductionHypothesis fun other member =>
        valid other (List.mem_cons_of_mem piece member)
      rw [List.flatMap_cons, List.append_assoc,
        withoutComments_piece (valid piece List.mem_cons_self), remaining, List.flatMap_cons,
        List.append_assoc]

theorem withoutComments_unended (unended : Option LineComment) :
    withoutComments ((unended.map fun comment => '/' :: '/' :: comment.content).getD []) = [] := by
  cases unended with
  | none => simp [withoutComments]
  | some comment =>
      have dropped := comment.dropWhile_append []
      simp only [List.append_nil, List.dropWhile_nil] at dropped
      simp only [Option.map_some, Option.getD_some, withoutComments_line, dropped]
      simp [withoutComments]

/-- The first step of `plain` leaves every token as it is. -/
theorem withoutComments_characters {layout : Layout}
    (valid : ∀ piece ∈ layout.pieces, piece.IsValid) :
    withoutComments layout.characters = layout.pieces.flatMap Piece.uncommented := by
  rw [Layout.characters, withoutComments_pieces valid, withoutComments_unended, List.append_nil]

end Comments

/-! ## Last commas -/

section Commas

variable {first rest : List Char} {character : Char}

theorem closesNext_cons_of_blank (blank : Text.isBlank character = true) :
    closesNext (character :: rest) = closesNext rest := by
  simp [closesNext, blank]

theorem closesNext_cons_of_not_blank (notBlank : Text.isBlank character = false) :
    closesNext (character :: rest) = (character == '\x7d' || character == ']') := by
  simp [closesNext, notBlank]

/-- What stands behind a quote does not matter to what stands before it. -/
theorem closesNext_append_quote (first rest : List Char) :
    closesNext (first ++ '"' :: rest) = closesNext first := by
  induction first with
  | nil => simp [closesNext, show Text.isBlank '"' = false by decide]
  | cons character others inductionHypothesis =>
      cases blank : Text.isBlank character with
      | true =>
          rw [List.cons_append, closesNext_cons_of_blank blank, closesNext_cons_of_blank blank,
            inductionHypothesis]
      | false =>
          rw [List.cons_append, closesNext_cons_of_not_blank blank,
            closesNext_cons_of_not_blank blank]

theorem withoutTrailingCommas_cons (noComma : character ≠ ',') :
    withoutTrailingCommas (character :: rest) = character :: withoutTrailingCommas rest := by
  simp [withoutTrailingCommas, noComma]

theorem withoutTrailingCommas_append (noComma : ',' ∉ first) :
    withoutTrailingCommas (first ++ rest) = first ++ withoutTrailingCommas rest := by
  induction first with
  | nil => rfl
  | cons character others inductionHypothesis =>
      obtain ⟨notComma, remaining⟩ : ',' ≠ character ∧ ',' ∉ others := by
        simpa using noComma
      rw [List.cons_append, withoutTrailingCommas_cons (Ne.symm notComma),
        inductionHypothesis remaining, List.cons_append]

theorem withoutTrailingCommas_comma :
    withoutTrailingCommas (',' :: rest) =
      if closesNext rest then withoutTrailingCommas rest else ',' :: withoutTrailingCommas rest := by
  simp [withoutTrailingCommas]

theorem withoutTrailingCommas_append_quote (first rest : List Char) :
    withoutTrailingCommas (first ++ '"' :: rest) =
      withoutTrailingCommas first ++ '"' :: withoutTrailingCommas rest := by
  induction first with
  | nil => exact withoutTrailingCommas_cons (by decide)
  | cons character others inductionHypothesis =>
      by_cases comma : character = ','
      · subst comma
        rw [List.cons_append, withoutTrailingCommas_comma, withoutTrailingCommas_comma,
          closesNext_append_quote, inductionHypothesis]
        split <;> rfl
      · rw [List.cons_append, withoutTrailingCommas_cons comma, withoutTrailingCommas_cons comma,
          inductionHypothesis, List.cons_append]

/-- What both steps of `plain` leave of a piece. -/
def Piece.stripped : Piece → List Char
  | .lexeme (.token (.text body)) => '"' :: (withoutTrailingCommas body ++ ['"'])
  | .lexeme .finalComma => []
  | other => other.uncommented

theorem closesNext_token {token : Token} (valid : token.IsValid) :
    closesNext (token.characters ++ rest) = (Lexeme.token token).closes := by
  cases token with
  | mark sort =>
      obtain ⟨-, -, notBlank⟩ := isInert_character sort
      rw [Token.characters, List.singleton_append, closesNext_cons_of_not_blank notBlank]
      cases sort <;> rfl
  | text body => exact closesNext_cons_of_not_blank (by decide)
  | bare characters =>
      obtain ⟨first, others, rfl⟩ := List.exists_cons_of_ne_nil valid.ne_nil
      have inert := valid.isInert first List.mem_cons_self
      rw [Token.characters, List.cons_append, closesNext_cons_of_not_blank inert.notBlank]
      have opens : first ≠ '\x7d' ∧ first ≠ ']' := by
        constructor <;>
          · rintro rfl
            exact absurd inert.bare (by decide)
      simp [opens, Lexeme.closes]

/-- Behind the first step, what the next lexeme is decides whether a bracket or brace comes next. -/
theorem closesNext_uncommented {pieces : List Piece} (valid : ∀ piece ∈ pieces, piece.IsValid) :
    closesNext (pieces.flatMap Piece.uncommented) =
      (pieces.filterMap Piece.lexeme?).head?.any Lexeme.closes := by
  induction pieces with
  | nil => rfl
  | cons piece others inductionHypothesis =>
      have remaining := inductionHypothesis fun other member =>
        valid other (List.mem_cons_of_mem piece member)
      cases piece with
      | lexeme lexeme =>
          cases lexeme with
          | token token => exact closesNext_token (valid _ List.mem_cons_self token rfl)
          | finalComma => exact closesNext_cons_of_not_blank (by decide)
      | space blank isBlank =>
          exact (closesNext_cons_of_blank (isBlank_of_isSpace isBlank)).trans remaining
      | lineComment comment => exact (closesNext_cons_of_blank (by decide)).trans remaining
      | blockComment comment => exact remaining

theorem withoutTrailingCommas_token {token : Token} (valid : token.IsValid)
    (follows : token = .mark .comma → closesNext rest = false) :
    withoutTrailingCommas (token.characters ++ rest) =
      (Piece.lexeme (.token token)).stripped ++ withoutTrailingCommas rest := by
  cases token with
  | mark sort =>
      by_cases comma : sort = .comma
      · subst comma
        rw [Token.characters, List.singleton_append, Mark.character, withoutTrailingCommas_comma,
          follows rfl]
        rfl
      · apply withoutTrailingCommas_cons
        cases sort <;> simp_all [Mark.character]
  | text body =>
      have inside := withoutTrailingCommas_append_quote body rest
      simp [Token.characters, Piece.stripped, withoutTrailingCommas_cons, inside]
  | bare characters =>
      apply withoutTrailingCommas_append
      intro member
      exact absurd (valid.isInert ',' member).bare (by decide)

theorem withoutTrailingCommas_uncommented {pieces : List Piece}
    (valid : ∀ piece ∈ pieces, piece.IsValid)
    (orderly : Orderly (pieces.filterMap Piece.lexeme?)) :
    withoutTrailingCommas (pieces.flatMap Piece.uncommented) = pieces.flatMap Piece.stripped := by
  induction pieces with
  | nil => rfl
  | cons piece others inductionHypothesis =>
      have othersValid : ∀ other ∈ others, other.IsValid := fun other member =>
        valid other (List.mem_cons_of_mem piece member)
      have closing := closesNext_uncommented othersValid
      rw [List.flatMap_cons, List.flatMap_cons]
      cases piece with
      | lexeme lexeme =>
          obtain ⟨precedes, remaining⟩ := orderly
          rw [← inductionHypothesis othersValid remaining]
          cases lexeme with
          | token token =>
              apply withoutTrailingCommas_token (valid _ List.mem_cons_self token rfl)
              rintro rfl
              obtain ⟨next, found, opens⟩ := precedes
              simpa [found, opens] using closing
          | finalComma =>
              obtain ⟨next, found, closes⟩ := precedes
              have last : closesNext (others.flatMap Piece.uncommented) = true := by
                simpa [found, closes] using closing
              exact withoutTrailingCommas_comma.trans (if_pos last)
      | space blank isBlank =>
          rw [← inductionHypothesis othersValid orderly]
          apply withoutTrailingCommas_cons
          rintro rfl
          exact absurd isBlank (by decide)
      | lineComment comment =>
          rw [← inductionHypothesis othersValid orderly]
          exact withoutTrailingCommas_cons (by decide)
      | blockComment comment => exact inductionHypothesis othersValid orderly

end Commas

namespace Layout

variable {layout : Layout}

theorem IsDocument.isValid (document : layout.IsDocument) :
    ∀ piece ∈ layout.pieces, piece.IsValid := by
  rintro piece member token rfl
  exact document.valid member

/-- What `plain` makes of a document, piece by piece. -/
theorem IsDocument.toList_plain (document : layout.IsDocument) :
    (plain layout.text).toList = layout.pieces.flatMap Piece.stripped := by
  rw [plain, String.toList_ofList, text, String.toList_ofList,
    withoutComments_characters document.isValid]
  exact withoutTrailingCommas_uncommented document.isValid document.orderly

end Layout

end ImportBoundary.Json
