import ImportBoundary.Project.Settings
import ImportBoundary.Proofs.Json.Stripping
import Mathlib.Data.List.Flatten
import Mathlib.Data.List.TakeWhile

/-!
Contract: what reducing a document to plain JSON keeps.

Owns `HoldsClosedComma`, which tells the texts that lose a comma to the second step of `plain`.

Main statements: `tokenize_plain_of_keepsLiterals`, the tokens of a document with comments and last
commas come through if none of its string literals holds such a comma, and `plain_of_strict`, a
document that is plain JSON already stays as it is in exactly that case.
-/

namespace ImportBoundary.Json

/-! ## Texts that lose commas -/

/-- A comma that only blanks separate from a closing bracket or brace. -/
def HoldsClosedComma (text : List Char) : Prop :=
  ∃ before blanks closer after, text = before ++ ',' :: (blanks ++ closer :: after) ∧
    (∀ blank ∈ blanks, Text.isBlank blank = true) ∧ (closer = ']' ∨ closer = '\x7d')

section ClosedCommas

variable {character : Char} {text rest : List Char}

theorem closesNext_iff : closesNext text = true ↔
    ∃ blanks closer after, text = blanks ++ closer :: after ∧
      (∀ blank ∈ blanks, Text.isBlank blank = true) ∧ (closer = ']' ∨ closer = '\x7d') := by
  constructor
  · intro closes
    have split := List.takeWhile_append_dropWhile (p := Text.isBlank) (l := text)
    unfold closesNext at closes
    cases found : text.dropWhile Text.isBlank with
    | nil => simp [found] at closes
    | cons closer after =>
        refine ⟨text.takeWhile Text.isBlank, closer, after, ?_, ?_, ?_⟩
        · rw [← found, split]
        · exact fun blank member => List.mem_takeWhile_imp member
        · simpa [found, or_comm] using closes
  · rintro ⟨blanks, closer, after, rfl, allBlank, closing⟩
    have notBlank : Text.isBlank closer = false := by
      rcases closing with rfl | rfl <;> decide
    rw [closesNext, List.dropWhile_append_of_pos allBlank]
    rcases closing with rfl | rfl <;> simp [notBlank]

theorem holdsClosedComma_cons : HoldsClosedComma (character :: rest) ↔
    (character = ',' ∧ closesNext rest = true) ∨ HoldsClosedComma rest := by
  constructor
  · rintro ⟨before, blanks, closer, after, same, allBlank, closing⟩
    cases before with
    | nil =>
        obtain ⟨rfl, rfl⟩ := List.cons.inj same
        exact .inl ⟨rfl, closesNext_iff.mpr ⟨blanks, closer, after, rfl, allBlank, closing⟩⟩
    | cons head before =>
        obtain ⟨rfl, rfl⟩ := List.cons.inj same
        exact .inr ⟨before, blanks, closer, after, rfl, allBlank, closing⟩
  · rintro (⟨rfl, closes⟩ | ⟨before, blanks, closer, after, rfl, allBlank, closing⟩)
    · obtain ⟨blanks, closer, after, rfl, allBlank, closing⟩ := closesNext_iff.mp closes
      exact ⟨[], blanks, closer, after, rfl, allBlank, closing⟩
    · exact ⟨character :: before, blanks, closer, after, rfl, allBlank, closing⟩

theorem withoutTrailingCommas_sublist (text : List Char) :
    (withoutTrailingCommas text).Sublist text := by
  induction text with
  | nil => exact List.Sublist.refl _
  | cons character rest inductionHypothesis =>
      rw [withoutTrailingCommas]
      split
      · exact inductionHypothesis.cons character
      · exact inductionHypothesis.cons_cons character

theorem withoutTrailingCommas_eq_self_iff :
    withoutTrailingCommas text = text ↔ ¬ HoldsClosedComma text := by
  induction text with
  | nil =>
      have nothing : ¬ HoldsClosedComma [] := by
        rintro ⟨before, _, _, _, same, -⟩
        cases before <;> cases same
      simp [withoutTrailingCommas, nothing]
  | cons character rest inductionHypothesis =>
      rw [holdsClosedComma_cons, withoutTrailingCommas]
      by_cases closed : character = ',' ∧ closesNext rest = true
      · obtain ⟨rfl, closes⟩ := closed
        have shorter := (withoutTrailingCommas_sublist rest).length_le
        have changed : withoutTrailingCommas rest ≠ ',' :: rest := by
          intro same
          have lengths := congrArg List.length same
          simp only [List.length_cons] at lengths
          omega
        simp [closes, changed]
      · simp [closed, inductionHypothesis]

end ClosedCommas

/-! ## Thinned literals -/

/-- A token whose string literal, if it is one, has lost the commas that a closing bracket or brace
follows in it. -/
def Token.thinned : Token → Token
  | .text body => .text (withoutTrailingCommas body)
  | other => other

theorem Token.thinned_eq_self_iff {token : Token} :
    token.thinned = token ↔ ∀ body, token = .text body → ¬ HoldsClosedComma body := by
  cases token with
  | text body => simp [thinned, withoutTrailingCommas_eq_self_iff]
  | mark sort => simp [thinned]
  | bare characters => simp [thinned]

/-- Taking plain commas out of a string literal leaves a string literal. -/
theorem IsBody.withoutTrailingCommas {body : List Char} (written : IsBody body) :
    IsBody (withoutTrailingCommas body) := by
  induction written with
  | empty => exact .empty
  | plain noQuote noBackslash noControl body inductionHypothesis =>
      rw [Json.withoutTrailingCommas]
      split
      · exact inductionHypothesis
      · exact .plain noQuote noBackslash noControl inductionHypothesis
  | escaped known body inductionHypothesis =>
      have noComma : ∀ {letter : Char}, (escaped? letter).isSome = true → letter ≠ ',' := by
        rintro letter known rfl
        exact absurd known (by decide)
      rw [withoutTrailingCommas_cons (by decide), withoutTrailingCommas_cons (noComma known)]
      exact .escaped known inductionHypothesis
  | @code digits others four hexadecimal body inductionHypothesis =>
      have noComma : ',' ∉ digits := fun member =>
        (not_quote_of_hexDigit? (hexadecimal ',' member)).2.2 rfl
      rw [withoutTrailingCommas_cons (by decide), withoutTrailingCommas_cons (by decide),
        withoutTrailingCommas_append noComma]
      exact .code four hexadecimal inductionHypothesis

theorem Token.IsValid.thinned {token : Token} (valid : token.IsValid) : token.thinned.IsValid := by
  cases token with
  | text body => exact IsBody.withoutTrailingCommas valid
  | mark sort => exact valid
  | bare characters => exact valid

/-! ## Tokens of stripped text -/

/-- Whether a text does not go on with a number or word. -/
def ApartFromBare (text : List Char) : Prop :=
  ∀ character, text.head? = some character → isBare character = false

section Tokenize

variable {character : Char} {rest after literal : List Char}

theorem tokenize_space (space : isSpace character = true) :
    tokenize (character :: rest) = tokenize rest := by
  rw [tokenize, if_pos space]

theorem tokenize_mark (sort : Mark) :
    tokenize (sort.character :: rest) = (tokenize rest).map (Token.mark sort :: ·) := by
  have notSpace : isSpace sort.character = false := by
    cases sort <;> decide
  have notQuote : sort.character ≠ '"' := (isInert_character sort).1
  rw [tokenize]
  simp [notSpace, notQuote, Mark.of?_character]

theorem tokenize_text (closed : closeString? rest = some (literal, after)) :
    tokenize ('"' :: rest) = (tokenize after).map (Token.text literal.dropLast :: ·) := by
  have notSpace : isSpace '"' = false := by decide
  rw [tokenize]
  simp only [notSpace, Bool.false_eq_true, if_false, if_true]
  split
  · simp_all
  · simp_all

/-- A number or word ends where no further one goes on. -/
theorem tokenize_bare {characters : List Char} (valid : (Token.bare characters).IsValid)
    (apart : ApartFromBare rest) :
    tokenize (characters ++ rest) = (tokenize rest).map (Token.bare characters :: ·) := by
  obtain ⟨first, others, rfl⟩ := List.exists_cons_of_ne_nil valid.ne_nil
  have bare : ∀ character ∈ first :: others, isBare character = true :=
    fun character member => (valid.isInert character member).bare
  have ofFirst := bare first List.mem_cons_self
  have ofOthers : ∀ character ∈ others, isBare character = true :=
    fun character member => bare character (List.mem_cons_of_mem first member)
  have taken : rest.takeWhile isBare = [] ∧ rest.dropWhile isBare = rest := by
    cases rest with
    | nil => exact ⟨rfl, rfl⟩
    | cons next remaining => simp [apart next rfl]
  rw [List.cons_append, tokenize, List.takeWhile_append_of_pos ofOthers,
    List.dropWhile_append_of_pos ofOthers, taken.1, taken.2, List.append_nil]
  simp only [isBare, Bool.and_eq_true, Bool.not_eq_true', Option.isNone_iff_eq_none,
    bne_iff_ne] at ofFirst
  simp [ofFirst]

theorem tokenize_token {token : Token} (valid : token.IsValid)
    (apart : (Lexeme.token token).isBare = true → ApartFromBare rest) :
    tokenize (token.characters ++ rest) = (tokenize rest).map (token :: ·) := by
  cases token with
  | mark sort => exact tokenize_mark sort
  | text body =>
      have closed := closeString?_body valid rest
      simpa [Token.characters] using tokenize_text closed
  | bare characters => exact tokenize_bare valid (apart rfl)

end Tokenize

theorem stripped_lexeme (token : Token) :
    (Piece.lexeme (.token token)).stripped = token.thinned.characters := by
  cases token <;> rfl

theorem Lexeme.isBare_of_closes {lexeme : Lexeme} (closes : lexeme.closes = true) :
    lexeme.isBare = false := by
  cases lexeme with
  | finalComma => rfl
  | token token => cases token <;> simp_all [Lexeme.closes, Lexeme.isBare]

/-- If no number or word comes next among the lexemes, none comes next in the text. -/
theorem apartFromBare_stripped {pieces : List Piece}
    (orderly : Orderly (pieces.filterMap Piece.lexeme?))
    (begins : BeginsApart (pieces.filterMap Piece.lexeme?)) :
    ApartFromBare (pieces.flatMap Piece.stripped) := by
  induction pieces with
  | nil => exact fun _ impossible => nomatch impossible
  | cons piece others inductionHypothesis =>
      have ofHead : ∀ {head : Char} {remaining : List Char}, isBare head = false →
          ApartFromBare (head :: remaining) := by
        rintro head remaining notBare character same
        cases same
        exact notBare
      cases piece with
      | lexeme lexeme =>
          obtain ⟨precedes, remaining⟩ := orderly
          cases lexeme with
          | token token =>
              cases token with
              | mark sort =>
                  apply ofHead
                  cases sort <;> decide
              | text body => exact ofHead (by decide)
              | bare characters => cases begins _ rfl
          | finalComma =>
              apply inductionHypothesis remaining
              rintro lexeme found
              obtain ⟨next, same, closes⟩ := precedes
              cases found.symm.trans same
              exact Lexeme.isBare_of_closes closes
      | space blank isBlank =>
          apply ofHead
          simp [isBare, isBlank]
      | lineComment comment => exact ofHead (by decide)
      | blockComment comment => exact inductionHypothesis orderly begins

theorem tokenize_stripped {pieces : List Piece} (valid : ∀ piece ∈ pieces, piece.IsValid)
    (orderly : Orderly (pieces.filterMap Piece.lexeme?)) :
    tokenize (pieces.flatMap Piece.stripped) =
      some (((pieces.filterMap Piece.lexeme?).filterMap Lexeme.token?).map Token.thinned) := by
  induction pieces with
  | nil => simp [tokenize]
  | cons piece others inductionHypothesis =>
      have othersValid : ∀ other ∈ others, other.IsValid := fun other member =>
        valid other (List.mem_cons_of_mem piece member)
      rw [List.flatMap_cons]
      cases piece with
      | lexeme lexeme =>
          obtain ⟨precedes, remaining⟩ := orderly
          have ofOthers := inductionHypothesis othersValid remaining
          cases lexeme with
          | token token =>
              have tokenValid := (valid _ List.mem_cons_self token rfl).thinned
              have apart : (Lexeme.token token.thinned).isBare = true →
                  ApartFromBare (others.flatMap Piece.stripped) := by
                intro bare
                cases token with
                | bare characters => exact apartFromBare_stripped remaining precedes
                | mark sort => cases bare
                | text body => cases bare
              rw [stripped_lexeme, tokenize_token tokenValid apart, ofOthers]
              rfl
          | finalComma => exact ofOthers
      | space blank isBlank =>
          exact (tokenize_space isBlank).trans (inductionHypothesis othersValid orderly)
      | lineComment comment =>
          exact (tokenize_space (by decide)).trans (inductionHypothesis othersValid orderly)
      | blockComment comment => exact inductionHypothesis othersValid orderly

/-- A piece whose string literal, if it is one, is thinned. -/
def Piece.thinned : Piece → Piece
  | .lexeme (.token token) => .lexeme (.token token.thinned)
  | other => other

theorem Piece.characters_thinned {piece : Piece} (isPlain : piece.isPlain = true) :
    piece.thinned.characters = piece.stripped := by
  cases piece with
  | lexeme lexeme =>
      cases lexeme with
      | token token => exact (stripped_lexeme token).symm
      | finalComma => cases isPlain
  | space blank isBlank => rfl
  | lineComment comment => cases isPlain
  | blockComment comment => cases isPlain

theorem Piece.stripped_sublist {piece : Piece} (isPlain : piece.isPlain = true) :
    piece.stripped.Sublist piece.characters := by
  have literal (body : List Char) :=
    (((withoutTrailingCommas_sublist body).append_right ['"']).cons_cons '"')
  cases piece with
  | lexeme lexeme =>
      cases lexeme with
      | token token =>
          cases token with
          | text body => exact literal body
          | mark sort => exact List.Sublist.refl _
          | bare characters => exact List.Sublist.refl _
      | finalComma => cases isPlain
  | space blank isBlank => exact List.Sublist.refl _
  | lineComment comment => cases isPlain
  | blockComment comment => cases isPlain

/-- Parts that are shortened add up to a shorter text, unless none of them is. -/
theorem eq_of_flatMap_eq {part : Type} {short long : part → List Char} {parts : List part}
    (shortened : ∀ item ∈ parts, (short item).Sublist (long item))
    (same : parts.flatMap short = parts.flatMap long) :
    ∀ item ∈ parts, short item = long item := by
  induction parts with
  | nil => exact fun _ impossible => nomatch impossible
  | cons first others inductionHypothesis =>
      rw [List.forall_mem_cons] at shortened ⊢
      obtain ⟨ofFirst, ofOthers⟩ := shortened
      have remaining := List.Sublist.flatMap_right others ofOthers
      rw [List.flatMap_cons, List.flatMap_cons] at same
      have lengths := congrArg List.length same
      simp only [List.length_append] at lengths
      have firstLength : (short first).length = (long first).length := by
        have := ofFirst.length_le
        have := remaining.length_le
        omega
      obtain ⟨sameFirst, sameOthers⟩ := List.append_inj same firstLength
      exact ⟨sameFirst, inductionHypothesis ofOthers sameOthers⟩

/-! ## Documents -/

namespace Layout

variable {layout : Layout}

/-- The tokens that come through. -/
theorem IsDocument.tokenize_plain (document : layout.IsDocument) :
    tokenize (plain layout.text).toList = some (layout.tokens.map Token.thinned) := by
  rw [document.toList_plain]
  exact tokenize_stripped document.isValid document.orderly

/-- No string literal of the document holds a comma that a closing bracket or brace follows. -/
def KeepsLiterals (layout : Layout) : Prop :=
  ∀ body, Token.text body ∈ layout.tokens → ¬ HoldsClosedComma body

theorem KeepsLiterals.thinned_eq_self (keeps : layout.KeepsLiterals) {token : Token}
    (member : token ∈ layout.tokens) : token.thinned = token := by
  apply Token.thinned_eq_self_iff.mpr
  rintro body rfl
  exact keeps body member

/-- **Comments and last commas are accepted.** Whatever blanks and comments stand between the tokens
of a document and around it, and whichever of its arrays and objects end with one more comma, `plain`
leaves the tokens of the document, in order and as they are written, and nothing else. -/
theorem tokenize_plain_of_keepsLiterals (document : layout.IsDocument)
    (keeps : layout.KeepsLiterals) :
    tokenize (plain layout.text).toList = some layout.tokens := by
  have unchanged : ∀ token ∈ layout.tokens, token.thinned = token :=
    fun token member => keeps.thinned_eq_self member
  rw [document.tokenize_plain, List.map_congr_left unchanged, List.map_id']

/-- A comment, a name with comment marks and an escaped quote in it, one more comma in the array and
in the object, and a comment that the text ends in. -/
def commentedDocument : Layout where
  pieces := [
    .lineComment ⟨[' ', '"', ','], by decide⟩,
    .lexeme (.mark .openObject),
    .lexeme (.text ['/', '/', '\\', '"', '*', '/']),
    .space ' ' rfl,
    .lexeme (.mark .colon),
    .blockComment ⟨[']', '"', '*'], by decide⟩,
    .lexeme (.mark .openArray),
    .lexeme (.bare ['-', '1', '.', '5', 'e', '3']),
    .lexeme .finalComma,
    .blockComment ⟨['/', '\n'], by decide⟩,
    .space '\n' rfl,
    .lexeme (.mark .closeArray),
    .lexeme .finalComma,
    .lineComment ⟨[], by decide⟩,
    .lexeme (.mark .closeObject)]
  unended := some ⟨['\x7d'], by decide⟩

theorem commentedDocument_isDocument : commentedDocument.IsDocument := by
  have name : (Token.text ['/', '/', '\\', '"', '*', '/']).IsValid := by
    refine .plain ?_ ?_ ?_ (.plain ?_ ?_ ?_ (.escaped ?_ (isBody_of_all ?_)))
    all_goals decide
  have number : (Token.bare ['-', '1', '.', '5', 'e', '3']).IsValid := by
    refine .inr ⟨['-'], ['1'], ['.', '5'], ['e', '3'], rfl, .inr rfl, .inr ⟨?_, ?_⟩,
      .inr ⟨['5'], ?_, rfl⟩, .inr ⟨'e', [], ['3'], .inl rfl, .inl rfl, ?_, rfl⟩⟩
    all_goals decide
  have array := Writes.array true (.lastElement (.bare number))
  exact Writes.object true (.lastMember name array)

theorem tokenize_plain_of_comments :
    commentedDocument.text =
        "// \",\n\x7b\"//\\\"*/\" :/*]\"**/[-1.5e3,/*/\n*/\n],//\n\x7d//\x7d" ∧
      tokenize (plain commentedDocument.text).toList = some [
        .mark .openObject, .text ['/', '/', '\\', '"', '*', '/'], .mark .colon, .mark .openArray,
        .bare ['-', '1', '.', '5', 'e', '3'], .mark .closeArray, .mark .closeObject] := by
  have keeps : commentedDocument.KeepsLiterals := by
    intro body member
    apply withoutTrailingCommas_eq_self_iff.mp
    have same : ['/', '/', '\\', '"', '*', '/'] = body := by
      simpa [tokens, lexemes, commentedDocument, Piece.lexeme?, Lexeme.token?, Lexeme.mark,
        Lexeme.text, Lexeme.bare] using member
    subst same
    rfl
  exact ⟨rfl, tokenize_plain_of_keepsLiterals commentedDocument_isDocument keeps⟩

/-! ### Plain documents -/

/-- The document with thinned literals, written with the same blanks and comments. -/
def thinned (layout : Layout) : Layout where
  pieces := layout.pieces.map Piece.thinned
  unended := layout.unended

theorem mem_tokens {token : Token} :
    token ∈ layout.tokens ↔ Piece.lexeme (.token token) ∈ layout.pieces := by
  simp only [tokens, lexemes, List.mem_filterMap]
  constructor
  · rintro ⟨lexeme, ⟨piece, member, found⟩, same⟩
    cases piece with
    | lexeme written =>
        cases found
        cases lexeme with
        | token written =>
            cases same
            exact member
        | finalComma => cases same
    | _ => cases found
  · intro member
    exact ⟨.token token, ⟨_, member, rfl⟩, rfl⟩

theorem IsStrict.text_eq (strict : layout.IsStrict) :
    layout.text = String.ofList (layout.pieces.flatMap Piece.characters) := by
  simp [text, characters, strict.ended]

theorem IsStrict.thinned_text (strict : layout.IsStrict) :
    layout.thinned.text = String.ofList (layout.pieces.flatMap Piece.stripped) := by
  have pieceByPiece : ∀ piece ∈ layout.pieces, piece.thinned.characters = piece.stripped :=
    fun piece member => Piece.characters_thinned (strict.plain piece member)
  simp only [text, characters, thinned, strict.ended, List.flatMap_map]
  simp [List.flatMap_congr pieceByPiece]

/-- The text of a plain document tells what stands in its literals. -/
theorem IsStrict.text_inj (strict : layout.IsStrict)
    (same : layout.thinned.text = layout.text) : layout.KeepsLiterals := by
  have pieceByPiece : ∀ piece ∈ layout.pieces, piece.stripped = piece.characters := by
    apply eq_of_flatMap_eq
    · exact fun piece member => Piece.stripped_sublist (strict.plain piece member)
    · rw [strict.thinned_text, strict.text_eq] at same
      exact String.ofList_injective same
  intro body member
  have literal := pieceByPiece _ (mem_tokens.mp member)
  apply withoutTrailingCommas_eq_self_iff.mp
  simpa [Piece.stripped, Piece.characters, Token.characters] using literal

/-- **What becomes of plain JSON.** A document without comments and last commas is written as before,
except that its string literals lose the commas that a closing bracket or brace follows in them. So
the text stays as it is if and only if no literal holds such a comma. -/
theorem plain_of_strict (document : layout.IsDocument) (strict : layout.IsStrict) :
    plain layout.text = layout.thinned.text ∧
      (plain layout.text = layout.text ↔ layout.KeepsLiterals) := by
  have written : plain layout.text = layout.thinned.text := by
    rw [strict.thinned_text, ← document.toList_plain, String.ofList_toList]
  refine ⟨written, ?_, ?_⟩
  · intro unchanged
    exact strict.text_inj (written.symm.trans unchanged)
  · intro keeps
    have tokenByToken : ∀ piece ∈ layout.pieces, piece.thinned = piece := by
      intro piece member
      cases piece with
      | lexeme lexeme =>
          cases lexeme with
          | token token =>
              rw [Piece.thinned, keeps.thinned_eq_self (mem_tokens.mpr member)]
          | finalComma => rfl
      | _ => rfl
    rw [written, thinned, List.map_congr_left tokenByToken, List.map_id']

/-- One literal that is all there is to tell from comments and last commas: `"//,x]"`. -/
def literalDocument : Layout where
  pieces := [.space ' ' rfl, .lexeme (.text ['/', '/', ',', 'x', ']'])]
  unended := none

theorem plain_of_literal : plain literalDocument.text = literalDocument.text := by
  have document : literalDocument.IsDocument := .text (isBody_of_all (by decide))
  have strict : literalDocument.IsStrict := ⟨by decide, rfl⟩
  have keeps : literalDocument.KeepsLiterals := by
    intro body member
    apply withoutTrailingCommas_eq_self_iff.mp
    have same : ['/', '/', ',', 'x', ']'] = body := by
      simpa [tokens, lexemes, literalDocument, Piece.lexeme?, Lexeme.token?, Lexeme.text]
        using member
    subst same
    rfl
  exact (plain_of_strict document strict).2.mpr keeps

/-- A name that holds a comma before a closing bracket, in an array. -/
def nameWithComma : Layout where
  pieces := [
    .lexeme (.mark .openObject),
    .lexeme (.text ['f', 'i', 'l', 'e', 's']),
    .lexeme (.mark .colon),
    .lexeme (.mark .openArray),
    .lexeme (.text ['a', ',', ']']),
    .lexeme (.mark .closeArray),
    .lexeme (.mark .closeObject)]
  unended := none

/-- Plain JSON does not always stay as it is, and the settings that are read from it name another
file. -/
theorem name_changed_by_plain :
    nameWithComma.IsDocument ∧ nameWithComma.IsStrict ∧
      nameWithComma.text = "\x7b\"files\":[\"a,]\"]\x7d" ∧
      plain nameWithComma.text = "\x7b\"files\":[\"a]\"]\x7d" ∧
      (read nameWithComma.text).map (Project.readField · "files") = .ok ([], ["a,]"]) ∧
      (read (plain nameWithComma.text)).map (Project.readField · "files") = .ok ([], ["a]"]) := by
  refine ⟨?_, ⟨by decide, rfl⟩, rfl, ?_, ?_, ?_⟩
  · have key : (Token.text ['f', 'i', 'l', 'e', 's']).IsValid := isBody_of_all (by decide)
    have name : (Token.text ['a', ',', ']']).IsValid := isBody_of_all (by decide)
    have array := Writes.array false (.lastElement (.text name))
    exact Writes.object false (.lastMember key array)
  all_goals decide +kernel

end Layout

end ImportBoundary.Json
