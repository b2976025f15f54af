import ImportBoundary.Text.Quoted

/-!
Contract: the tokens of statement texts.

Owns the cutting of a text into marks and words, where a literal between quotes stays in one word
with the blanks and marks within it, and `Renders`, by which a part of a text keeps its tokens in
every text it ends apart in.

Main statements: `Renders.word`, `Renders.append` and `tokens_of_renders`, from which the tokens of a
text are put together as the text is.
-/

namespace ImportBoundary.Text

/-- Where a reader of a statement stands: between words or within one, within a literal, or after a
backslash in a literal. -/
inductive Mode where
  | plain
  | within (quote : Char)
  | escaped (quote : Char)
deriving DecidableEq

/-- Whether a character begins a literal. -/
def isQuote (character : Char) : Bool :=
  character == singleQuote || character == '"'

/-- The mode after one more character of a word. -/
def Mode.next : Mode → Char → Mode
  | .plain, character => if isQuote character then .within character else .plain
  | .within quote, character =>
      if character = '\\' then .escaped quote
      else if character = quote then .plain
      else .within quote
  | .escaped quote, _ => .within quote

/-- Whether a character only keeps words apart. -/
def isSpace (character : Char) : Bool :=
  character == ' ' || character == '\n'

/-- Whether a character is a token of its own. -/
def isPunctuation (character : Char) : Bool :=
  ['{', '}', ',', '*'].contains character

/-- Whether a character ends the word before it. -/
def Mode.endsWord (mode : Mode) (character : Char) : Bool :=
  mode = .plain && (isSpace character || isPunctuation character)

/-- The word read so far, unless there is none. -/
def wordRead (word : List Char) : List String :=
  if word.isEmpty then [] else [String.ofList word]

/-- The tokens of a text from a mode on, after the word read so far. -/
def tokensFrom : Mode → List Char → List Char → List String
  | _, word, [] => wordRead word
  | mode, word, character :: rest =>
      if mode.endsWord character then
        wordRead word ++ (if isSpace character then [] else [String.singleton character]) ++
          tokensFrom .plain [] rest
      else tokensFrom (mode.next character) (word ++ [character]) rest

/-- The words and marks of a text in order. -/
def tokens (text : String) : List String :=
  tokensFrom .plain [] text.toList

/-- Whether a text read from a mode on stays within one word, and every literal in it is closed. -/
def staysWithin : Mode → List Char → Bool
  | mode, [] => mode = .plain
  | mode, character :: rest =>
      !mode.endsWord character && staysWithin (mode.next character) rest

/-- Whether a text is one word, such as a name or a literal. -/
def IsWord (text : String) : Prop :=
  text ≠ "" ∧ staysWithin .plain text.toList = true

instance (text : String) : Decidable (IsWord text) :=
  inferInstanceAs (Decidable (text ≠ "" ∧ staysWithin .plain text.toList = true))

/-- Whether a text holds no quote. -/
def QuoteFree (text : String) : Prop :=
  ∀ character ∈ text.toList, isQuote character = false

-- Only the characters of the text are looked at, whatever else decides statements on characters.
instance (text : String) : Decidable (QuoteFree text) :=
  List.decidableBAll (isQuote · = false) text.toList

/-- Whether a text is a plain name: not empty, and without spaces, marks and quotes. -/
structure IsPlain (text : String) : Prop where
  ne_empty : text ≠ ""
  plain : ∀ character ∈ text.toList, isSpace character = false ∧ isPunctuation character = false
  quoteFree : QuoteFree text

instance (text : String) : Decidable (IsPlain text) :=
  have := List.decidableBAll
    (fun character => isSpace character = false ∧ isPunctuation character = false) text.toList
  decidable_of_iff (text ≠ "" ∧ (∀ character ∈ text.toList, isSpace character = false ∧
      isPunctuation character = false) ∧ QuoteFree text)
    ⟨fun ⟨ne_empty, plain, quoteFree⟩ => ⟨ne_empty, plain, quoteFree⟩,
      fun isPlain => ⟨isPlain.ne_empty, isPlain.plain, isPlain.quoteFree⟩⟩

/-- Whether a text begins as a literal does. -/
def BeginsWithQuote (text : String) : Prop :=
  ∃ quote rest, isQuote quote = true ∧ text.toList = quote :: rest

instance (text : String) : Decidable (BeginsWithQuote text) :=
  match written : text.toList with
  | [] => isFalse fun ⟨_, _, _, begins⟩ => by
      rw [written] at begins
      cases begins
  | quote :: rest =>
      if isFirst : isQuote quote = true then isTrue ⟨quote, rest, isFirst, written⟩
      else isFalse fun ⟨_, _, isOther, begins⟩ => by
        rw [written] at begins
        cases begins
        exact isFirst isOther

theorem BeginsWithQuote.ne_empty {text : String} (begins : BeginsWithQuote text) : text ≠ "" := by
  obtain ⟨quote, rest, _, written⟩ := begins
  rintro rfl
  cases written

/-! ## Words -/

/-- What stays within a word is added to the word read so far. -/
theorem tokensFrom_append {mode : Mode} {characters : List Char}
    (stays : staysWithin mode characters = true) (word rest : List Char) :
    tokensFrom mode word (characters ++ rest) = tokensFrom .plain (word ++ characters) rest := by
  induction characters generalizing mode word with
  | nil =>
      have isPlain : mode = .plain := by simpa [staysWithin] using stays
      rw [isPlain, List.nil_append, List.append_nil]
  | cons character remaining inductionHypothesis =>
      obtain ⟨goesOn, remainingStays⟩ : mode.endsWord character = false ∧
          staysWithin (mode.next character) remaining = true := by
        simpa [staysWithin] using stays
      rw [List.cons_append, tokensFrom, goesOn, if_neg Bool.false_ne_true,
        inductionHypothesis remainingStays, List.append_assoc, List.singleton_append]

/-- Two texts, each of which stays within a word, stay within one together. -/
theorem staysWithin_append {mode : Mode} {characters : List Char}
    (stays : staysWithin mode characters = true) (rest : List Char) :
    staysWithin mode (characters ++ rest) = staysWithin .plain rest := by
  induction characters generalizing mode with
  | nil =>
      have isPlain : mode = .plain := by simpa [staysWithin] using stays
      rw [isPlain, List.nil_append]
  | cons character remaining inductionHypothesis =>
      obtain ⟨goesOn, remainingStays⟩ : mode.endsWord character = false ∧
          staysWithin (mode.next character) remaining = true := by
        simpa [staysWithin] using stays
      rw [List.cons_append, staysWithin, goesOn, inductionHypothesis remainingStays, Bool.not_false,
        Bool.true_and]

theorem IsWord.append {left right : String} (isLeft : IsWord left) (isRight : IsWord right) :
    IsWord (left ++ right) := by
  constructor
  · intro empty
    have joined := congrArg String.toList empty
    rw [String.toList_append, String.toList_empty, List.append_eq_nil_iff] at joined
    exact isLeft.1 (String.toList_eq_nil_iff.mp joined.1)
  · rw [String.toList_append, staysWithin_append isLeft.2, isRight.2]

private theorem staysWithin_of_plain {characters : List Char}
    (plain : ∀ character ∈ characters, isSpace character = false ∧ isPunctuation character = false)
    (quoteFree : ∀ character ∈ characters, isQuote character = false) :
    staysWithin .plain characters = true := by
  induction characters with
  | nil => rfl
  | cons character rest inductionHypothesis =>
      obtain ⟨noSpace, noMark⟩ := plain character List.mem_cons_self
      have noQuote := quoteFree character List.mem_cons_self
      have remaining := inductionHypothesis
        (fun other member => plain other (List.mem_cons_of_mem character member))
        (fun other member => quoteFree other (List.mem_cons_of_mem character member))
      simp [staysWithin, Mode.endsWord, Mode.next, noSpace, noMark, noQuote, remaining]

/-- Plain names are words. -/
theorem IsPlain.isWord {name : String} (isPlain : IsPlain name) : IsWord name :=
  ⟨isPlain.ne_empty, staysWithin_of_plain isPlain.plain isPlain.quoteFree⟩

/-- The marks are no words. -/
theorem IsWord.ne_singleton {word : String} (isWord : IsWord word) {mark : Char}
    (isMark : isPunctuation mark = true) : word ≠ String.singleton mark := by
  rintro rfl
  have stays := isWord.2
  simp [staysWithin, Mode.endsWord, isMark] at stays

/-! ## Quotes -/

theorem QuoteFree.append {left right : String} (leftFree : QuoteFree left)
    (rightFree : QuoteFree right) : QuoteFree (left ++ right) := by
  intro character member
  rw [String.toList_append] at member
  rcases List.mem_append.mp member with inLeft | inRight
  · exact leftFree character inLeft
  · exact rightFree character inRight

theorem QuoteFree.intercalate {texts : List String} (each : ∀ text ∈ texts, QuoteFree text) :
    QuoteFree (String.intercalate ", " texts) := by
  induction texts with
  | nil =>
      rw [String.intercalate_nil]
      decide
  | cons text rest inductionHypothesis =>
      have first := each text List.mem_cons_self
      have remaining := inductionHypothesis fun other member =>
        each other (List.mem_cons_of_mem text member)
      cases rest with
      | nil =>
          rw [String.intercalate_singleton]
          exact first
      | cons second others =>
          rw [String.intercalate_cons_cons]
          exact (first.append (by decide)).append remaining

/-- A text is cut in one way before its first quote. -/
theorem eq_of_append_beginsWithQuote {left right leftRest rightRest : String}
    (leftFree : QuoteFree left) (rightFree : QuoteFree right)
    (leftBegins : BeginsWithQuote leftRest) (rightBegins : BeginsWithQuote rightRest)
    (same : left ++ leftRest = right ++ rightRest) : left = right ∧ leftRest = rightRest := by
  have cut : ∀ {free rest : String}, QuoteFree free → BeginsWithQuote rest →
      (free ++ rest).toList.takeWhile (!isQuote ·) = free.toList := by
    intro free rest quoteFree begins
    obtain ⟨quote, remaining, isQuoteFirst, written⟩ := begins
    have goesOn : ∀ character ∈ free.toList, (!isQuote character) = true := by
      intro character member
      rw [quoteFree character member, Bool.not_false]
    rw [String.toList_append, List.takeWhile_append_of_pos goesOn, written]
    simp [isQuoteFirst]
  have firsts : left = right := by
    rw [← String.toList_inj, ← cut leftFree leftBegins, same, cut rightFree rightBegins]
  refine ⟨firsts, ?_⟩
  rw [firsts, ← String.toList_inj, String.toList_append, String.toList_append] at same
  exact String.toList_inj.mp (List.append_cancel_left same)

/-! ## Parts of a text -/

/-- Whether a text that comes next ends the word before it. -/
def Apart (rest : List Char) : Prop :=
  ∀ character ∈ rest.head?, Mode.plain.endsWord character = true

/-- A part of a text has these tokens, whatever comes next that ends its last word. -/
def Renders (part : List Char) (read : List String) : Prop :=
  ∀ rest, Apart rest → tokensFrom .plain [] (part ++ rest) = read ++ tokensFrom .plain [] rest

theorem apart_nil : Apart [] := by
  intro character isHead
  cases isHead

theorem apart_cons {character : Char} (ends : Mode.plain.endsWord character = true)
    (rest : List Char) : Apart (character :: rest) := by
  intro head isHead
  cases isHead
  exact ends

theorem Apart.append {part rest : List Char} (partApart : Apart part) (restApart : Apart rest) :
    Apart (part ++ rest) := by
  cases part with
  | nil => exact restApart
  | cons character remaining => exact apart_cons (partApart character rfl) _

theorem tokens_of_renders {text : String} {read : List String}
    (renders : Renders text.toList read) : tokens text = read := by
  have whole := renders [] apart_nil
  rw [List.append_nil] at whole
  rw [tokens, whole, tokensFrom, wordRead, List.isEmpty_nil, if_pos rfl, List.append_nil]

namespace Renders

variable {part next : List Char} {read later : List String}

theorem nil : Renders [] [] :=
  fun _ _ => rfl

/-- What ends a word ends it, and is read on its own. -/
private theorem tokensFrom_of_apart {rest : List Char} (apart : Apart rest) (word : List Char) :
    tokensFrom .plain word rest = wordRead word ++ tokensFrom .plain [] rest := by
  cases rest with
  | nil => simp [tokensFrom, wordRead]
  | cons character remaining =>
      have ends := apart character rfl
      rw [tokensFrom, if_pos ends, tokensFrom, if_pos ends]
      simp [wordRead]

theorem word {name : String} (isWord : IsWord name) : Renders name.toList [name] := by
  intro rest apart
  have written : name.toList.isEmpty = false := by
    rw [List.isEmpty_eq_false_iff]
    exact fun empty => isWord.1 (String.toList_eq_nil_iff.mp empty)
  rw [tokensFrom_append isWord.2, List.nil_append, tokensFrom_of_apart apart, wordRead, written,
    if_neg Bool.false_ne_true, String.ofList_toList]

/-- Parts follow one another if the second ends the last word of the first. -/
theorem append (first : Renders part read) (second : Renders next later) (apart : Apart next) :
    Renders (part ++ next) (read ++ later) := by
  intro rest restApart
  rw [List.append_assoc, first (next ++ rest) (apart.append restApart), second rest restApart,
    List.append_assoc]

theorem blank {character : Char} (isBlank : isSpace character = true)
    (renders : Renders part read) : Renders (character :: part) read := by
  intro rest apart
  have ends : Mode.plain.endsWord character = true := by simp [Mode.endsWord, isBlank]
  rw [List.cons_append, tokensFrom, if_pos ends, if_pos isBlank, renders rest apart]
  rfl

theorem space (renders : Renders part read) : Renders (' ' :: part) read :=
  renders.blank rfl

/-- Parts with a space between them. -/
theorem spaced (first : Renders part read) (second : Renders next later) :
    Renders (part ++ ' ' :: next) (read ++ later) :=
  first.append second.space (apart_cons rfl next)

theorem mark {character : Char} (isMark : isPunctuation character = true)
    (noSpace : isSpace character = false) (renders : Renders part read) :
    Renders (character :: part) (String.singleton character :: read) := by
  intro rest apart
  have ends : Mode.plain.endsWord character = true := by simp [Mode.endsWord, isMark]
  rw [List.cons_append, tokensFrom, if_pos ends, noSpace, renders rest apart]
  simp [wordRead]

/-- Texts with a comma and a space between them. -/
theorem intercalate {α : Type} {entries : List α} {text : α → String} {entryRead : α → List String}
    (each : ∀ entry ∈ entries, Renders (text entry).toList (entryRead entry)) :
    Renders (String.intercalate ", " (entries.map text)).toList
      ([","].intercalate (entries.map entryRead)) := by
  induction entries with
  | nil => exact nil
  | cons entry rest inductionHypothesis =>
      have first := each entry List.mem_cons_self
      have remaining := inductionHypothesis fun other member =>
        each other (List.mem_cons_of_mem entry member)
      cases rest with
      | nil =>
          rw [List.map_singleton, List.map_singleton, String.intercalate_singleton,
            List.intercalate_singleton]
          exact first
      | cons second others =>
          rw [List.map_cons, List.map_cons, List.map_cons, List.map_cons,
            String.intercalate_cons_cons, List.intercalate_cons_cons, String.toList_append,
            String.toList_append, List.append_assoc, List.append_assoc]
          apply first.append
          · exact (remaining.space).mark rfl rfl
          · exact apart_cons rfl _

end Renders

end ImportBoundary.Text
