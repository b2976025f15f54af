/-!
Contract: shell wildcards over one text.

Owns the tokens of a pattern, their reading from text, and matching. `*` stands for any run of
characters, slashes and line feeds included, `?` for any one character, and `[...]` for one
character of a set, negated by a leading `!`. There is no escape character, and letters match
case for case.

Main statement: `any_isEmpty_foldl_advance`. What the tokens accept is decided in one pass over them,
which carries all that can remain of the text, and so takes no longer than the product of the two
lengths.

A set is cut at the hyphens that stand between two characters; a hyphen at either end, or where a
range has just ended, is an ordinary character. A range whose ends are in descending order is
empty, and takes its two ends with it.
-/

namespace ImportBoundary.Wildcard

/-- One element of a pattern. -/
inductive Token where
  /-- Any run of characters. -/
  | run
  /-- Any one character. -/
  | any
  /-- This character. -/
  | exactly (character : Char)
  /-- A character within one of the ranges, or within none of them. -/
  | set (negated : Bool) (ranges : List (Char × Char))
deriving DecidableEq, Repr

/-- The given character if it comes first, and the rest. -/
def leading (expected : Char) : List Char → List Char × List Char
  | [] => ([], [])
  | character :: rest =>
    if character = expected then ([character], rest) else ([], character :: rest)

/-- What follows a leading character is no longer than the whole. -/
theorem length_leading_le (expected : Char) (text : List Char) :
    (leading expected text).2.length ≤ text.length := by
  cases text with
  | nil => simp [leading]
  | cons character rest =>
    by_cases same : character = expected <;> simp [leading, same]

/-- The text between the brackets of a set, and what follows it, from the text after the opening
bracket. A closing bracket that comes first does not close. -/
def setBody? (afterBracket : List Char) : Option (List Char × List Char) :=
  let sign := leading '!' afterBracket
  let first := leading ']' sign.2
  match first.2.dropWhile (· ≠ ']') with
  | [] => none
  | _ :: after => some (sign.1 ++ first.1 ++ first.2.takeWhile (· ≠ ']'), after)

/-- What follows a set is shorter than the text after its opening bracket. -/
theorem length_lt_of_setBody? {afterBracket body after : List Char}
    (found : setBody? afterBracket = some (body, after)) : after.length < afterBracket.length := by
  have signShorter := length_leading_le '!' afterBracket
  have firstShorter := length_leading_le ']' (leading '!' afterBracket).2
  have bodyShorter := (List.dropWhile_suffix (· ≠ ']')
    (l := (leading ']' (leading '!' afterBracket).2).2)).length_le
  simp only [setBody?] at found
  split at found
  · exact absurd found (by simp)
  · rename_i remaining
    simp only [Option.some.injEq, Prod.mk.injEq] at found
    rw [remaining, List.length_cons, found.2] at bodyShorter
    omega

/-- Cut a set at its range hyphens. The next `guarded` characters cannot be one: a range has a
character on either side. -/
def cutAtHyphens (guarded : Nat) (piece : List Char) : List Char → List (List Char)
  | [] => [piece.reverse]
  | character :: rest =>
    match guarded with
    | guarded + 1 => cutAtHyphens guarded (character :: piece) rest
    | 0 =>
      if character = '-' then piece.reverse :: cutAtHyphens 2 [] rest
      else cutAtHyphens 0 (character :: piece) rest

/-- An empty last piece means that the last hyphen ended the set: it belongs to the piece before. -/
def keepLastHyphen : List (List Char) → List (List Char)
  | [] => []
  | [piece] => [piece]
  | [piece, []] => [piece ++ ['-']]
  | piece :: rest => piece :: keepLastHyphen rest

/-- Join two neighbouring pieces whose range would be in descending order, without its ends. -/
def dropDescending (piece : List Char) (pieces : List (List Char)) : List (List Char) :=
  match pieces with
  | [] => [piece]
  | next :: rest =>
    match piece.getLast?, next.head? with
    | some low, some high =>
      if high < low then (piece.dropLast ++ next.drop 1) :: rest else piece :: pieces
    | _, _ => piece :: pieces

/-- Each character on its own, and each range between two neighbouring pieces. -/
def rangesOf : List (List Char) → List (Char × Char)
  | [] => []
  | [piece] => piece.map fun character => (character, character)
  | piece :: next :: rest =>
    piece.map (fun character => (character, character)) ++
      (match piece.getLast?, next.head? with
        | some low, some high => [(low, high)]
        | _, _ => []) ++
      rangesOf (next :: rest)

/-- The token of a set from the text between its brackets. A set that has lost all its characters
matches nothing, and its negation matches any one character. -/
def setToken (body : List Char) : Token :=
  let guarded := if body.head? = some '!' then 2 else 1
  let pieces := (keepLastHyphen (cutAtHyphens guarded [] body)).foldr dropDescending []
  match pieces with
  | ['!'] :: next :: rest => .set true (('-', '-') :: rangesOf (next :: rest))
  | ('!' :: piece) :: rest => .set true (rangesOf (piece :: rest))
  | pieces => .set false (rangesOf pieces)

/-- The tokens of a pattern. A bracket that is never closed stands for itself. -/
def tokens : List Char → List Token
  | [] => []
  | character :: rest =>
    if character = '*' then .run :: tokens rest
    else if character = '?' then .any :: tokens rest
    else if character = '[' then
      match _found : setBody? rest with
      | none => .exactly '[' :: tokens rest
      | some (body, after) => setToken body :: tokens after
    else .exactly character :: tokens rest
termination_by pattern => pattern.length
decreasing_by
  all_goals simp only [List.length_cons]
  · omega
  · omega
  · omega
  · have := length_lt_of_setBody? _found
    omega
  · omega

/-- Whether a token that stands for one character stands for this one. -/
def Token.accepts (character : Char) : Token → Bool
  | .run => false
  | .any => true
  | .exactly expected => character == expected
  | .set negated ranges =>
    negated != ranges.any fun range => range.1 ≤ character && character ≤ range.2

/-- A list and its ends, longest first. -/
def ends {α : Type} : List α → List (List α)
  | [] => [[]]
  | head :: tail => (head :: tail) :: ends tail

/-- The ends of a list are its suffixes. -/
theorem mem_ends {α : Type} {part whole : List α} : part ∈ ends whole ↔ part <:+ whole := by
  induction whole with
  | nil => simp [ends]
  | cons head tail hypothesis => simp [ends, hypothesis, List.suffix_cons_iff]

/-- Whether the whole text is matched by the tokens. -/
def accepts : List Token → List Char → Bool
  | [], text => text.isEmpty
  | .run :: rest, text => (ends text).any (accepts rest)
  | token :: rest, text =>
    match text with
    | [] => false
    | character :: after => token.accepts character && accepts rest after

/-- What remains of a text after a token that stands for its first character. -/
def afterOne (token : Token) : List Char → Option (List Char)
  | [] => none
  | character :: after => if token.accepts character then some after else none

/-- All that can remain of a text after one more token, from what could remain before it. Both are in
order, longest first; the ends of the longest are the ends of all. -/
def advance (remaining : List (List Char)) : Token → List (List Char)
  | .run =>
    match remaining with
    | [] => []
    | longest :: _ => ends longest
  | token => remaining.filterMap (afterOne token)

/-- Each text ends in all that follow it. -/
def Nested (remaining : List (List Char)) : Prop :=
  remaining.Pairwise fun longer shorter => shorter <:+ longer

/-- The ends of a list are nested. -/
theorem nested_ends (text : List Char) : Nested (ends text) := by
  induction text with
  | nil => simp [Nested, ends]
  | cons head tail hypothesis =>
    refine List.pairwise_cons.2 ⟨fun part member => ?_, hypothesis⟩
    exact (mem_ends.1 member).trans (List.suffix_cons head tail)

/-- One character less on both sides keeps one text an end of the other. -/
theorem suffix_of_afterOne {token : Token} {longer shorter afterLonger afterShorter : List Char}
    (suffix : shorter <:+ longer) (first : afterOne token longer = some afterLonger)
    (second : afterOne token shorter = some afterShorter) : afterShorter <:+ afterLonger := by
  cases longer with
  | nil => simp [afterOne] at first
  | cons head tail =>
    cases shorter with
    | nil => simp [afterOne] at second
    | cons initial others =>
      simp only [afterOne, Option.ite_none_right_eq_some, Option.some.injEq] at first second
      rw [← first.2, ← second.2]
      rcases List.suffix_cons_iff.1 suffix with same | below
      · exact (List.cons.inj same).2 ▸ List.suffix_refl others
      · exact (List.suffix_cons initial others).trans below

/-- A token keeps what remains nested. -/
theorem nested_advance {remaining : List (List Char)} (nested : Nested remaining) (token : Token) :
    Nested (advance remaining token) := by
  have shortened : ∀ single : Token, Nested (remaining.filterMap (afterOne single)) := by
    intro single
    refine List.pairwise_filterMap.2 (nested.imp ?_)
    intro longer shorter suffix afterLonger first afterShorter second
    exact suffix_of_afterOne suffix first second
  cases token with
  | run =>
    cases remaining with
    | nil => exact List.Pairwise.nil
    | cons longest _ => exact nested_ends longest
  | any => exact shortened .any
  | exactly character => exact shortened (.exactly character)
  | set negated ranges => exact shortened (.set negated ranges)

/-- A token that stands for one character leaves what can be accepted after it. -/
theorem any_filterMap_afterOne (token : Token) (rest : List Token) (remaining : List (List Char)) :
    (remaining.filterMap (afterOne token)).any (accepts rest) =
      remaining.any fun text =>
        match text with
        | [] => false
        | character :: after => token.accepts character && accepts rest after := by
  induction remaining with
  | nil => rfl
  | cons text others hypothesis =>
    cases text with
    | nil => simpa [afterOne] using hypothesis
    | cons character after =>
      by_cases accepted : token.accepts character <;> simp [afterOne, accepted, hypothesis]

/-- The ends of the longest text are the ends of all that are nested in it. -/
theorem any_ends_longest {longest : List Char} {others : List (List Char)}
    (nested : Nested (longest :: others)) (rest : List Token) :
    (ends longest).any (accepts rest) =
      (longest :: others).any fun text => (ends text).any (accepts rest) := by
  rw [Bool.eq_iff_iff]
  simp only [List.any_eq_true, mem_ends, List.mem_cons]
  constructor
  · rintro ⟨part, suffix, accepted⟩
    exact ⟨longest, .inl rfl, part, suffix, accepted⟩
  · rintro ⟨text, rfl | member, part, suffix, accepted⟩
    · exact ⟨part, suffix, accepted⟩
    · exact ⟨part, suffix.trans ((List.pairwise_cons.1 nested).1 text member), accepted⟩

/-- One token taken off the pattern is one advance of what remains. -/
theorem any_accepts_advance {remaining : List (List Char)} (nested : Nested remaining)
    (token : Token) (rest : List Token) :
    (advance remaining token).any (accepts rest) = remaining.any (accepts (token :: rest)) := by
  cases token with
  | run =>
    cases remaining with
    | nil => rfl
    | cons longest others => exact any_ends_longest nested rest
  | any => exact any_filterMap_afterOne .any rest remaining
  | exactly character => exact any_filterMap_afterOne (.exactly character) rest remaining
  | set negated ranges => exact any_filterMap_afterOne (.set negated ranges) rest remaining

/-- The tokens accept one of the texts that can remain exactly if advancing over all of them can leave
nothing. -/
theorem any_isEmpty_foldl_advance (pattern : List Token) {remaining : List (List Char)}
    (nested : Nested remaining) :
    (pattern.foldl advance remaining).any List.isEmpty = remaining.any (accepts pattern) := by
  induction pattern generalizing remaining with
  | nil => exact congrArg remaining.any (funext fun text => by simp [accepts])
  | cons token rest hypothesis =>
    rw [List.foldl_cons, hypothesis (nested_advance nested token),
      any_accepts_advance nested token rest]

/-- Whether a pattern matches a whole text. -/
def fits (pattern text : String) : Bool :=
  ((tokens pattern.toList).foldl advance [text.toList]).any List.isEmpty

/-- A pattern matches the texts that its tokens accept. -/
theorem fits_eq_accepts (pattern text : String) :
    fits pattern text = accepts (tokens pattern.toList) text.toList := by
  have nested : Nested [text.toList] := List.pairwise_singleton _ _
  rw [fits, any_isEmpty_foldl_advance _ nested]
  simp

/-- Whether a text holds a character that makes it a pattern. -/
def isPattern (text : String) : Bool :=
  text.toList.any fun character => character == '*' || character == '?' || character == '['

end ImportBoundary.Wildcard
