import ImportBoundary.Text.Blank

/-!
Contract: JSON with comments and trailing commas, reduced to plain JSON.

Owns `withoutComments`, which removes line and block comments but leaves string literals alone, and
`withoutTrailingCommas`, which removes every comma that only blanks separate from a closing bracket
or brace. The second step looks at characters only, inside string literals as well.
-/

namespace ImportBoundary.Json

/-- From the text after an opening quote: the literal up to and with its closing quote, and what
follows. A backslash keeps the next character from closing. -/
def closeString? : List Char → Option (List Char × List Char)
  | [] => none
  | '\\' :: escaped :: rest =>
    (closeString? rest).map fun (literal, after) => ('\\' :: escaped :: literal, after)
  | character :: rest =>
    if character = '"' then some (['"'], rest)
    else if character = '\\' then none
    else (closeString? rest).map fun (literal, after) => (character :: literal, after)

/-- What follows a string literal is shorter than the text after its opening quote. -/
theorem length_lt_of_closeString? {text literal after : List Char}
    (closed : closeString? text = some (literal, after)) : after.length < text.length := by
  fun_induction closeString? text generalizing literal after with
  | case1 => simp at closed
  | case2 escaped rest inductionHypothesis =>
    simp only [Option.map_eq_some_iff, Prod.mk.injEq, Prod.exists] at closed
    obtain ⟨inner, remaining, found, _, rfl⟩ := closed
    have := inductionHypothesis found
    simp only [List.length_cons]
    omega
  | case3 => grind
  | case4 => grind
  | case5 character rest _ _ _ inductionHypothesis =>
    simp only [Option.map_eq_some_iff, Prod.mk.injEq, Prod.exists] at closed
    obtain ⟨inner, remaining, found, _, rfl⟩ := closed
    have := inductionHypothesis found
    simp only [List.length_cons]
    omega

/-- What follows the first end of a block comment. -/
def afterBlock? : List Char → Option (List Char)
  | [] => none
  | '*' :: '/' :: rest => some rest
  | _ :: rest => afterBlock? rest

/-- What follows a block comment is shorter than the text after its beginning. -/
theorem length_lt_of_afterBlock? {text after : List Char}
    (closed : afterBlock? text = some after) : after.length < text.length := by
  fun_induction afterBlock? text with
  | case1 => simp at closed
  | case2 rest => grind
  | case3 => grind

/-- The text without comments. A quote that opens no literal and a comment that is never closed
stand for themselves. -/
def withoutComments : List Char → List Char
  | [] => []
  | '"' :: rest =>
    match _closed : closeString? rest with
    | some (literal, after) => '"' :: literal ++ withoutComments after
    | none => '"' :: withoutComments rest
  | '/' :: '/' :: rest => withoutComments (rest.dropWhile (· ≠ '\n'))
  | '/' :: '*' :: rest =>
    match _closed : afterBlock? rest with
    | some after => withoutComments after
    | none => '/' :: withoutComments ('*' :: rest)
  | character :: rest => character :: withoutComments rest
termination_by text => text.length
decreasing_by
  all_goals simp only [List.length_cons]
  · have := length_lt_of_closeString? _closed
    omega
  · omega
  · have := (List.dropWhile_suffix (· ≠ '\n') (l := rest)).length_le
    omega
  · have := length_lt_of_afterBlock? _closed
    omega
  · omega
  · omega

/-- Whether the first character that is not blank closes an object or an array. -/
def closesNext (text : List Char) : Bool :=
  match text.dropWhile Text.isBlank with
  | [] => false
  | character :: _ => character == '}' || character == ']'

/-- The text without the commas that come right before a closing bracket or brace. -/
def withoutTrailingCommas : List Char → List Char
  | [] => []
  | character :: rest =>
    if character = ',' ∧ closesNext rest then withoutTrailingCommas rest
    else character :: withoutTrailingCommas rest

def plain (text : String) : String :=
  String.ofList (withoutTrailingCommas (withoutComments text.toList))

end ImportBoundary.Json
