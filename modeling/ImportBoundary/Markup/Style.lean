import ImportBoundary.Markup.ColourNames
import ImportBoundary.Markup.Fault
import ImportBoundary.Text.Blank
import ImportBoundary.Text.LetterCase

/-!
Contract: the styles that tags name.

Owns `Style`, the reading of one from words, and `normalName`, under which two names of one style are
the same: `b`, `bold` and `BOLD` are `bold`, and the order of words does not matter. A name that is no
style is its own, in small letters.
-/

namespace ImportBoundary.Markup

/-- A way to set off characters that is either on or off. -/
inductive Effect where
  | bold
  | dim
  | italic
  | underline
  | blink
  | fastBlink
  | reverse
  | conceal
  | strike
  | doubleUnderline
  | frame
  | encircle
  | overline
deriving DecidableEq, Repr

namespace Effect

/-- All effects, in the order in which a style names them. -/
def all : List Effect :=
  [bold, dim, italic, underline, blink, fastBlink, reverse, conceal, strike, doubleUnderline, frame,
    encircle, overline]

/-- The word for an effect. -/
def name : Effect → String
  | .bold => "bold"
  | .dim => "dim"
  | .italic => "italic"
  | .underline => "underline"
  | .blink => "blink"
  | .fastBlink => "blink2"
  | .reverse => "reverse"
  | .conceal => "conceal"
  | .strike => "strike"
  | .doubleUnderline => "underline2"
  | .frame => "frame"
  | .encircle => "encircle"
  | .overline => "overline"

def byShortName : List (String × Effect) :=
  [("d", dim), ("b", bold), ("i", italic), ("u", underline), ("r", reverse), ("c", conceal),
    ("s", strike), ("uu", doubleUnderline), ("o", overline)]

def ofName? (word : String) : Option Effect :=
  (all.find? fun effect => effect.name == word).or (byShortName.lookup word)

/-- Every effect is named by its word. -/
theorem ofName?_name (effect : Effect) : ofName? effect.name = some effect := by
  cases effect <;> decide

end Effect

/-- The argument of a colour that is written as a call of a function. -/
def argumentOf? (function : String) (word : List Char) : Option (List Char) :=
  let opening := function.toList ++ ['(']
  if opening.isPrefixOf word ∧ word.getLast? = some ')' then
    some ((word.drop opening.length).dropLast)
  else none

def writesOctet (digits : List Char) : Bool :=
  !digits.isEmpty && digits.all Char.isDigit &&
    digits.foldl (fun value digit => value * 10 + (digit.toNat - '0'.toNat)) 0 ≤ 255

def isSmallHexDigit (character : Char) : Bool :=
  character.isDigit || ('a' ≤ character && character ≤ 'f')

/-- Whether the parts of red, green and blue are those of a colour. Three parts must not be empty. -/
def areColourParts (parts : List Char) : Except Fault Bool :=
  let colours := (Text.cutAt ',' parts).all
  if parts.all (fun part => part.isDigit || part == ',') && colours.length == 3 then
    if colours.any List.isEmpty then .error .emptyColourPart else .ok (colours.all writesOctet)
  else .ok false

/-- Whether a word in small letters is a colour: by name, by six hexadecimal digits, by its number in
the palette, or by its parts. -/
def isColour (word : String) : Except Fault Bool :=
  let characters := word.toList
  if word == "default" || colourNames.contains word then .ok true
  else
    match characters, argumentOf? "color" characters, argumentOf? "rgb" characters with
    | '#' :: digits, _, _ => .ok (digits.length == 6 && digits.all isSmallHexDigit)
    | _, some digits, _ => .ok (digits.length ≤ 3 && writesOctet digits)
    | _, _, some parts => areColourParts parts
    | _, none, none => .ok false

/-- A style: the effects that it turns on or off, the latest first, its colours, and what it leads
to. -/
structure Style where
  effects : List (Effect × Bool)
  colour : Option String
  ground : Option String
  target : Option String
deriving DecidableEq, Repr

namespace Style

/-- The style that leaves everything as it is. -/
def plain : Style :=
  ⟨[], none, none, none⟩

/-- A style with what more words say, if each of them has a meaning. The later word wins. -/
def read? (style : Style) : List String → Except Fault (Option Style)
  | [] => .ok (some style)
  | word :: rest => do
    match Text.lower word, rest with
    | "on", ground :: others =>
      if ← isColour (Text.lower ground) then
        read? { style with ground := some (Text.lower ground) } others
      else .ok none
    | "not", name :: others =>
      match Effect.ofName? name with
      | some effect => read? { style with effects := (effect, false) :: style.effects } others
      | none => .ok none
    | "link", target :: others => read? { style with target := some target } others
    | small, others =>
      match Effect.ofName? small with
      | some effect => read? { style with effects := (effect, true) :: style.effects } others
      | none =>
        if ← isColour small then read? { style with colour := some small } others else .ok none

def effectWords (style : Style) (effect : Effect) : List String :=
  match style.effects.lookup effect with
  | some true => [effect.name]
  | some false => ["not", effect.name]
  | none => []

/-- The words of a style, in an order of their own. -/
def words (style : Style) : List String :=
  Effect.all.flatMap style.effectWords ++ style.colour.toList ++
    (style.ground.toList.flatMap fun ground => ["on", ground]) ++
    style.target.toList.flatMap fun target => ["link", target]

def text (style : Style) : String :=
  if style.words.isEmpty then "none" else String.intercalate " " style.words

end Style

/-- The name under which a style is kept: the text of the style, or the name itself in small
letters. -/
def normalName (name : String) : Except Fault String := do
  match ← Style.plain.read? (Text.words name) with
  | some style => .ok style.text
  | none => .ok (Text.lower (Text.trim name))

end ImportBoundary.Markup
