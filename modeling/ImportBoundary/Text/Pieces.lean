/-!
Contract: texts cut into pieces at separators.

Owns `Pieces`, `cutWhere` and `cutAt`. A text has one more piece than separators, so there is always a
first one; `join_cutAt` puts the separators back, and no piece holds one.
-/

namespace ImportBoundary.Text

/-- A text cut at separators: what is before the first of them, and what follows each. -/
structure Pieces where
  first : List Char
  others : List (List Char)
deriving DecidableEq, Repr

/-- All pieces, in order. -/
def Pieces.all (pieces : Pieces) : List (List Char) :=
  pieces.first :: pieces.others

/-- The pieces with a separator before each but the first. -/
def Pieces.join (separator : Char) (pieces : Pieces) : List Char :=
  pieces.first ++ pieces.others.flatMap (separator :: ·)

/-- The pieces of a text that begins with this character, from those of what follows it. -/
def Pieces.after (isSeparator : Bool) (character : Char) (pieces : Pieces) : Pieces :=
  if isSeparator then ⟨[], pieces.first :: pieces.others⟩
  else ⟨character :: pieces.first, pieces.others⟩

/-- The pieces of a text between the characters that separate. -/
def cutWhere (separates : Char → Bool) : List Char → Pieces
  | [] => ⟨[], []⟩
  | character :: rest => (cutWhere separates rest).after (separates character) character

/-- The pieces of a text between the separators. -/
def cutAt (separator : Char) (text : List Char) : Pieces :=
  cutWhere (· == separator) text

/-- A text without the separator is one piece. -/
theorem cutAt_of_notMem {separator : Char} {text : List Char} (absent : separator ∉ text) :
    cutAt separator text = ⟨text, []⟩ := by
  induction text with
  | nil => simp [cutAt, cutWhere]
  | cons character rest hypothesis =>
    simp only [List.mem_cons, not_or] at absent
    have inner := hypothesis absent.2
    simp only [cutAt] at inner
    simp [cutAt, cutWhere, inner, Pieces.after, Ne.symm absent.1]

/-- Putting the separators back gives the text. -/
theorem join_cutAt (separator : Char) (text : List Char) :
    (cutAt separator text).join separator = text := by
  induction text with
  | nil => simp [cutAt, cutWhere, Pieces.join]
  | cons character rest hypothesis =>
    simp only [cutAt, Pieces.join] at hypothesis
    by_cases same : character = separator
    · simp [cutAt, cutWhere, Pieces.after, Pieces.join, same, hypothesis]
    · simp [cutAt, cutWhere, Pieces.after, Pieces.join, same, hypothesis]

/-- No piece holds a character that separates. -/
theorem separates_eq_false_of_mem_all_cutWhere {separates : Char → Bool} {text piece : List Char}
    {character : Char} (held : piece ∈ (cutWhere separates text).all)
    (within : character ∈ piece) : separates character = false := by
  induction text generalizing piece with
  | nil =>
    simp only [cutWhere, Pieces.all, List.mem_singleton] at held
    simp [held] at within
  | cons head rest hypothesis =>
    simp only [Pieces.all] at hypothesis
    cases headSeparates : separates head with
    | true =>
      simp only [cutWhere, Pieces.after, Pieces.all, headSeparates, if_true, List.mem_cons] at held
      rcases held with rfl | others
      · simp at within
      · exact hypothesis (by simpa using others) within
    | false =>
      simp only [cutWhere, Pieces.after, Pieces.all, headSeparates, Bool.false_eq_true, if_false,
        List.mem_cons] at held
      rcases held with rfl | others
      · rcases List.mem_cons.mp within with rfl | later
        · exact headSeparates
        · exact hypothesis (by simp) later
      · exact hypothesis (by simp [others]) within

/-- No piece holds the separator. -/
theorem separator_notMem_of_mem_all_cutAt {separator : Char} {text piece : List Char}
    (held : piece ∈ (cutAt separator text).all) : separator ∉ piece := by
  intro within
  have := separates_eq_false_of_mem_all_cutWhere held within
  simp at this

end ImportBoundary.Text
