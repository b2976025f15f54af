import ImportBoundary.Pattern.Wildcard

/-!
Contract: laws of shell wildcards.

Owns what a pattern without wildcards fits, and how a match of a pattern that ends in a star can go on.

Main statements: `fits_iff_of_plain` and `fits_append_of_endsInStar`.
-/

namespace ImportBoundary.Wildcard

variable {pattern text : List Char}

/-! ## Patterns without wildcards -/

theorem tokens_of_plain (plain : ∀ character ∈ pattern,
      ¬(character = '*' ∨ character = '?' ∨ character = '[')) :
    tokens pattern = pattern.map .exactly := by
  induction pattern with
  | nil => rw [tokens, List.map_nil]
  | cons character rest inductionHypothesis =>
      obtain ⟨isPlain, restPlain⟩ := List.forall_mem_cons.mp plain
      obtain ⟨noStar, noMark, noBracket⟩ := not_or.mp isPlain |>.imp_right not_or.mp
      rw [tokens, if_neg noStar, if_neg noMark, if_neg noBracket, inductionHypothesis restPlain,
        List.map_cons]

theorem accepts_map_exactly : accepts (pattern.map .exactly) text = true ↔ text = pattern := by
  induction pattern generalizing text with
  | nil => simp [accepts]
  | cons character rest inductionHypothesis =>
      cases text with
      | nil => simp [accepts]
      | cons first others => simp [accepts, Token.accepts, inductionHypothesis]

/-- A pattern without wildcards fits nothing but itself. -/
theorem fits_iff_of_plain {pattern text : String} (plain : isPattern pattern = false) :
    fits pattern text = true ↔ text = pattern := by
  have noWildcard : ∀ character ∈ pattern.toList,
      ¬(character = '*' ∨ character = '?' ∨ character = '[') := by
    intro character member
    have refused := List.any_eq_false.mp plain character member
    simpa [or_assoc] using refused
  rw [fits_eq_accepts, tokens_of_plain noWildcard, accepts_map_exactly, String.toList_inj]

/-! ## Patterns that end in a star -/

/-- Whether the last character of a pattern is a star, which stands for any run wherever it is. -/
def endsInStar (pattern : String) : Bool :=
  pattern.toList.getLast? = some '*'

theorem leading_append {expected character : Char} (differs : character ≠ expected)
    (text : List Char) :
    leading expected (text ++ [character]) =
      ((leading expected text).1, (leading expected text).2 ++ [character]) := by
  cases text with
  | nil => simp [leading, differs]
  | cons first rest =>
      by_cases same : first = expected <;> simp [leading, same]

/-- A character behind a text closes no set unless it is a bracket. -/
theorem setBody?_append {character : Char} (noSign : character ≠ '!') (noBracket : character ≠ ']')
    (text : List Char) :
    setBody? (text ++ [character]) =
      (setBody? text).map fun (body, after) => (body, after ++ [character]) := by
  unfold setBody?
  simp only [leading_append noSign, leading_append noBracket]
  generalize (leading ']' (leading '!' text).2).2 = others
  rw [List.dropWhile_append, List.takeWhile_append]
  cases stopped : others.dropWhile (· ≠ ']') with
  | nil => simp [noBracket]
  | cons bracket after =>
      have shorter : (others.takeWhile (· ≠ ']')).length ≠ others.length := by
        have whole := congrArg List.length (@List.takeWhile_append_dropWhile _ (· ≠ ']') others)
        rw [stopped, List.length_append, List.length_cons] at whole
        omega
      simp only [if_neg shorter]
      rfl

theorem tokens_of_open {rest : List Char} (isOpen : setBody? rest = none) :
    tokens ('[' :: rest) = .exactly '[' :: tokens rest := by
  rw [tokens]
  simp only [Char.reduceEq, if_true, if_false]
  split
  · rfl
  · rename_i found
    cases isOpen.symm.trans found

theorem tokens_of_closed {rest body after : List Char} (closed : setBody? rest = some (body, after)) :
    tokens ('[' :: rest) = setToken body :: tokens after := by
  rw [tokens]
  simp only [Char.reduceEq, if_true, if_false]
  split
  · rename_i found
    cases closed.symm.trans found
  · rename_i found
    cases closed.symm.trans found
    rfl

theorem tokens_concat_star (pattern : List Char) :
    tokens (pattern ++ ['*']) = tokens pattern ++ [.run] := by
  induction pattern using tokens.induct with
  | case1 => simp [tokens]
  | case2 rest inductionHypothesis => simp [tokens, inductionHypothesis]
  | case3 rest _ inductionHypothesis => simp [tokens, inductionHypothesis]
  | case4 rest isOpen _ _ inductionHypothesis =>
      have stillOpen : setBody? (rest ++ ['*']) = none := by
        rw [setBody?_append (by decide) (by decide), isOpen, Option.map_none]
      rw [List.cons_append, tokens_of_open stillOpen, tokens_of_open isOpen, inductionHypothesis,
        List.cons_append]
  | case5 rest body after closed _ _ inductionHypothesis =>
      have stillClosed : setBody? (rest ++ ['*']) = some (body, after ++ ['*']) := by
        rw [setBody?_append (by decide) (by decide), closed, Option.map_some]
      rw [List.cons_append, tokens_of_closed stillClosed, tokens_of_closed closed,
        inductionHypothesis, List.cons_append]
  | case6 character rest noStar noMark noBracket inductionHypothesis =>
      rw [List.cons_append, tokens, tokens, if_neg noStar, if_neg noMark, if_neg noBracket,
        if_neg noStar, if_neg noMark, if_neg noBracket, inductionHypothesis, List.cons_append]

theorem accepts_run (text : List Char) : accepts [.run] text = true :=
  List.any_eq_true.mpr ⟨[], mem_ends.mpr List.nil_suffix, rfl⟩

/-- The first token takes a beginning of the text, and the others the rest. -/
theorem accepts_cons_iff {token : Token} {rest : List Token} :
    accepts (token :: rest) text = true ↔
      ∃ left right, text = left ++ right ∧ accepts [token] left = true ∧ accepts rest right = true := by
  by_cases isRun : token = .run
  · subst isRun
    constructor
    · intro accepted
      obtain ⟨right, ⟨left, isText⟩, rightAccepted⟩ :=
        List.any_eq_true.mp accepted |>.imp fun _ => And.imp_left mem_ends.mp
      exact ⟨left, right, isText.symm, accepts_run left, rightAccepted⟩
    · rintro ⟨left, right, rfl, _, rightAccepted⟩
      exact List.any_eq_true.mpr ⟨right, mem_ends.mpr (List.suffix_append left right), rightAccepted⟩
  · have single : ∀ others part, accepts (token :: others) part = true ↔
        ∃ character after, part = character :: after ∧ token.accepts character = true ∧
          accepts others after = true := by
      intro others part
      cases part <;> cases token <;> simp [accepts, and_assoc] at isRun ⊢
    rw [single]
    constructor
    · rintro ⟨character, after, rfl, isAccepted, afterAccepted⟩
      exact ⟨[character], after, rfl, (single [] [character]).mpr ⟨character, [], rfl, isAccepted, rfl⟩,
        afterAccepted⟩
    · rintro ⟨left, right, rfl, leftAccepted, rightAccepted⟩
      obtain ⟨character, after, rfl, isAccepted, isEnd⟩ := (single [] left).mp leftAccepted
      rw [List.isEmpty_iff.mp isEnd]
      exact ⟨character, right, rfl, isAccepted, rightAccepted⟩

/-- A star at the end takes whatever remains. -/
theorem accepts_concat_run_iff {tokens : List Token} :
    accepts (tokens ++ [.run]) text = true ↔ ∃ left, left <+: text ∧ accepts tokens left = true := by
  induction tokens generalizing text with
  | nil =>
      exact ⟨fun _ => ⟨[], List.nil_prefix, rfl⟩, fun _ => accepts_run text⟩
  | cons token rest inductionHypothesis =>
      rw [List.cons_append, accepts_cons_iff]
      constructor
      · rintro ⟨left, right, rfl, leftAccepted, rightAccepted⟩
        obtain ⟨middle, isBeginning, middleAccepted⟩ := inductionHypothesis.mp rightAccepted
        exact ⟨left ++ middle, (List.prefix_append_right_inj left).mpr isBeginning,
          accepts_cons_iff.mpr ⟨left, middle, rfl, leftAccepted, middleAccepted⟩⟩
      · rintro ⟨whole, ⟨more, rfl⟩, accepted⟩
        obtain ⟨left, middle, rfl, leftAccepted, middleAccepted⟩ := accepts_cons_iff.mp accepted
        exact ⟨left, middle ++ more, List.append_assoc left middle more, leftAccepted,
          inductionHypothesis.mpr ⟨middle, List.prefix_append middle more, middleAccepted⟩⟩

theorem fits_star (text : String) : fits "*" text = true := by
  have isRun : tokens "*".toList = [.run] := by
    rw [show "*".toList = [] ++ ['*'] from rfl, tokens_concat_star, tokens, List.nil_append]
  rw [fits_eq_accepts, isRun]
  exact accepts_run _

/-- A text that a pattern with a star at its end fits can go on in any way. -/
theorem fits_append_of_endsInStar {pattern text : String} (starred : endsInStar pattern = true)
    (matched : fits pattern text = true) (more : String) : fits pattern (text ++ more) = true := by
  obtain ⟨before, isPattern⟩ := List.getLast?_eq_some_iff.mp (of_decide_eq_true starred)
  rw [fits_eq_accepts, isPattern, tokens_concat_star, accepts_concat_run_iff] at matched ⊢
  obtain ⟨left, isBeginning, accepted⟩ := matched
  rw [String.toList_append]
  exact ⟨left, isBeginning.trans (List.prefix_append _ _), accepted⟩

end ImportBoundary.Wildcard
