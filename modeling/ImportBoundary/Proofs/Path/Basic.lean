import ImportBoundary.Path.Basic
import Mathlib.Algebra.GroupWithZero.Nat
import Mathlib.Algebra.Order.BigOperators.Group.List
import Mathlib.Order.Defs.LinearOrder
import Mathlib.Data.String.Basic

/-!
Contract: the laws of paths.

Owns how a path is seen from somewhere, the order of paths, and how paths and their texts belong
together: a path that was read from a text can be read from its own text again. A path that was put
together by hand may hold names that no text writes: an empty name, a dot, or a name with a slash in
it.

Main statements: `isAbsolute_absolute`, `atMost_trans` and `atMost_total`, `isWritten_ofText`,
`ofText_text`, and `eq_of_before` for lists of paths in order.
-/

namespace ImportBoundary

namespace Text

variable {separator : Char} {left rest : List Char}

/-- A text up to its first separator is its first piece. -/
theorem cutAt_append_cons (absent : separator ∉ left) :
    cutAt separator (left ++ separator :: rest) = ⟨left, (cutAt separator rest).all⟩ := by
  induction left with
  | nil =>
      show (cutAt separator rest).after (separator == separator) separator = _
      rw [beq_self_eq_true]
      rfl
  | cons character others inductionHypothesis =>
      have differs := List.ne_of_not_mem_cons absent
      show (cutAt separator (others ++ separator :: rest)).after (character == separator)
        character = _
      rw [inductionHypothesis (List.not_mem_of_not_mem_cons absent),
        beq_false_of_ne (Ne.symm differs)]
      rfl

end Text

namespace FilePath

/-! ## Paths seen from somewhere -/

theorem isAbsolute_absolute (path : FilePath) {base : FilePath}
    (isAbsolute : base.isAbsolute = true) : (path.absolute base).isAbsolute = true := by
  unfold absolute
  split
  · assumption
  · unfold join
    split
    · contradiction
    · exact isAbsolute

/-- An absolute path is seen the same from everywhere. -/
theorem absolute_of_isAbsolute {path : FilePath} (isAbsolute : path.isAbsolute = true)
    (base : FilePath) : path.absolute base = path :=
  if_pos isAbsolute

theorem names_absolute (path base : FilePath) :
    (path.absolute base).names = path.names ∨
      (path.absolute base).names = base.names ++ path.names := by
  unfold absolute
  split
  · exact .inl rfl
  · unfold join
    split
    · exact .inl rfl
    · exact .inr rfl

/-- A path with names keeps its last one when it is seen from somewhere. -/
theorem name_absolute {path : FilePath} (nonempty : path.names ≠ []) (base : FilePath) :
    (path.absolute base).name = path.name := by
  unfold absolute
  split
  · rfl
  · unfold join
    split
    · rfl
    · show (base.names ++ path.names).getLast?.getD "" = path.names.getLast?.getD ""
      rw [List.getLast?_append_of_ne_nil _ nonempty]

/-! ## Paths beneath one another -/

/-- The path that leads on from a path by some names. -/
def beneath (path : FilePath) (names : List String) : FilePath :=
  ⟨path.anchor, path.names ++ names⟩

@[simp] theorem beneath_nil (path : FilePath) : path.beneath [] = path :=
  congrArg (FilePath.mk path.anchor) (List.append_nil path.names)

theorem beneath_beneath (path : FilePath) (above below : List String) :
    (path.beneath above).beneath below = path.beneath (above ++ below) :=
  congrArg (FilePath.mk path.anchor) (List.append_assoc path.names above below)

theorem join_of_relative {path : FilePath} (isRelative : path.isAbsolute = false) (base : FilePath) :
    base.join path = base.beneath path.names :=
  if_neg (by rw [isRelative]; exact Bool.false_ne_true)

theorem absolute_beneath (path workingDirectory : FilePath) (names : List String) :
    (path.beneath names).absolute workingDirectory =
      (path.absolute workingDirectory).beneath names := by
  by_cases isAbsolute : path.isAbsolute = true
  · have stillAbsolute : (path.beneath names).isAbsolute = true := isAbsolute
    rw [absolute_of_isAbsolute isAbsolute, absolute_of_isAbsolute stillAbsolute]
  · have isRelative : path.isAbsolute = false := Bool.eq_false_iff.mpr isAbsolute
    have stillRelative : (path.beneath names).isAbsolute = false := isRelative
    unfold absolute
    rw [if_neg isAbsolute, if_neg (by rw [stillRelative]; exact Bool.false_ne_true),
      join_of_relative isRelative, join_of_relative stillRelative]
    exact (beneath_beneath workingDirectory path.names names).symm

/-! ## The order of paths -/

theorem atMost_trans (left middle right : FilePath) (first : left.atMost middle = true)
    (second : middle.atMost right = true) : left.atMost right = true := by
  apply decide_eq_true
  exact List.le_trans (of_decide_eq_true first) (of_decide_eq_true second)

theorem atMost_total (left right : FilePath) :
    (left.atMost right || right.atMost left) = true := by
  rcases List.le_total left.components right.components with first | second
  · rw [atMost, decide_eq_true first]
    rfl
  · rw [atMost, atMost, decide_eq_true second, Bool.or_true]

/-! ## Names and texts -/

/-- The names that a text can write. -/
def IsName (name : String) : Prop :=
  name ≠ "" ∧ name ≠ "." ∧ '/' ∉ name.toList

instance (name : String) : Decidable (IsName name) :=
  inferInstanceAs (Decidable (name ≠ "" ∧ name ≠ "." ∧ '/' ∉ name.toList))

/-- The paths that a text can write. -/
def IsWritten (path : FilePath) : Prop :=
  ∀ name ∈ path.names, IsName name

instance (path : FilePath) : Decidable path.IsWritten :=
  inferInstanceAs (Decidable (∀ name ∈ path.names, IsName name))

theorem isWritten_ofText (text : String) : (ofText text).IsWritten := by
  intro name isName
  obtain ⟨isText, proper⟩ := List.mem_filter.mp isName
  obtain ⟨piece, isPiece, rfl⟩ := List.mem_map.mp isText
  obtain ⟨nonempty, noDot⟩ := of_decide_eq_true proper
  refine ⟨nonempty, noDot, ?_⟩
  rw [String.toList_ofList]
  exact Text.separator_notMem_of_mem_all_cutAt isPiece

theorem isWritten_beneath {path : FilePath} {names : List String} (isWritten : path.IsWritten)
    (areNames : ∀ name ∈ names, IsName name) : (path.beneath names).IsWritten :=
  List.forall_mem_append.mpr ⟨isWritten, areNames⟩

theorem isWritten_joinText {base : FilePath} (isWritten : base.IsWritten) (text : String) :
    (base.joinText text).IsWritten := by
  unfold joinText join
  split
  · exact isWritten_ofText text
  · exact isWritten_beneath isWritten (isWritten_ofText text)

/-! ## The order of paths that texts can write -/

/-- What writes an anchor is no name, so that the components of a path tell where it begins. -/
theorem not_isName_anchor (anchor : Anchor) : ¬IsName anchor.text := by
  cases anchor <;> decide

theorem eq_of_components {left right : FilePath} (leftWritten : left.IsWritten)
    (rightWritten : right.IsWritten) (same : left.components = right.components) : left = right := by
  obtain ⟨leftAnchor, leftNames⟩ := left
  obtain ⟨rightAnchor, rightNames⟩ := right
  have isNoName : ∀ (anchor : Anchor) (above below : List String), (∀ name ∈ above, IsName name) →
      above ≠ anchor.text :: below := by
    rintro anchor above below areNames rfl
    exact not_isName_anchor anchor (areNames _ List.mem_cons_self)
  cases leftAnchor <;> cases rightAnchor
  case none.none => exact congrArg _ same
  case none.root => exact absurd same (isNoName .root _ _ leftWritten)
  case none.doubleRoot => exact absurd same (isNoName .doubleRoot _ _ leftWritten)
  case root.none => exact absurd same.symm (isNoName .root _ _ rightWritten)
  case doubleRoot.none => exact absurd same.symm (isNoName .doubleRoot _ _ rightWritten)
  case root.doubleRoot => exact absurd (List.cons.inj same).1 (show "/" ≠ "//" by decide)
  case doubleRoot.root => exact absurd (List.cons.inj same).1 (show "//" ≠ "/" by decide)
  case root.root => exact congrArg _ (List.cons.inj same).2
  case doubleRoot.doubleRoot => exact congrArg _ (List.cons.inj same).2

/-- Two paths that texts can write are never at the same place in the order. -/
theorem eq_of_atMost {left right : FilePath} (leftWritten : left.IsWritten)
    (rightWritten : right.IsWritten) (first : left.atMost right = true)
    (second : right.atMost left = true) : left = right :=
  eq_of_components leftWritten rightWritten
    (List.le_antisymm (of_decide_eq_true first) (of_decide_eq_true second))

/-- A path comes before another one. -/
def Before (left right : FilePath) : Prop :=
  right.atMost left = false

theorem Before.ne {left right : FilePath} (before : Before left right) : left ≠ right := by
  rintro rfl
  have atMost := atMost_total left left
  rw [before] at atMost
  cases atMost

/-- There is only one way to put the same paths in order. -/
theorem eq_of_before {left right : List FilePath} (leftOrdered : left.Pairwise Before)
    (rightOrdered : right.Pairwise Before) (same : ∀ path, path ∈ left ↔ path ∈ right) :
    left = right := by
  have permutation : left.Perm right :=
    (List.perm_ext_iff_of_nodup (leftOrdered.imp Before.ne) (rightOrdered.imp Before.ne)).mpr same
  refine permutation.eq_of_pairwise (fun first second _ _ before after => ?_) leftOrdered rightOrdered
  have atMost := atMost_total first second
  rw [before, after] at atMost
  cases atMost

/-! ## Reading the text of a path -/

section Reading

variable {name : String} {names : List String} {rest : List Char}

theorem namesOf_slash (rest : List Char) : namesOf ('/' :: rest) = namesOf rest := by
  unfold namesOf
  rw [show '/' :: rest = [] ++ '/' :: rest from rfl, Text.cutAt_append_cons List.not_mem_nil]
  rfl

theorem namesOf_cons (isName : IsName name) :
    namesOf (name.toList ++ '/' :: rest) = name :: namesOf rest := by
  obtain ⟨nonempty, noDot, noSlash⟩ := isName
  unfold namesOf
  rw [Text.cutAt_append_cons noSlash, Text.Pieces.all, List.map_cons, String.ofList_toList,
    List.filter_cons_of_pos (by simp [nonempty, noDot])]

theorem namesOf_singleton (isName : IsName name) : namesOf name.toList = [name] := by
  obtain ⟨nonempty, noDot, noSlash⟩ := isName
  unfold namesOf
  rw [Text.cutAt_of_notMem noSlash, Text.Pieces.all, List.map_cons, String.ofList_toList,
    List.filter_cons_of_pos (by simp [nonempty, noDot])]
  rfl

theorem namesOf_joinNames (areNames : ∀ name ∈ names, IsName name) :
    namesOf (joinNames names).toList = names := by
  induction names with
  | nil => rfl
  | cons name rest inductionHypothesis =>
      obtain ⟨isName, areRest⟩ := List.forall_mem_cons.mp areNames
      cases rest with
      | nil => exact namesOf_singleton isName
      | cons next others =>
          have remaining := inductionHypothesis areRest
          rw [joinNames, String.toList_append, String.toList_append, List.append_assoc,
            show "/".toList = ['/'] from rfl, List.singleton_append, namesOf_cons isName, remaining]
          exact List.cons_ne_nil next others

/-- Joined names do not begin with a slash. -/
theorem head?_joinNames (areNames : ∀ name ∈ names, IsName name) :
    (joinNames names).toList.head? ≠ some '/' := by
  intro begins
  cases names with
  | nil => cases begins
  | cons name rest =>
      obtain ⟨nonempty, _, noSlash⟩ := areNames name List.mem_cons_self
      obtain ⟨first, others, isText⟩ :=
        List.exists_cons_of_ne_nil (mt String.toList_eq_nil_iff.mp nonempty)
      have isFirst : first = '/' := by
        cases rest with
        | nil =>
            rw [joinNames, isText] at begins
            exact Option.some.inj begins
        | cons next others =>
            rw [joinNames, String.toList_append, String.toList_append, isText] at begins
            · exact Option.some.inj begins
            · exact List.cons_ne_nil next others
      rw [isText, isFirst] at noSlash
      exact noSlash List.mem_cons_self

theorem anchorOf_append (anchor : Anchor) (noSlash : rest.head? ≠ some '/') :
    anchorOf (anchor.text.toList ++ rest) = anchor := by
  cases rest with
  | nil => cases anchor <;> rfl
  | cons first others =>
      have differs : first ≠ '/' := fun same => noSlash (congrArg some same)
      cases anchor with
      | none =>
          show anchorOf (first :: others) = .none
          simp [anchorOf, differs]
      | root =>
          show anchorOf ('/' :: first :: others) = .root
          simp [anchorOf, differs]
      | doubleRoot =>
          show anchorOf ('/' :: '/' :: first :: others) = .doubleRoot
          simp [anchorOf, differs]

theorem namesOf_anchor (anchor : Anchor) : namesOf (anchor.text.toList ++ rest) = namesOf rest := by
  cases anchor with
  | none => rfl
  | root => exact namesOf_slash rest
  | doubleRoot => exact (namesOf_slash ('/' :: rest)).trans (namesOf_slash rest)

end Reading

/-- The text of a path that a text can write reads as that path. -/
theorem ofText_text {path : FilePath} (isWritten : path.IsWritten) : ofText path.text = path := by
  obtain ⟨anchor, names⟩ := path
  have areNames : ∀ name ∈ names, IsName name := isWritten
  unfold FilePath.text
  split
  · rename_i isNone isEmpty
    dsimp only at isNone isEmpty
    rw [isNone, isEmpty]
    rfl
  · rw [ofText, String.toList_append, anchorOf_append anchor (head?_joinNames areNames),
      namesOf_anchor, namesOf_joinNames areNames]

/-! ## Names in a text -/

theorem joinNames_cons (name : String) {rest : List String} (goesOn : rest ≠ []) :
    joinNames (name :: rest) = name ++ "/" ++ joinNames rest := by
  rw [joinNames]
  exact goesOn

theorem joinNames_append {above below : List String} (aboveNonempty : above ≠ [])
    (belowNonempty : below ≠ []) :
    joinNames (above ++ below) = joinNames above ++ "/" ++ joinNames below := by
  induction above with
  | nil => exact absurd rfl aboveNonempty
  | cons name rest inductionHypothesis =>
      cases rest with
      | nil => exact joinNames_cons name belowNonempty
      | cons next others =>
          have remaining := inductionHypothesis (List.cons_ne_nil next others)
          rw [List.cons_append, joinNames_cons name (List.append_ne_nil_of_left_ne_nil
            (List.cons_ne_nil next others) below), remaining,
            joinNames_cons name (List.cons_ne_nil next others)]
          simp only [String.append_assoc]

/-- Joined names can be cut at a slash only between two names. -/
theorem exists_prefix_of_joinNames {names : List String} {text : List Char}
    (areNames : ∀ name ∈ names, IsName name) (begins : text ++ ['/'] <+: (joinNames names).toList) :
    ∃ upper, upper ≠ [] ∧ upper <+: names ∧ text = (joinNames upper).toList := by
  induction names generalizing text with
  | nil => simp [joinNames] at begins
  | cons name rest inductionHypothesis =>
      obtain ⟨⟨_, _, noSlash⟩, areRest⟩ := List.forall_mem_cons.mp areNames
      by_cases goesOn : rest = []
      · subst goesOn
        exact absurd (begins.subset (by simp)) noSlash
      · obtain ⟨more, isText⟩ := begins
        rw [joinNames_cons name goesOn, String.toList_append, String.toList_append, List.append_assoc,
          List.append_assoc, show "/".toList = ['/'] from rfl] at isText
        have alone : text = name.toList →
            ∃ upper, upper ≠ [] ∧ upper <+: name :: rest ∧ text = (joinNames upper).toList :=
          fun isName => ⟨[name], List.cons_ne_nil _ _, List.prefix_append [name] rest, isName⟩
        rcases List.append_eq_append_iff.mp isText with ⟨between, isName, after⟩ | ⟨between, isPiece, after⟩
        · cases between with
          | nil => exact alone (by rw [isName, List.append_nil])
          | cons first others =>
              cases after
              simp [isName] at noSlash
        · cases between with
          | nil => exact alone (by rw [isPiece, List.append_nil])
          | cons first others =>
              obtain ⟨rfl, isRest⟩ := List.cons.inj after
              obtain ⟨upper, nonempty, above, rfl⟩ := inductionHypothesis areRest
                ⟨more, by rw [List.append_assoc]; exact isRest.symm⟩
              refine ⟨name :: upper, List.cons_ne_nil _ _, List.cons_prefix_cons.mpr ⟨rfl, above⟩, ?_⟩
              rw [isPiece, joinNames_cons name nonempty, String.toList_append, String.toList_append,
                List.append_assoc]
              rfl

/-! ## The length of a text -/

theorem utf8ByteSize_joinNames (first : String) (rest : List String) :
    (joinNames (first :: rest)).utf8ByteSize =
      ((first :: rest).map String.utf8ByteSize).sum + rest.length := by
  induction rest generalizing first with
  | nil => rfl
  | cons next others inductionHypothesis =>
      have slash : "/".utf8ByteSize = 1 := rfl
      rw [joinNames, String.utf8ByteSize_append, String.utf8ByteSize_append, inductionHypothesis,
        List.map_cons, List.sum_cons, List.length_cons, slash]
      · rw [List.map_cons, List.sum_cons, List.map_cons, List.sum_cons]
        omega
      · exact List.cons_ne_nil next others

/-- A text has as many octets as its anchor and its names, and one for each slash between names. -/
theorem utf8ByteSize_text {path : FilePath} (nonempty : path.names ≠ []) :
    path.text.utf8ByteSize + 1 =
      path.anchor.text.utf8ByteSize + (path.names.map String.utf8ByteSize).sum +
        path.names.length := by
  obtain ⟨anchor, names⟩ := path
  obtain ⟨first, rest, rfl⟩ := List.exists_cons_of_ne_nil nonempty
  have isText : FilePath.text ⟨anchor, first :: rest⟩ = anchor.text ++ joinNames (first :: rest) := by
    cases anchor <;> rfl
  rw [isText, String.utf8ByteSize_append, utf8ByteSize_joinNames, List.length_cons]
  dsimp only
  omega

/-- An absolute path without some of its names has no longer text. -/
theorem utf8ByteSize_text_le {left right : FilePath} (fewer : left.names.Sublist right.names)
    (isRoot : left.anchor = .root) (isAbsolute : right.isAbsolute = true) :
    left.text.utf8ByteSize ≤ right.text.utf8ByteSize := by
  have anchors : left.anchor.text.utf8ByteSize ≤ right.anchor.text.utf8ByteSize := by
    rw [isRoot]
    cases isAnchor : right.anchor with
    | none => simp [FilePath.isAbsolute, isAnchor] at isAbsolute
    | root => exact Nat.le_refl _
    | doubleRoot => decide
  obtain ⟨leftAnchor, leftNames⟩ := left
  cases leftNames with
  | nil =>
      have isText : FilePath.text ⟨leftAnchor, []⟩ = leftAnchor.text := by
        rw [show leftAnchor = .root from isRoot]
        rfl
      have bound : right.anchor.text.utf8ByteSize ≤ right.text.utf8ByteSize := by
        unfold FilePath.text
        split
        · rename_i isNone _
          simp [FilePath.isAbsolute, isNone] at isAbsolute
        · rw [String.utf8ByteSize_append]
          exact Nat.le_add_right _ _
      rw [isText]
      exact Nat.le_trans anchors bound
  | cons first rest =>
      have nonempty : right.names ≠ [] := by
        intro empty
        rw [empty] at fewer
        exact absurd (List.eq_nil_of_sublist_nil fewer) (List.cons_ne_nil first rest)
      have ofLeft := @utf8ByteSize_text ⟨leftAnchor, first :: rest⟩ (List.cons_ne_nil _ _)
      have ofRight := utf8ByteSize_text nonempty
      have sums := (fewer.map String.utf8ByteSize).sum_le_sum fun _ _ => Nat.zero_le _
      have lengths := fewer.length_le
      dsimp only at ofLeft anchors sums lengths
      omega

end FilePath

end ImportBoundary
