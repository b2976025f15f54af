import ImportBoundary.Files.Glob
import ImportBoundary.Proofs.Collecting
import ImportBoundary.Proofs.Files.Sound

/-!
Contract: what a path pattern selects.

Owns which names a pattern matches, told without the tree that they are looked up in, and that the
pattern selects exactly the paths of the tree whose names it matches. A pattern that ends in `**` or in a
slash selects directories only.

Main statement: `exists_selectParts`, by one lemma for each sort of part.
-/

namespace ImportBoundary.Glob

/-! ## Matching -/

/-- A part stands for one name. -/
inductive Part.Fits : Part → String → Prop where
  | name (text : String) : Part.Fits (.name text) text
  | wildcard {pattern name : String} (fits : Wildcard.fits pattern name = true) :
    Part.Fits (.wildcard pattern) name

/-- The parts of a pattern match names one after the other: `**` stands for any number of names, and the
slash at the end for none. -/
inductive Matches : List Part → List String → Prop where
  | nil : Matches [] []
  | here (rest : List Part) : Matches (.here :: rest) []
  | one {part : Part} {name : String} {rest : List Part} {names : List String}
    (fits : part.Fits name) (others : Matches rest names) : Matches (part :: rest) (name :: names)
  | anyDepth (above : List String) {rest : List Part} {names : List String}
    (others : Matches rest names) : Matches (.anyDepth :: rest) (above ++ names)

/-- Whether the last part of a pattern stands for a name, so that it selects files as well. -/
def endsInName : List Part → Bool
  | [] => false
  | .here :: _ => false
  | .anyDepth :: rest => endsInName rest
  | .name _ :: rest => rest.isEmpty || endsInName rest
  | .wildcard _ :: rest => rest.isEmpty || endsInName rest

/-- A pattern that ends in a name does not match the directory that it is followed from. -/
theorem endsInName_of_matches_nil {parts : List Part} (matched : Matches parts []) :
    endsInName parts = false := by
  generalize isEmpty : ([] : List String) = names at matched
  induction matched with
  | nil => rfl
  | here rest => rfl
  | one fits others inductionHypothesis => cases isEmpty
  | anyDepth above others inductionHypothesis =>
      exact inductionHypothesis (List.append_eq_nil_iff.mp isEmpty.symm).2.symm

theorem endsInName_of_fits {part : Part} {name : String} (fits : part.Fits name) (rest : List Part) :
    endsInName (part :: rest) = (rest.isEmpty || endsInName rest) := by
  cases fits <;> rfl

/-- The plain names among the parts stand in the text of the pattern. -/
theorem mem_names_of_mem_parts {pattern text : String} {sought : List Part}
    (reads : parts pattern = .ok sought) (isPart : .name text ∈ sought) :
    text ∈ (FilePath.ofText pattern).names := by
  have name_of_ofName : ∀ name, Part.ofName name = .ok (.name text) → text = name := by
    intro name isRead
    unfold Part.ofName at isRead
    split at isRead
    · cases isRead
    · split at isRead
      · cases isRead
      · split at isRead
        · cases isRead
        · cases isRead
          rfl
  unfold parts at reads
  dsimp only at reads
  by_cases isAbsolute : (FilePath.ofText pattern).isAbsolute = true
  · rw [if_pos isAbsolute] at reads
    cases reads
  · rw [if_neg isAbsolute] at reads
    obtain ⟨named, areNamed, result⟩ := bind_eq_ok_iff.mp reads
    have isNamed : .name text ∈ named := by
      cases result
      split at isPart
      · exact (List.mem_append.mp isPart).resolve_right (by simp)
      · exact isPart
    obtain ⟨name, member, isRead⟩ := exists_mem_of_forall₂ (forall₂_of_mapM areNamed) isNamed
    rw [name_of_ofName name isRead]
    exact member

/-! ## Selection -/

section Selection

variable {disk : Disk} {directory : FilePath} {here names : List String} {rest parts : List Part}

/-- A pattern, followed from a place in the tree, selects what stands at some names from there: it
matches the names, and what stands there is a directory unless the pattern ends in a name. -/
def Selects (disk : Disk) (here : List String) (parts : List Part) (names : List String) : Prop :=
  ∃ entry, disk.tree.at? (here ++ names) = some entry ∧ Matches parts names ∧
    (endsInName parts = true ∨ entry.isDirectory = true)

/-- Each plain name of a pattern can be asked about in the directories that the parts before it lead
to. -/
def Followable (disk : Disk) (root : FilePath) (parts : List Part) : Prop :=
  ∀ before text after, parts = before ++ .name text :: after → ∀ names, Matches before names →
    root.beneath names ∈ disk.directoriesFrom root →
      disk.locate (root.beneath (names ++ [text])) ≠ .error .nameTooLong

theorem followable_of_no_name {root : FilePath} (noName : ∀ text, .name text ∉ parts) :
    Followable disk root parts := by
  rintro before text after rfl
  exact absurd (List.mem_append_right before List.mem_cons_self) (noName text)

/-- The plain names of a pattern do not lead up, and can be asked about wherever the parts before them
lead from a place in the tree. -/
def NamesAnswer (disk : Disk) (parts : List Part) (directory : FilePath) (here : List String) : Prop :=
  ∀ before text after, parts = before ++ .name text :: after → text ≠ ".." ∧
    ∀ names written, Matches before names →
      disk.tree.at? (here ++ names) = some (.directory written) →
        disk.locate (directory.beneath (names ++ [text])) ≠ .error .nameTooLong

/-- From every directory, the pattern selects exactly what it should. -/
def Correct (disk : Disk) (parts : List Part) : Prop :=
  ∀ directory here, disk.Opens directory here → NamesAnswer disk parts directory here →
    ∃ found, selectParts disk parts directory = .ok found ∧
      ∀ path, path ∈ found ↔ ∃ names, Selects disk here parts names ∧ path = directory.beneath names

/-- The rest of a pattern is followed from where its first part leads. -/
theorem NamesAnswer.after {part : Part} {above : List String}
    (answers : NamesAnswer disk (part :: rest) directory here)
    (leads : ∀ before names, Matches before names → Matches (part :: before) (above ++ names)) :
    NamesAnswer disk rest (directory.beneath above) (here ++ above) := by
  rintro before text after rfl
  obtain ⟨notUp, asked⟩ := answers (part :: before) text after rfl
  refine ⟨notUp, fun names written matched stands => ?_⟩
  rw [FilePath.beneath_beneath, ← List.append_assoc]
  exact asked (above ++ names) written (leads before names matched) (by rwa [← List.append_assoc])

/-- A part that stands for a name selects what the rest of the pattern selects from there, and if nothing
follows, whatever has this name. -/
theorem selects_cons_iff {part : Part} {name : String} (fits : part.Fits name) :
    Selects disk here (part :: rest) (name :: names) ↔
      ∃ entry, disk.tree.at? (here ++ name :: names) = some entry ∧ Matches rest names ∧
        (rest.isEmpty = true ∨ endsInName rest = true ∨ entry.isDirectory = true) := by
  unfold Selects
  rw [endsInName_of_fits fits, Bool.or_eq_true]
  simp only [or_assoc]
  refine exists_congr fun entry => and_congr_right fun _ => and_congr_left fun _ => ?_
  constructor
  · intro matched
    cases fits with
    | name text =>
        cases matched with
        | one _ others => exact others
    | wildcard isFit =>
        cases matched with
        | one _ others => exact others
  · exact .one fits

variable (sound : disk.tree.Sound)
include sound

theorem Followable.namesAnswer (followable : Followable disk directory parts)
    (opens : disk.Opens directory here) (noneUp : ∀ text, .name text ∈ parts → text ≠ "..") :
    NamesAnswer disk parts directory here := by
  rintro before text after rfl
  refine ⟨noneUp text (List.mem_append_right before List.mem_cons_self), ?_⟩
  intro names written matched stands
  exact followable before text after rfl names matched
    ((opens.mem_directoriesFrom_iff sound).mpr ⟨names, written, stands, rfl⟩)

/-- What is selected below a name is selected below a directory of that name. -/
theorem exists_child_of_selects {part : Part} {name : String} (fits : part.Fits name)
    (selects : Selects disk here (part :: rest) (name :: names)) :
    ∃ child, disk.tree.at? (here ++ [name]) = some child ∧
      (rest.isEmpty || child.isDirectory) = true := by
  obtain ⟨entry, stands, matched, proper⟩ := (selects_cons_iff fits).mp selects
  cases names with
  | nil =>
      refine ⟨entry, stands, ?_⟩
      rw [endsInName_of_matches_nil matched] at proper
      simpa using proper
  | cons next others =>
      have isAbove : here ++ [name] <+: here ++ name :: next :: others :=
        (List.prefix_append_right_inj here).mpr (List.prefix_append [name] (next :: others))
      obtain ⟨written, isDirectory⟩ :=
        (sound.descends stands).through (here ++ [name]) isAbove (by simp)
      exact ⟨.directory written, isDirectory, by rw [Entry.isDirectory, Bool.or_true]⟩

/-- The rest of a pattern, followed from a child. -/
theorem exists_selectChild (correct : Correct disk rest) (opens : disk.Opens directory here)
    {part : Part} {name : String} (answers : NamesAnswer disk (part :: rest) directory here)
    (fits : part.Fits name) {child : Entry} (stands : disk.tree.at? (here ++ [name]) = some child)
    (leadsOn : (rest.isEmpty || child.isDirectory) = true) :
    ∃ found, selectParts disk rest (directory.child name) = .ok found ∧
      ∀ path, path ∈ found ↔ ∃ names, Selects disk here (part :: rest) (name :: names) ∧
        path = directory.beneath (name :: names) := by
  simp only [selects_cons_iff fits]
  cases rest with
  | nil =>
      refine ⟨[directory.child name], rfl, fun path => ?_⟩
      rw [List.mem_singleton]
      constructor
      · rintro rfl
        exact ⟨[], ⟨child, stands, .nil, .inl rfl⟩, rfl⟩
      · rintro ⟨names, ⟨_, _, matched, _⟩, rfl⟩
        cases matched
        rfl
  | cons next others =>
      cases child with
      | file octets written => cases leadsOn
      | directory written =>
          obtain ⟨found, selected, found_iff⟩ :=
            correct _ _ (opens.beneath sound stands) (answers.after fun _ _ => .one fits)
          refine ⟨found, selected, fun path => ?_⟩
          rw [found_iff]
          constructor
          · rintro ⟨names, ⟨entry, standsBelow, matched, proper⟩, rfl⟩
            rw [List.append_assoc] at standsBelow
            exact ⟨names, ⟨entry, standsBelow, matched, .inr proper⟩,
              FilePath.beneath_beneath directory [name] names⟩
          · rintro ⟨names, ⟨entry, standsBelow, matched, proper⟩, rfl⟩
            refine ⟨names, ⟨entry, ?_, matched, proper.resolve_left (by simp)⟩,
              (FilePath.beneath_beneath directory [name] names).symm⟩
            rw [List.append_assoc]
            exact standsBelow

omit sound in
/-- The end of a pattern selects the directory it is at. -/
theorem exists_of_end (selected : selectParts disk parts directory = .ok [directory])
    (opens : disk.Opens directory here) (matches_iff : ∀ names, Matches parts names ↔ names = []) :
    ∃ found, selectParts disk parts directory = .ok found ∧
      ∀ path, path ∈ found ↔
        ∃ names, Selects disk here parts names ∧ path = directory.beneath names := by
  refine ⟨[directory], selected, fun path => ?_⟩
  rw [List.mem_singleton]
  constructor
  · rintro rfl
    obtain ⟨written, located⟩ := opens.located
    refine ⟨[], ⟨.directory written, ?_, (matches_iff []).mpr rfl, .inr rfl⟩, by simp⟩
    rw [List.append_nil, (Disk.at?_of_locate located).2]
  · rintro ⟨names, ⟨_, _, matched, _⟩, rfl⟩
    rw [(matches_iff names).mp matched, FilePath.beneath_nil]

omit sound in
theorem correct_nil : Correct disk [] := by
  intro directory here opens _
  refine exists_of_end rfl opens fun names => ⟨fun matched => ?_, fun isEmpty => isEmpty ▸ .nil⟩
  cases matched
  rfl

omit sound in
theorem correct_here (rest : List Part) : Correct disk (.here :: rest) := by
  intro directory here opens _
  refine exists_of_end rfl opens fun names => ⟨fun matched => ?_, fun isEmpty => isEmpty ▸ .here rest⟩
  cases matched with
  | here => rfl
  | one fits _ => cases fits

omit sound in
theorem nameLeadsOn_eq (disk : Disk) (isLast : Bool) (path : FilePath) :
    nameLeadsOn disk isLast path = disk.leadsTo path fun entry => isLast || entry.isDirectory := by
  cases isLast <;> rfl

theorem correct_name (text : String) (correct : Correct disk rest) :
    Correct disk (.name text :: rest) := by
  intro directory here opens answers
  obtain ⟨notUp, asked⟩ := answers [] text rest rfl
  obtain ⟨written, located⟩ := opens.located
  have standsHere : disk.tree.at? (here ++ []) = some (.directory written) := by
    rw [List.append_nil, (Disk.at?_of_locate located).2]
  obtain ⟨answer, answered⟩ := Disk.exists_leadsTo (asked [] written .nil standsHere)
    fun entry => rest.isEmpty || entry.isDirectory
  have leads_iff := @Disk.Opens.leadsTo_iff _ _ _ [text] (fun entry => rest.isEmpty || entry.isDirectory)
    sound opens (by simpa using notUp.symm)
  have selectParts_eq : selectParts disk (.name text :: rest) directory =
      if answer then selectParts disk rest (directory.child text) else .ok [] := by
    rw [selectParts, nameLeadsOn_eq]
    exact congrArg (· >>= _) answered
  have headOf : ∀ names, Selects disk here (.name text :: rest) names → ∃ more, names = text :: more := by
    rintro names ⟨_, _, matched, _⟩
    cases matched with
    | one fits _ =>
        cases fits
        exact ⟨_, rfl⟩
  rw [selectParts_eq]
  cases answer with
  | true =>
      obtain ⟨child, stands, leadsOn⟩ := leads_iff.mp answered
      obtain ⟨found, selected, found_iff⟩ :=
        exists_selectChild sound correct opens answers (.name text) stands leadsOn
      refine ⟨found, selected, fun path => (found_iff path).trans ⟨?_, ?_⟩⟩
      · rintro ⟨names, selects, rfl⟩
        exact ⟨text :: names, selects, rfl⟩
      · rintro ⟨names, selects, rfl⟩
        obtain ⟨more, rfl⟩ := headOf names selects
        exact ⟨more, selects, rfl⟩
  | false =>
      refine ⟨[], rfl, fun path => ⟨fun member => absurd member List.not_mem_nil, ?_⟩⟩
      rintro ⟨names, selects, rfl⟩
      obtain ⟨more, rfl⟩ := headOf names selects
      have leads := leads_iff.mpr (exists_child_of_selects sound (.name text) selects)
      cases answered.symm.trans leads

theorem correct_wildcard (pattern : String) (correct : Correct disk rest) :
    Correct disk (.wildcard pattern :: rest) := by
  intro directory here opens answers
  have matching_iff : ∀ child : String × Entry, child ∈ ((disk.children directory).filter fun child =>
      Wildcard.fits pattern child.1 && (rest.isEmpty || child.2.isDirectory)) ↔
        disk.tree.at? (here ++ [child.1]) = some child.2 ∧ Wildcard.fits pattern child.1 = true ∧
          (rest.isEmpty || child.2.isDirectory) = true := by
    intro child
    rw [List.mem_filter, opens.mem_children_iff sound, Bool.and_eq_true]
  have followed := fun (child : String × Entry) member =>
    have ⟨stands, fits, leadsOn⟩ := (matching_iff child).mp member
    exists_selectChild sound correct opens answers (.wildcard fits) stands leadsOn
  obtain ⟨found, areFollowed⟩ :=
    exists_mapM fun child member => (followed child member).imp fun _ => And.left
  refine ⟨found.flatten, ?_, fun path => ?_⟩
  · rw [selectParts]
    exact bind_eq_ok_iff.mpr ⟨found, areFollowed, rfl⟩
  · rw [mem_flatten_of_mapM_iff areFollowed]
    constructor
    · rintro ⟨child, member, list, selected, isFound⟩
      obtain ⟨same, alsoSelected, found_iff⟩ := followed child member
      cases selected.symm.trans alsoSelected
      obtain ⟨names, selects, rfl⟩ := (found_iff path).mp isFound
      exact ⟨child.1 :: names, selects, rfl⟩
    · rintro ⟨names, selects, rfl⟩
      obtain ⟨name, more, rfl, fits⟩ : ∃ name more, names = name :: more ∧
          Wildcard.fits pattern name = true := by
        obtain ⟨_, _, matched, _⟩ := selects
        cases matched with
        | one fits _ =>
            cases fits with
            | wildcard fits => exact ⟨_, _, rfl, fits⟩
      obtain ⟨child, stands, leadsOn⟩ := exists_child_of_selects sound (.wildcard fits) selects
      have member := (matching_iff (name, child)).mpr ⟨stands, fits, leadsOn⟩
      obtain ⟨list, selected, found_iff⟩ := followed _ member
      exact ⟨_, member, list, selected, (found_iff _).mpr ⟨more, selects, rfl⟩⟩

/-- What `**` selects is selected from one of the directories at or below the place. -/
theorem selects_anyDepth_iff :
    Selects disk here (.anyDepth :: rest) names ↔
      ∃ above more written, names = above ++ more ∧
        disk.tree.at? (here ++ above) = some (.directory written) ∧
          Selects disk (here ++ above) rest more := by
  constructor
  · rintro ⟨entry, stands, matched, proper⟩
    cases matched with
    | one fits _ => cases fits
    | @anyDepth above _ more others =>
        rw [← List.append_assoc] at stands
        have isDirectory : ∃ written, disk.tree.at? (here ++ above) = some (.directory written) := by
          by_cases atPlace : more = []
          · subst atPlace
            rw [List.append_nil] at stands
            rw [endsInName, endsInName_of_matches_nil others] at proper
            cases entry with
            | file octets written => simp [Entry.isDirectory] at proper
            | directory written => exact ⟨written, stands⟩
          · exact (sound.descends stands).through _ (List.prefix_append _ more) (by simpa using atPlace)
        obtain ⟨written, isDirectory⟩ := isDirectory
        exact ⟨above, more, written, rfl, isDirectory, entry, stands, others, proper⟩
  · rintro ⟨above, more, written, rfl, _, entry, stands, matched, proper⟩
    rw [List.append_assoc] at stands
    exact ⟨entry, stands, .anyDepth above matched, proper⟩

theorem correct_anyDepth (correct : Correct disk rest) : Correct disk (.anyDepth :: rest) := by
  intro directory here opens answers
  have followed := fun above written (stands : disk.tree.at? (here ++ above) = some (.directory written)) =>
    correct _ _ (opens.beneath sound stands) (answers.after fun _ _ => .anyDepth above)
  obtain ⟨found, areFollowed⟩ : ∃ found,
      (disk.directoriesFrom directory).mapM (selectParts disk rest) = .ok found := by
    apply exists_mapM
    intro upper member
    obtain ⟨above, written, stands, rfl⟩ := (opens.mem_directoriesFrom_iff sound).mp member
    exact (followed above written stands).imp fun _ => And.left
  refine ⟨found.flatten, ?_, fun path => ?_⟩
  · rw [selectParts]
    exact bind_eq_ok_iff.mpr ⟨found, areFollowed, rfl⟩
  · rw [mem_flatten_of_mapM_iff areFollowed]
    simp only [selects_anyDepth_iff sound]
    constructor
    · rintro ⟨upper, member, list, selected, isFound⟩
      obtain ⟨above, written, stands, rfl⟩ := (opens.mem_directoriesFrom_iff sound).mp member
      obtain ⟨same, alsoSelected, found_iff⟩ := followed above written stands
      cases selected.symm.trans alsoSelected
      obtain ⟨names, selects, rfl⟩ := (found_iff path).mp isFound
      exact ⟨above ++ names, ⟨above, names, written, rfl, stands, selects⟩,
        FilePath.beneath_beneath directory above names⟩
    · rintro ⟨_, ⟨above, names, written, rfl, stands, selects⟩, rfl⟩
      obtain ⟨list, selected, found_iff⟩ := followed above written stands
      exact ⟨_, (opens.mem_directoriesFrom_iff sound).mpr ⟨above, written, stands, rfl⟩, list, selected,
        (found_iff _).mpr ⟨names, selects, (FilePath.beneath_beneath directory above names).symm⟩⟩

/-- **What a pattern selects.** Followed from a directory of a sound tree, a pattern selects exactly the
paths whose names it matches and that lead to something, a directory unless the pattern ends in a
name. -/
theorem exists_selectParts (parts : List Part) : Correct disk parts := by
  induction parts with
  | nil => exact correct_nil
  | cons part rest inductionHypothesis =>
      cases part with
      | name text => exact correct_name sound text inductionHypothesis
      | wildcard pattern => exact correct_wildcard sound pattern inductionHypothesis
      | anyDepth => exact correct_anyDepth sound inductionHypothesis
      | here => exact correct_here rest

/-- A pattern selects a file if it matches its names and ends in a name. -/
theorem selects_iff_of_isFile (opens : disk.Opens directory here)
    (isFile : disk.isFile (directory.beneath names) = .ok true) :
    Selects disk here parts names ↔
      Matches parts names ∧ endsInName parts = true ∧ ".." ∉ names := by
  constructor
  · rintro ⟨entry, stands, isMatch, isProper⟩
    have proper := sound.proper stands
    obtain ⟨octets, written, isEntry⟩ := (opens.isFile_iff sound proper).mp isFile
    cases stands.symm.trans isEntry
    exact ⟨isMatch, isProper.resolve_right Bool.false_ne_true, proper⟩
  · rintro ⟨isMatch, isProper, proper⟩
    obtain ⟨octets, written, isEntry⟩ := (opens.isFile_iff sound proper).mp isFile
    exact ⟨_, isEntry, isMatch, .inl isProper⟩

end Selection

end ImportBoundary.Glob
