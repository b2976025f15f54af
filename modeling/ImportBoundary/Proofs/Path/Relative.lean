import ImportBoundary.Path.Relative
import ImportBoundary.Proofs.Boundary.Naming
import ImportBoundary.Proofs.Path.Basic

/-!
Contract: how one path is reached from another.

Owns what names stand for once every `..` is resolved, the longest common beginning of two lists of
names, and the walk from a directory to a target: it goes up to the last common directory and no
further, and following it from the directory ends at the target.

Main statement: `specifier_leadsTo`, for every importing file and every target. Whether a specifier
is explicitly relative is decided on its text, in which a name such as `..x` looks like a step
upwards; the walk is read back from the text, so that no name is mistaken.
-/

namespace ImportBoundary.FilePath

/-! ## Names that are resolved -/

/-- Only names other than `..` are put on the stack. -/
private theorem mem_foldl_pushName {name : String} {names stack : List String}
    (member : name ∈ names.foldl pushName stack) : name ∈ names ∧ name ≠ ".." ∨ name ∈ stack := by
  induction names generalizing stack with
  | nil => exact .inr member
  | cons first rest inductionHypothesis =>
      rcases inductionHypothesis member with ⟨later, proper⟩ | pushed
      · exact .inl ⟨List.mem_cons_of_mem first later, proper⟩
      · unfold pushName at pushed
        split at pushed
        · exact .inr (List.mem_of_mem_drop pushed)
        · rename_i proper
          rcases List.mem_cons.mp pushed with rfl | earlier
          · exact .inl ⟨List.mem_cons_self, proper⟩
          · exact .inr earlier

theorem mem_of_mem_normalNames {path : FilePath} {name : String}
    (member : name ∈ path.normalNames) : name ∈ path.names ∧ name ≠ ".." := by
  rcases mem_foldl_pushName (List.mem_reverse.mp member) with isName | impossible
  · exact isName
  · cases impossible

theorem up_notMem_normalNames (path : FilePath) : ".." ∉ path.normalNames :=
  fun member => (mem_of_mem_normalNames member).2 rfl

/-- Steps upwards take the newest names away. -/
private theorem foldl_pushName_replicate (count : Nat) (stack : List String) :
    (List.replicate count "..").foldl pushName stack = stack.drop count := by
  induction count generalizing stack with
  | zero => rfl
  | succ count inductionHypothesis =>
      rw [List.replicate_succ, List.foldl_cons, inductionHypothesis, pushName, if_pos rfl,
        List.drop_drop, Nat.add_comm]

/-- Names other than `..` are put on the stack one after the other. -/
theorem foldl_pushName_of_notMem {names : List String} (proper : ".." ∉ names)
    (stack : List String) : names.foldl pushName stack = names.reverse ++ stack := by
  induction names generalizing stack with
  | nil => rfl
  | cons name rest inductionHypothesis =>
      have differs : name ≠ ".." := (List.ne_of_not_mem_cons proper).symm
      rw [List.foldl_cons, inductionHypothesis (List.not_mem_of_not_mem_cons proper), pushName,
        if_neg differs, List.reverse_cons, List.append_assoc, List.singleton_append]

/-- More names are resolved from where the names before them lead. -/
theorem normalNames_append (anchor : Anchor) (names more : List String) :
    normalNames ⟨anchor, names ++ more⟩ =
      (more.foldl pushName (normalNames ⟨anchor, names⟩).reverse).reverse := by
  simp only [normalNames, List.foldl_append, List.reverse_reverse]

/-! ## The longest common beginning -/

/-- The longest list that both lists begin with has this length. -/
structure IsCommonLength (left right : List String) (length : Nat) : Prop where
  shared : ∃ beginning, beginning <+: left ∧ beginning <+: right ∧ beginning.length = length
  longest : ∀ beginning, beginning <+: left → beginning <+: right → beginning.length ≤ length

private theorem commonLength_cons_self (name : String) (left right : List String) :
    commonLength (name :: left) (name :: right) = commonLength left right + 1 :=
  if_pos rfl

private theorem commonLength_le_left (left right : List String) :
    commonLength left right ≤ left.length := by
  fun_induction commonLength left right with
  | case1 name left right inductionHypothesis => exact Nat.succ_le_succ inductionHypothesis
  | case2 => exact Nat.zero_le _
  | case3 => exact Nat.zero_le _

private theorem take_commonLength (left right : List String) :
    left.take (commonLength left right) = right.take (commonLength left right) := by
  fun_induction commonLength left right with
  | case1 name left right inductionHypothesis =>
      rw [List.take_succ_cons, List.take_succ_cons, inductionHypothesis]
  | case2 => rfl
  | case3 => rfl

/-- Both lists agree up to where they first differ, and not beyond it. -/
theorem isCommonLength_commonLength (left right : List String) :
    IsCommonLength left right (commonLength left right) where
  shared := by
    refine ⟨left.take (commonLength left right), List.take_prefix _ _, ?_, ?_⟩
    · rw [take_commonLength]
      exact List.take_prefix _ _
    · rw [List.length_take, Nat.min_eq_left (commonLength_le_left left right)]
  longest := by
    intro beginning ofLeft ofRight
    induction beginning generalizing left right with
    | nil => exact Nat.zero_le _
    | cons name rest inductionHypothesis =>
        obtain ⟨leftRest, rfl⟩ := ofLeft
        obtain ⟨rightRest, rfl⟩ := ofRight
        rw [List.cons_append, List.cons_append, commonLength_cons_self]
        exact Nat.succ_le_succ
          (inductionHypothesis _ _ (List.prefix_append rest _) (List.prefix_append rest _))

theorem commonLength_append (beginning left right : List String) :
    commonLength (beginning ++ left) (beginning ++ right) =
      beginning.length + commonLength left right := by
  induction beginning with
  | nil => rw [List.nil_append, List.nil_append, List.length_nil, Nat.zero_add]
  | cons name rest inductionHypothesis =>
      rw [List.cons_append, List.cons_append, commonLength_cons_self, inductionHypothesis,
        List.length_cons]
      omega

private theorem commonLength_take (left right : List String) (count : Nat) :
    commonLength left (right.take count) = min count (commonLength left right) := by
  induction count generalizing left right with
  | zero => cases left <;> simp [commonLength]
  | succ count inductionHypothesis =>
      cases left with
      | nil => simp [commonLength]
      | cons leftName leftRest =>
          cases right with
          | nil => simp [commonLength]
          | cons rightName rightRest =>
              rw [List.take_succ_cons, commonLength, commonLength, inductionHypothesis]
              split
              · rw [Nat.succ_min_succ]
              · rw [Nat.min_zero]

private theorem commonLength_self (names : List String) : commonLength names names = names.length := by
  rw [← List.append_nil names, commonLength_append]
  simp [commonLength]

/-! ## The walk to a target -/

/-- The walk from the names of a directory ends at the target. -/
theorem foldl_stepsBetween {start target : List String} (proper : ".." ∉ target) :
    (stepsBetween start target).foldl pushName start.reverse = target.reverse := by
  have below : ".." ∉ target.drop (commonLength start target) :=
    fun member => proper (List.mem_of_mem_drop member)
  have common : start.length - (start.length - commonLength start target) =
      commonLength start target :=
    Nat.sub_sub_self (commonLength_le_left start target)
  calc (stepsBetween start target).foldl pushName start.reverse
      = (target.drop (commonLength start target)).foldl pushName
          (start.reverse.drop (start.length - commonLength start target)) := by
        rw [stepsBetween, List.foldl_append, foldl_pushName_replicate]
    _ = (target.drop (commonLength start target)).reverse ++
          (target.take (commonLength start target)).reverse := by
        rw [foldl_pushName_of_notMem below, List.drop_reverse, common, take_commonLength]
    _ = target.reverse := by
        rw [← List.reverse_append, List.take_append_drop]

/-- The beginning of a walk is the walk to where it leads. -/
theorem stepsBetween_of_isPrefix {start target upper : List String} (proper : ".." ∉ target)
    (above : upper <+: stepsBetween start target) :
    stepsBetween start (upper.foldl pushName start.reverse).reverse = upper := by
  have bound := commonLength_le_left start target
  have isUpper := List.prefix_iff_eq_take.mp above
  rw [stepsBetween, List.take_append, List.length_replicate, List.take_replicate] at isUpper
  by_cases onlyUp : upper.length ≤ start.length - commonLength start target
  · -- The walk ends on its way up, at a directory above the start.
    rw [Nat.min_eq_left onlyUp, Nat.sub_eq_zero_of_le onlyUp, List.take_zero, List.append_nil] at isUpper
    have stays : start.length - upper.length ≤ start.length := Nat.sub_le _ _
    have back : start.length - (start.length - upper.length) = upper.length := by omega
    have nothing : (start.take (start.length - upper.length)).drop (start.length - upper.length) = [] :=
      List.drop_eq_nil_of_le (List.length_take_le _ _)
    calc stepsBetween start (upper.foldl pushName start.reverse).reverse
        = stepsBetween start (start.take (start.length - upper.length)) := by
          conv_lhs => rw [isUpper]
          rw [foldl_pushName_replicate, List.drop_reverse, List.reverse_reverse]
      _ = List.replicate upper.length ".." := by
          rw [stepsBetween, commonLength_take, commonLength_self, Nat.min_eq_left stays, back, nothing,
            List.append_nil]
      _ = upper := isUpper.symm
  · -- The walk ends on its way down, at a directory above the target.
    have farther : start.length - commonLength start target ≤ upper.length := Nat.le_of_not_le onlyUp
    rw [Nat.min_eq_right farther, List.take_drop] at isUpper
    generalize isDown : commonLength start target + (upper.length -
      (start.length - commonLength start target)) = down at isUpper
    have common : min down (commonLength start target) = commonLength start target := by omega
    have walk : stepsBetween start (target.take down) = upper := by
      rw [stepsBetween, commonLength_take, common]
      exact isUpper.symm
    have properPlace : ".." ∉ target.take down := fun member => proper (List.mem_of_mem_take member)
    rw [← walk, foldl_stepsBetween properPlace, List.reverse_reverse]

/-- The names of a walk can be written if those of the target can. -/
theorem isWritten_relativeTo (start : FilePath) {target : FilePath}
    (isWritten : target.IsWritten) : (relativeTo start target).IsWritten := by
  intro name isStep
  rcases List.mem_append.mp isStep with isUp | isBelow
  · rw [List.eq_of_mem_replicate isUp]
    decide
  · exact isWritten name (mem_of_mem_normalNames (List.mem_of_mem_drop isBelow)).1

/-- A dot and a slash before a text that names something from here change nothing. -/
theorem ofText_dotSlash {text : String} (isRelative : (ofText text).anchor = .none) :
    ofText ("./" ++ text) = ofText text := by
  have characters : ("./" ++ text).toList = ['.'] ++ '/' :: text.toList := by
    rw [String.toList_append]
    rfl
  have anchor : anchorOf (['.'] ++ '/' :: text.toList) = .none := rfl
  have names : namesOf (['.'] ++ '/' :: text.toList) = namesOf text.toList := by
    unfold namesOf
    rw [Text.cutAt_append_cons (by decide)]
    rfl
  rw [ofText, characters, anchor, names, ← isRelative]
  rfl

/-- The text of a walk: a single dot for the walk that stays. -/
def walkText (walk : List String) : String :=
  if walk = [] then "." else joinNames walk

theorem text_eq_walkText (walk : List String) : FilePath.text ⟨.none, walk⟩ = walkText walk := by
  unfold FilePath.text walkText
  cases walk with
  | nil => rfl
  | cons first rest => exact String.empty_append

theorem text_relativeTo (start target : FilePath) :
    (relativeTo start target).text = walkText (steps start target) :=
  text_eq_walkText _

theorem walkText_append {above below : List String} (aboveNonempty : above ≠ [])
    (belowNonempty : below ≠ []) :
    walkText (above ++ below) = walkText above ++ "/" ++ joinNames below := by
  rw [walkText, walkText, if_neg aboveNonempty,
    if_neg (List.append_ne_nil_of_left_ne_nil aboveNonempty below),
    joinNames_append aboveNonempty belowNonempty]

/-- The specifier of a target is the text of the walk to it, with a dot and a slash before it unless it
is explicitly relative already. -/
theorem specifier_eq (importer target : FilePath) :
    specifier importer target =
      if isExplicit (walkText (steps importer.parent target)) then
        walkText (steps importer.parent target)
      else "./" ++ walkText (steps importer.parent target) := by
  rw [← text_relativeTo]
  rfl

private theorem isExplicit_iff {text : String} :
    isExplicit text = true ↔ "./".toList <+: text.toList ∨ "../".toList <+: text.toList := by
  rw [isExplicit, Bool.or_eq_true, List.isPrefixOf_iff_prefix, List.isPrefixOf_iff_prefix]

/-- The specifier reads as the walk. -/
theorem ofText_specifier (importer : FilePath) {target : FilePath}
    (isWritten : target.IsWritten) :
    ofText (specifier importer target) = relativeTo importer.parent target := by
  have reads : ofText (walkText (steps importer.parent target)) =
      relativeTo importer.parent target := by
    rw [← text_relativeTo]
    exact ofText_text (isWritten_relativeTo importer.parent isWritten)
  rw [specifier_eq]
  split
  · exact reads
  · rw [ofText_dotSlash (by rw [reads]; rfl), reads]

/-! ## Specifiers -/

/-- A text leads from the names of a directory to those of a target: it is explicitly relative,
whoever follows it from the directory arrives at the target, and it goes up no further than to the
last common directory. -/
structure LeadsTo (directory target : List String) (text : String) : Prop where
  explicit : "./".toList <+: text.toList ∨ "../".toList <+: text.toList
  resolved : ∀ path : FilePath, path.normalNames = directory →
    (path.joinText text).normalNames = target
  written : ∃ common, IsCommonLength directory target common ∧
    let walk := List.replicate (directory.length - common) ".." ++ target.drop common
    text = walkText walk ∨ text = "./" ++ walkText walk

private theorem leadsTo_specifier (importer : FilePath) {target : FilePath}
    (isWritten : target.IsWritten) :
    LeadsTo importer.parent.normalNames target.normalNames (specifier importer target) where
  explicit := by
    rw [specifier_eq]
    split
    · rename_i isExplicit
      exact isExplicit_iff.mp isExplicit
    · rw [String.toList_append]
      exact .inl (List.prefix_append _ _)
  resolved := by
    intro path isDirectory
    have joined : path.joinText (specifier importer target) =
        ⟨path.anchor, path.names ++ steps importer.parent target⟩ := by
      rw [joinText, ofText_specifier importer isWritten]
      rfl
    rw [joined, normalNames_append, isDirectory, steps,
      foldl_stepsBetween (up_notMem_normalNames target), List.reverse_reverse]
  written := by
    refine ⟨_, isCommonLength_commonLength _ _, ?_⟩
    show specifier importer target = walkText (steps importer.parent target) ∨
      specifier importer target = "./" ++ walkText (steps importer.parent target)
    rw [specifier_eq]
    split
    · exact .inl rfl
    · exact .inr rfl

/-! ## Specifiers of boundary modules -/

/-- The names of the file of a module below those of the project root. -/
def namesOfModule (normalized : String) : List String :=
  [generatedDirectory, "boundaries", boundaryId normalized ++ ".js"]

private theorem boundaryPath_eq_append (root : FilePath) (normalized : String) :
    boundaryPath root (boundaryId normalized) =
      ⟨root.anchor, root.names ++ namesOfModule normalized⟩ := by
  rw [boundaryPath_eq root (slash_notMem_boundaryId normalized)]
  show FilePath.mk root.anchor ((root.names ++ boundaryDirectory.names) ++ _) = _
  rw [List.append_assoc]
  rfl

private theorem fileName_ne_short (normalized : String) {short : String}
    (isShort : short.length < 3) : boundaryId normalized ++ ".js" ≠ short := by
  rintro rfl
  rw [String.length_append, show ".js".length = 3 by decide] at isShort
  omega

private theorem up_notMem_namesOfModule (normalized : String) :
    ".." ∉ namesOfModule normalized := by
  have isNoFile : ".." ≠ boundaryId normalized ++ ".js" :=
    (fileName_ne_short normalized (by decide)).symm
  simp [namesOfModule, generatedDirectory, isNoFile]

theorem normalNames_boundaryPath (root : FilePath) (normalized : String) :
    (boundaryPath root (boundaryId normalized)).normalNames =
      root.normalNames ++ namesOfModule normalized := by
  rw [boundaryPath_eq_append, normalNames_append,
    foldl_pushName_of_notMem (up_notMem_namesOfModule normalized), List.reverse_append,
    List.reverse_reverse, List.reverse_reverse]

theorem isWritten_boundaryPath {root : FilePath} (isWritten : root.IsWritten)
    (normalized : String) : (boundaryPath root (boundaryId normalized)).IsWritten := by
  have file : IsName (boundaryId normalized ++ ".js") := by
    refine ⟨fileName_ne_short normalized (by decide), fileName_ne_short normalized (by decide), ?_⟩
    rw [String.toList_append, List.mem_append, not_or]
    exact ⟨slash_notMem_boundaryId normalized, by decide⟩
  have directories : IsName ".generated" ∧ IsName "boundaries" := by decide
  rw [boundaryPath_eq_append]
  intro name member
  rcases List.mem_append.mp member with ofRoot | ofModule
  · exact isWritten name ofRoot
  · simp only [namesOfModule, generatedDirectory, List.mem_cons, List.not_mem_nil, or_false]
      at ofModule
    rcases ofModule with rfl | rfl | rfl
    · exact directories.1
    · exact directories.2
    · exact file

/-- From a directory of a project outside its generated directory the walk to a module goes up to the
root and down again. -/
private theorem steps_boundaryPath {directory root : FilePath} (normalized : String)
    (within : root.normalNames <+: directory.normalNames)
    (outside : ¬ root.normalNames ++ [generatedDirectory] <+: directory.normalNames) :
    steps directory (boundaryPath root (boundaryId normalized)) =
      List.replicate (directory.normalNames.length - root.normalNames.length) ".." ++
        namesOfModule normalized := by
  obtain ⟨rest, isDirectory⟩ := within
  have apart : commonLength rest (namesOfModule normalized) = 0 := by
    cases rest with
    | nil => rfl
    | cons first others =>
        refine if_neg ?_
        rintro rfl
        rw [← isDirectory] at outside
        exact outside ⟨others, by rw [List.append_assoc, List.singleton_append]⟩
  rw [steps, normalNames_boundaryPath, ← isDirectory, stepsBetween, commonLength_append, apart,
    Nat.add_zero, List.drop_left]

/-- A walk that goes up and on is explicitly relative as it is written. -/
private theorem isExplicit_walkText_up {walk : List String} (goesOn : walk ≠ []) :
    isExplicit (walkText (".." :: walk)) = true := by
  obtain ⟨next, others, rfl⟩ := List.exists_cons_of_ne_nil goesOn
  have written : walkText (".." :: next :: others) = "../" ++ joinNames (next :: others) := rfl
  rw [written, isExplicit_iff, String.toList_append]
  exact .inr (List.prefix_append _ _)

/-- A walk down to a module begins with a name that is no step, although it begins with a dot. -/
private theorem isExplicit_walkText_namesOfModule (normalized : String) :
    isExplicit (walkText (namesOfModule normalized)) = false := by
  have written : walkText (namesOfModule normalized) =
      ".generated" ++ ("/" ++ joinNames ["boundaries", boundaryId normalized ++ ".js"]) := by
    show ".generated" ++ "/" ++ joinNames _ = _
    rw [String.append_assoc]
  rw [written, isExplicit, String.toList_append]
  rfl

/-- Every file imports every other file by a text that leads to it on the shortest way. A file of a
project outside its generated directory imports a boundary module by steps upwards to the project
root and the fixed names of the module below it, whatever the directories of the project are
called. -/
theorem specifier_leadsTo (importer : FilePath) {target : FilePath}
    (isWritten : target.IsWritten) :
    LeadsTo importer.parent.normalNames target.normalNames (specifier importer target) ∧
      ∀ (root : FilePath) (normalized : String),
        target = boundaryPath root (boundaryId normalized) →
        root.normalNames <+: importer.parent.normalNames →
        ¬ root.normalNames ++ [".generated"] <+: importer.parent.normalNames →
        let up := importer.parent.normalNames.length - root.normalNames.length
        specifier importer target =
          (if up = 0 then "./" else "") ++ joinNames (List.replicate up ".." ++
            [".generated", "boundaries", boundaryId normalized ++ ".js"]) := by
  refine ⟨leadsTo_specifier importer isWritten, ?_⟩
  rintro root normalized rfl within outside up
  have walk : steps importer.parent _ = List.replicate up ".." ++ namesOfModule normalized :=
    steps_boundaryPath normalized within outside
  rw [specifier_eq, walk]
  cases up with
  | zero =>
      show (if isExplicit (walkText (namesOfModule normalized)) then _ else _) = _
      rw [isExplicit_walkText_namesOfModule]
      rfl
  | succ count =>
      have goesOn : List.replicate count ".." ++ namesOfModule normalized ≠ [] :=
        List.append_ne_nil_of_right_ne_nil _ (List.cons_ne_nil _ _)
      rw [List.replicate_succ, List.cons_append, if_pos (isExplicit_walkText_up goesOn),
        if_neg (Nat.succ_ne_zero count), String.empty_append]
      rfl

/-- A file beside the generated directory, in a directory whose name begins like a step upwards. -/
theorem specifier_leadsTo_module :
    let importer := ofText "/project/app/../..x/page.tsx"
    let target := boundaryPath (ofText "/project") (boundaryId "import 'm';")
    target.IsWritten ∧
      LeadsTo ["project", "..x"] target.normalNames (specifier importer target) ∧
      specifier importer target =
        "../.generated/boundaries/" ++ (boundaryId "import 'm';" ++ ".js") := by
  intro importer target
  have isWritten : target.IsWritten := isWritten_boundaryPath (isWritten_ofText _) _
  have directory : importer.parent.normalNames = ["project", "..x"] := by decide
  have root : (ofText "/project").normalNames = ["project"] := by decide
  obtain ⟨leads, ofModule⟩ := specifier_leadsTo importer isWritten
  have written := ofModule (ofText "/project") "import 'm';" rfl
    (by rw [root, directory]; decide) (by rw [root, directory]; decide)
  rw [root, directory] at written
  rw [directory] at leads
  refine ⟨isWritten, leads, written.trans ?_⟩
  show "" ++ (".." ++ "/" ++ (".generated" ++ "/" ++ ("boundaries" ++ "/" ++ _))) = _
  simp only [← String.append_assoc]
  rfl

end ImportBoundary.FilePath
