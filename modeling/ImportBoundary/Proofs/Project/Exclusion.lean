import ImportBoundary.Project.Sources
import ImportBoundary.Proofs.Collecting
import ImportBoundary.Proofs.Path.Relative
import ImportBoundary.Proofs.Pattern.Wildcard

/-!
Contract: what the exclude entries of a project leave out.

Owns the walk from the root of a project to a path, what it means that an entry without wildcards names
a path or a directory above it, and what holds of the sources that no entry leaves out. An entry is
compared with the text of the walk, and not with the path that it names: one such as `./dist` is spelled
otherwise than the walk, and a pattern such as `d?st` fits the directory and nothing below it.

Main statement: `sourceFiles_unexcluded`.
-/

namespace ImportBoundary

namespace FilePath

/-! ## Slashes at the end of a text -/

theorem all_cutAt_concat (separator : Char) (text : List Char) :
    (Text.cutAt separator (text ++ [separator])).all = (Text.cutAt separator text).all ++ [[]] := by
  induction text with
  | nil => simp [Text.cutAt, Text.cutWhere, Text.Pieces.after, Text.Pieces.all]
  | cons character rest inductionHypothesis =>
      unfold Text.cutAt Text.Pieces.all at inductionHypothesis ⊢
      obtain ⟨same, others⟩ := List.cons.inj (inductionHypothesis.trans (List.cons_append ..))
      rw [List.cons_append, Text.cutWhere, Text.cutWhere, Text.Pieces.after, Text.Pieces.after]
      split
      · simp [same, others]
      · simp [same, others]

theorem anchorOf_eq_none_iff {text : List Char} : anchorOf text = .none ↔ text.head? ≠ some '/' := by
  cases text with
  | nil => simp [anchorOf]
  | cons first rest =>
      by_cases isSlash : first = '/'
      · subst isSlash
        unfold anchorOf
        split <;> simp_all
      · simp [anchorOf, isSlash]

theorem namesOf_concat_slash (text : List Char) : namesOf (text ++ ['/']) = namesOf text := by
  unfold namesOf
  rw [all_cutAt_concat, List.map_append, List.filter_append]
  exact List.append_nil _

end FilePath

namespace Project

theorem namesOf_withoutFinalSlashes (entry : String) :
    FilePath.namesOf (withoutFinalSlashes entry).toList = FilePath.namesOf entry.toList := by
  unfold withoutFinalSlashes
  rw [String.toList_ofList]
  generalize isEntry : entry.toList.reverse = reversed
  rw [← List.reverse_reverse entry.toList, isEntry]
  clear isEntry
  induction reversed with
  | nil => rfl
  | cons character rest inductionHypothesis =>
      rw [List.dropWhile_cons]
      split
      · rename_i isSlash
        rw [List.reverse_cons, of_decide_eq_true isSlash, FilePath.namesOf_concat_slash]
        exact inductionHypothesis
      · rfl

theorem withoutFinalSlashes_isPrefix (entry : String) :
    (withoutFinalSlashes entry).toList <+: entry.toList := by
  unfold withoutFinalSlashes
  rw [String.toList_ofList, ← List.reverse_suffix, List.reverse_reverse]
  exact List.dropWhile_suffix _

/-- Without the slashes at its end a text names the same, unless it begins at the root. -/
theorem ofText_withoutFinalSlashes {entry : String}
    (nonempty : withoutFinalSlashes entry ≠ "")
    (isRelative : (FilePath.ofText (withoutFinalSlashes entry)).anchor = .none) :
    FilePath.ofText entry = FilePath.ofText (withoutFinalSlashes entry) := by
  rw [FilePath.ofText] at isRelative
  dsimp only at isRelative
  obtain ⟨slashes, isEntry⟩ := withoutFinalSlashes_isPrefix entry
  have sameHead : entry.toList.head? = (withoutFinalSlashes entry).toList.head? := by
    rw [← isEntry, List.head?_append_of_ne_nil _ (mt String.toList_eq_nil_iff.mp nonempty)]
  have entryRelative : FilePath.anchorOf entry.toList = .none := by
    rw [FilePath.anchorOf_eq_none_iff, sameHead, ← FilePath.anchorOf_eq_none_iff]
    exact isRelative
  rw [FilePath.ofText, FilePath.ofText, entryRelative, isRelative, ← namesOf_withoutFinalSlashes]

variable {disk : Disk} {settings : Settings} {entry : String} {path : FilePath}

/-! ## Walks from the root -/

/-- The names that lead from the root of the project to a path. -/
def Settings.walk (settings : Settings) (disk : Disk) (path : FilePath) : List String :=
  FilePath.steps (settings.root.absolute disk.here) (path.absolute disk.here)

theorem relative_eq_walkText (settings : Settings) (disk : Disk) (path : FilePath) :
    settings.relative disk path = FilePath.walkText (settings.walk disk path) :=
  FilePath.text_relativeTo _ _

/-- A text that writes the beginning of a walk names the path that this beginning leads to. -/
theorem walk_joinText {names : List String} (writes : FilePath.ofText entry = ⟨.none, names⟩)
    (begins : names <+: settings.walk disk path) :
    settings.walk disk (settings.root.joinText entry) = names := by
  have place : ((settings.root.joinText entry).absolute disk.here).normalNames =
      (names.foldl FilePath.pushName
        (settings.root.absolute disk.here).normalNames.reverse).reverse := by
    rw [FilePath.joinText, writes, FilePath.join_of_relative rfl, FilePath.absolute_beneath]
    exact FilePath.normalNames_append _ _ _
  unfold Settings.walk FilePath.steps at begins ⊢
  rw [place]
  exact FilePath.stepsBetween_of_isPrefix (FilePath.up_notMem_normalNames _) begins

/-! ## Entries without wildcards -/

/-- An entry without wildcards names a path or a directory above it: its path, joined to the root as an
include entry is, is spelled in the entry as it is seen from the root, and its walk is where the walk to
the path begins. The root itself is named only for itself. -/
structure Covers (disk : Disk) (settings : Settings) (entry : String) (path : FilePath) : Prop where
  spelled : withoutFinalSlashes entry = settings.relative disk (settings.root.joinText entry)
  above : settings.walk disk (settings.root.joinText entry) <+: settings.walk disk path
  proper : settings.walk disk (settings.root.joinText entry) = [] → settings.walk disk path = []

theorem plain_withoutFinalSlashes (plain : Wildcard.isPattern entry = false) :
    Wildcard.isPattern (withoutFinalSlashes entry) = false := by
  rw [Wildcard.isPattern, List.any_eq_false] at plain ⊢
  exact fun character member => plain character ((withoutFinalSlashes_isPrefix entry).subset member)

/-- An entry leaves out what is below a path exactly if its text goes on in the walk with a slash. -/
theorem excludes_eq_true_iff {text : String} :
    excludes entry text = true ↔
      Wildcard.fits (withoutFinalSlashes entry) text = true ∨
        (withoutFinalSlashes entry).toList ++ ['/'] <+: text.toList := by
  unfold excludes
  rw [Bool.or_eq_true, List.isPrefixOf_iff_prefix, String.toList_append]
  rfl

theorem Covers.excludes (isCovered : Covers disk settings entry path)
    (plain : Wildcard.isPattern entry = false) :
    excludes entry (settings.relative disk path) = true := by
  obtain ⟨below, isWalk⟩ := isCovered.above
  rw [excludes_eq_true_iff, Wildcard.fits_iff_of_plain (plain_withoutFinalSlashes plain),
    isCovered.spelled, relative_eq_walkText, relative_eq_walkText, ← isWalk]
  by_cases atEnd : below = []
  · left
    rw [atEnd, List.append_nil]
  · have goesOn : settings.walk disk (settings.root.joinText entry) ≠ [] := by
      intro stays
      have empty := isCovered.proper stays
      rw [← isWalk, stays, List.nil_append] at empty
      exact atEnd empty
    right
    rw [FilePath.walkText_append goesOn atEnd, String.toList_append, String.toList_append]
    exact List.prefix_append _ _

/-- An entry that writes the beginning of a walk names the path that this leads to. -/
theorem covers_of_walkText {upper : List String} (begins : upper <+: settings.walk disk path)
    (areNames : ∀ name ∈ upper, FilePath.IsName name)
    (isText : withoutFinalSlashes entry = FilePath.walkText upper)
    (proper : upper = [] → settings.walk disk path = []) : Covers disk settings entry path := by
  have reads : FilePath.ofText (withoutFinalSlashes entry) = ⟨.none, upper⟩ := by
    have isWritten : FilePath.IsWritten ⟨.none, upper⟩ := areNames
    rw [isText, ← FilePath.text_eq_walkText, FilePath.ofText_text isWritten]
  have nonempty : withoutFinalSlashes entry ≠ "" := by
    intro empty
    rw [empty] at reads isText
    have stays : upper = [] := (FilePath.mk.inj reads).2.symm
    rw [stays] at isText
    exact absurd isText (by decide)
  have named := walk_joinText
    ((ofText_withoutFinalSlashes nonempty (by rw [reads])).trans reads) begins
  exact ⟨by rw [relative_eq_walkText, named, isText], by rwa [named], by rwa [named]⟩

/-- An entry without wildcards leaves out a path exactly if it names the path or a directory above it,
and is spelled as the path that it names is seen from the root. -/
theorem excludes_iff_covers (plain : Wildcard.isPattern entry = false)
    (isWritten : (path.absolute disk.here).IsWritten) :
    excludes entry (settings.relative disk path) = true ↔ Covers disk settings entry path := by
  have areNames : ∀ name ∈ settings.walk disk path, FilePath.IsName name :=
    FilePath.isWritten_relativeTo _ isWritten
  refine ⟨fun excluded => ?_, fun isCovered => isCovered.excludes plain⟩
  rw [excludes_eq_true_iff, Wildcard.fits_iff_of_plain (plain_withoutFinalSlashes plain),
    relative_eq_walkText] at excluded
  rcases excluded with isWhole | begins
  · exact covers_of_walkText List.prefix_rfl areNames isWhole.symm id
  · by_cases stays : settings.walk disk path = []
    · rw [stays] at begins
      exact absurd (begins.subset (List.mem_append_right _ List.mem_cons_self)) (by decide)
    · rw [FilePath.walkText, if_neg stays] at begins
      obtain ⟨upper, nonempty, above, isText⟩ := FilePath.exists_prefix_of_joinNames areNames begins
      refine covers_of_walkText above (fun name member => areNames name (above.subset member)) ?_
        (fun empty => absurd empty nonempty)
      rw [FilePath.walkText, if_neg nonempty]
      exact String.toList_inj.mp isText

/-! ## What lies below an excluded path -/

/-- An entry that leaves out a path leaves out what is below it, unless it is a pattern that does not end
in a star. -/
theorem excludes_below {directory : String} (rest : String)
    (goesOn : Wildcard.isPattern entry = true →
      Wildcard.endsInStar (withoutFinalSlashes entry) = true)
    (excluded : excludes entry directory = true) :
    excludes entry (directory ++ "/" ++ rest) = true := by
  rw [excludes_eq_true_iff] at excluded ⊢
  rcases excluded with matched | begins
  · cases kind : Wildcard.isPattern entry with
    | true =>
        rw [String.append_assoc]
        exact .inl (Wildcard.fits_append_of_endsInStar (goesOn kind) matched ("/" ++ rest))
    | false =>
        have same := (Wildcard.fits_iff_of_plain (plain_withoutFinalSlashes kind)).mp matched
        rw [same, String.toList_append, String.toList_append]
        exact .inr (List.prefix_append _ _)
  · rw [String.append_assoc, String.toList_append]
    exact .inr (begins.trans (List.prefix_append _ _))

theorem isExcluded_below {directory : String} {entries : List String} (rest : String)
    (goOn : ∀ entry ∈ entries, Wildcard.isPattern entry = true →
      Wildcard.endsInStar (withoutFinalSlashes entry) = true)
    (excluded : isExcluded directory entries = true) :
    isExcluded (directory ++ "/" ++ rest) entries = true := by
  obtain ⟨entry, member, isExcluding⟩ := List.any_eq_true.mp excluded
  exact List.any_eq_true.mpr ⟨entry, member, excludes_below rest (goOn entry member) isExcluding⟩

theorem selects_eq_ok_true_iff :
    settings.selects disk path = .ok true ↔
      disk.isFile path = .ok true ∧ path.isProjectSource = true ∧
        isExcluded (settings.relative disk path) settings.excludesInForce = false := by
  rw [Settings.selects, bind_eq_ok_iff]
  constructor
  · rintro ⟨isFile, answered, accepted⟩
    have parts := Except.ok.inj accepted
    rw [Bool.and_eq_true, Bool.and_eq_true, Bool.not_eq_true'] at parts
    obtain ⟨⟨rfl, isSource⟩, unexcluded⟩ := parts
    exact ⟨answered, isSource, unexcluded⟩
  · rintro ⟨answered, isSource, unexcluded⟩
    exact ⟨true, answered, by rw [isSource, unexcluded]; rfl⟩

/-- No exclude entry leaves out a source of the project. -/
theorem unexcluded_of_mem_sourceFiles {files : List FilePath}
    (collected : sourceFiles disk settings = .ok files) {file : FilePath} (member : file ∈ files) :
    ∀ entry ∈ settings.excludesInForce, excludes entry (settings.relative disk file) = false := by
  obtain ⟨included, _, collected⟩ := bind_eq_ok_iff.mp collected
  obtain ⟨selected, filtered, isResult⟩ := bind_eq_ok_iff.mp collected
  cases isResult
  rw [List.mem_eraseDups, List.mem_mergeSort] at member
  obtain ⟨_, selects⟩ := (mem_filterM_iff filtered).mp member
  obtain ⟨_, _, unexcluded⟩ := selects_eq_ok_true_iff.mp selects
  rw [isExcluded, List.any_eq_false] at unexcluded
  exact fun entry isEntry => Bool.eq_false_iff.mpr (unexcluded entry isEntry)

/-- **What no exclude entry names.** For every source of a project and every entry in force: an entry
without wildcards neither names the source nor a directory above it, if it is spelled as the path that it
names is seen from the root; a pattern does not fit the source, and one that ends in a star fits no
directory above it. An entry without wildcards leaves out a path exactly if it names the path or a
directory above it and is so spelled. What is excluded is excluded with all that is below it, if the
patterns among the entries end in a star. -/
theorem sourceFiles_unexcluded {disk : Disk} {settings : Settings} {files : List FilePath}
    (collected : sourceFiles disk settings = .ok files) :
    (∀ file ∈ files, ∀ entry ∈ settings.excludesInForce,
      (Wildcard.isPattern entry = false → ¬Covers disk settings entry file) ∧
        (Wildcard.isPattern entry = true →
          Wildcard.fits (withoutFinalSlashes entry) (settings.relative disk file) = false ∧
            (Wildcard.endsInStar (withoutFinalSlashes entry) = true →
              ∀ upper, upper ≠ [] → upper <+: settings.walk disk file →
                Wildcard.fits (withoutFinalSlashes entry) (FilePath.walkText upper) = false))) ∧
      (∀ entry path, Wildcard.isPattern entry = false → (path.absolute disk.here).IsWritten →
        (excludes entry (settings.relative disk path) = true ↔ Covers disk settings entry path)) ∧
      (∀ directory rest entries,
        (∀ entry ∈ entries, Wildcard.isPattern entry = true →
          Wildcard.endsInStar (withoutFinalSlashes entry) = true) →
        isExcluded directory entries = true →
          isExcluded (directory ++ "/" ++ rest) entries = true) := by
  refine ⟨fun file member entry isEntry => ?_,
    fun _ _ plain isWritten => excludes_iff_covers plain isWritten,
    fun _ rest _ goOn excluded => isExcluded_below rest goOn excluded⟩
  have unexcluded := unexcluded_of_mem_sourceFiles collected member entry isEntry
  refine ⟨fun plain isCovered => ?_, fun _ => ⟨?_, fun starred upper nonempty above => ?_⟩⟩
  · cases unexcluded.symm.trans (isCovered.excludes plain)
  · rw [excludes, Bool.or_eq_false_iff] at unexcluded
    exact unexcluded.1
  · by_contra fits
    have excluded : excludes entry (FilePath.walkText upper) = true :=
      excludes_eq_true_iff.mpr (.inl (Bool.eq_true_of_not_eq_false fits))
    obtain ⟨below, isWalk⟩ := above
    rw [relative_eq_walkText, ← isWalk] at unexcluded
    by_cases atEnd : below = []
    · rw [atEnd, List.append_nil, excluded] at unexcluded
      cases unexcluded
    · rw [FilePath.walkText_append nonempty atEnd,
        excludes_below _ (fun _ => starred) excluded] at unexcluded
      cases unexcluded

/-- Sources beside and below an excluded directory. -/
theorem sourceFiles_unexcluded_of_directory :
    let disk : Disk := ⟨⟨[(["a.ts"], .file [] 1), (["dist"], .directory 2),
      (["dist", "b.ts"], .file [] 3)], 4⟩, []⟩
    let settings : Settings :=
      ⟨⟨.none, ["tsconfig.json"]⟩, ⟨.none, []⟩, ["a.ts", "dist/b.ts"], [], ["dist/"]⟩
    sourceFiles disk settings = .ok [⟨.none, ["a.ts"]⟩] ∧
      ¬Covers disk settings "dist/" ⟨.none, ["a.ts"]⟩ ∧
        Covers disk settings "dist/" ⟨.none, ["dist", "b.ts"]⟩ := by
  intro disk settings
  have collected : sourceFiles disk settings = .ok [⟨.none, ["a.ts"]⟩] := by decide +kernel
  obtain ⟨unnamed, plain, _⟩ := sourceFiles_unexcluded collected
  refine ⟨collected, ?_, ?_⟩
  · have inForce : "dist/" ∈ settings.excludesInForce := List.mem_cons_self
    exact (unnamed _ List.mem_cons_self "dist/" inForce).1 (by decide +kernel)
  · have excluded : excludes "dist/" (settings.relative disk ⟨.none, ["dist", "b.ts"]⟩) = true := by
      decide +kernel
    exact (plain "dist/" _ (by decide +kernel) (by decide +kernel)).mp excluded

/-- A pattern that excludes a directory and nothing below it, and an entry that names an excluded
directory in another spelling. -/
theorem entry_overlooked :
    (isExcluded "dist" ["d?st"] = true ∧ isExcluded ("dist" ++ "/" ++ "a.ts") ["d?st"] = false) ∧
      let disk : Disk := ⟨⟨[(["dist"], .directory 1), (["dist", "a.ts"], .file [] 2)], 3⟩, []⟩
      let settings : Settings := ⟨⟨.none, ["tsconfig.json"]⟩, ⟨.none, []⟩, [], [], ["./dist"]⟩
      sourceFiles disk settings = .ok [⟨.none, ["dist", "a.ts"]⟩] ∧
        settings.root.joinText "./dist" = ⟨.none, ["dist"]⟩ := by
  refine ⟨by decide +kernel, ?_⟩
  intro disk settings
  decide +kernel

end Project

end ImportBoundary
