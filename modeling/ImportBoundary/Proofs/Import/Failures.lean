import ImportBoundary.Proofs.Build.Outcome
import ImportBoundary.Proofs.Syntax.Language

/-!
Contract: the ways in which the transform of a file can fail.

Owns that whatever is read from a source fails, if at all, for a reason that concerns its file: its
octets are no text, or it does not parse cleanly. A transform of a file whose language is known has
no other reason to fail, as long as the specifiers of its modules can be written.

Main statement: `concernsFile_transformed`.
-/

namespace ImportBoundary

/-- An answer fails, if at all, for a reason that concerns one file. -/
def ConcernsFile {α : Type} (answer : Except Failure α) : Prop :=
  ∀ failure, answer = .error failure → failure.concernsFile = true

/-! ## Answers one after the other -/

section Answers

variable {α β : Type}

theorem concernsFile_ok (value : α) : ConcernsFile (.ok value) :=
  fun _ differs => nomatch differs

theorem concernsFile_error {failure : Failure} (concerns : failure.concernsFile = true) :
    ConcernsFile (.error failure : Except Failure α) := by
  intro other same
  rw [← Except.error.inj same]
  exact concerns

/-- What comes after an answer may rely on it. -/
theorem ConcernsFile.bind_of_ok {answer : Except Failure α} {next : α → Except Failure β}
    (first : ConcernsFile answer) (second : ∀ value, answer = .ok value → ConcernsFile (next value)) :
    ConcernsFile (answer >>= next) := by
  cases answer with
  | ok value => exact second value rfl
  | error failure => exact concernsFile_error (first failure rfl)

theorem ConcernsFile.bind {answer : Except Failure α} {next : α → Except Failure β}
    (first : ConcernsFile answer) (second : ∀ value, ConcernsFile (next value)) :
    ConcernsFile (answer >>= next) :=
  first.bind_of_ok fun value _ => second value

theorem ConcernsFile.map {answer : Except Failure α} (concerns : ConcernsFile answer)
    (change : α → β) : ConcernsFile (answer.map change) := by
  cases answer with
  | ok value => exact concernsFile_ok (change value)
  | error failure => exact concernsFile_error (concerns failure rfl)

/-- Octets that are no text concern the file they are read from. -/
theorem concernsFile_decode (decoded : Except Utf8.Fault α) :
    ConcernsFile (decoded.mapError Failure.undecodable) := by
  cases decoded with
  | ok value => exact concernsFile_ok value
  | error fault => exact concernsFile_error rfl

theorem concernsFile_gather {rule : α → Except Failure (Option β)}
    (concerns : ∀ item, ConcernsFile (rule item)) (items : List α) :
    ConcernsFile (gather rule items) := by
  induction items with
  | nil => exact concernsFile_ok []
  | cons head tail inductionHypothesis =>
      apply (concerns head).bind
      intro found
      apply inductionHypothesis.bind
      intro rest
      exact concernsFile_ok _

theorem concernsFile_mapM {rule : α → Except Failure β} (concerns : ∀ item, ConcernsFile (rule item))
    (items : List α) : ConcernsFile (items.mapM rule) := by
  induction items with
  | nil => exact concernsFile_ok []
  | cons head tail inductionHypothesis =>
      rw [List.mapM_cons]
      apply (concerns head).bind
      intro found
      apply inductionHypothesis.bind
      intro rest
      exact concernsFile_ok _

theorem concernsFile_foldlM {rule : β → α → Except Failure β}
    (concerns : ∀ state item, ConcernsFile (rule state item)) (state : β) (items : List α) :
    ConcernsFile (items.foldlM rule state) := by
  induction items generalizing state with
  | nil => exact concernsFile_ok state
  | cons head tail inductionHypothesis =>
      rw [List.foldlM_cons]
      exact (concerns state head).bind inductionHypothesis

end Answers

/-! ## What is read from a source -/

namespace Source

variable (source : Source)

theorem concernsFile_text (node : Node) : ConcernsFile (source.text node) :=
  concernsFile_decode _

theorem concernsFile_text? (node : Option Node) : ConcernsFile (source.text? node) := by
  cases node with
  | none => exact concernsFile_ok none
  | some present => exact (source.concernsFile_text present).map some

theorem concernsFile_unquoted (node : Node) : ConcernsFile (source.unquoted node) := by
  apply (source.concernsFile_text node).bind
  intro text
  split
  · exact concernsFile_ok _
  · exact concernsFile_ok _

theorem concernsFile_isMark (entry : Node) : ConcernsFile (source.isMark entry) := by
  unfold isMark
  split
  · exact concernsFile_ok false
  · split
    · rename_i key value _ _
      split
      · exact concernsFile_ok false
      · have readsValue : ∀ keyText : String, ConcernsFile (do
            if keyText = markKey then
              let valueText ← source.unquoted value
              Except.ok (decide (valueText = markValue))
            else Except.ok false) := by
          intro keyText
          split
          · apply (source.concernsFile_unquoted value).bind
            intro valueText
            exact concernsFile_ok _
          · exact concernsFile_ok false
        dsimp only
        split
        · exact (source.concernsFile_unquoted key).bind readsValue
        · exact (source.concernsFile_text key).bind readsValue
    · exact concernsFile_ok false

theorem concernsFile_anyMark (entries : List Node) : ConcernsFile (source.anyMark entries) := by
  induction entries with
  | nil => exact concernsFile_ok false
  | cons entry rest inductionHypothesis =>
      apply (source.concernsFile_isMark entry).bind
      intro found
      cases found with
      | true => exact concernsFile_ok true
      | false => exact inductionHypothesis

theorem concernsFile_isMarked (statement : Node) : ConcernsFile (source.isMarked statement) := by
  unfold isMarked
  split
  · exact concernsFile_ok false
  · exact source.concernsFile_anyMark _

theorem concernsFile_specifierOf (node : Node) : ConcernsFile (source.specifierOf node) := by
  apply (source.concernsFile_text _).bind
  intro name
  apply (source.concernsFile_text? _).bind
  intro renamed
  exact concernsFile_ok _

theorem concernsFile_addBinding (parts : ImportParts) (child : Node) :
    ConcernsFile (source.addBinding parts child) := by
  unfold addBinding
  split
  · apply (source.concernsFile_text child).bind
    intro name
    exact concernsFile_ok _
  · split
    · split
      · exact concernsFile_ok parts
      · apply (source.concernsFile_text _).bind
        intro name
        exact concernsFile_ok _
    · split
      · apply (concernsFile_mapM source.concernsFile_specifierOf _).bind
        intro specifiers
        exact concernsFile_ok _
      · exact concernsFile_ok parts

theorem concernsFile_markedImport? (statement : Node) :
    ConcernsFile (source.markedImport? statement) := by
  unfold markedImport?
  split
  · exact concernsFile_ok none
  · apply (source.concernsFile_isMarked statement).bind
    intro isMarked
    split
    · split
      · rename_i sourceNode attributeNode _ _
        apply (concernsFile_foldlM source.concernsFile_addBinding _ _).bind
        intro bound
        apply (source.concernsFile_text sourceNode).bind
        intro sourceText
        exact concernsFile_ok _
      · exact concernsFile_ok none
    · exact concernsFile_ok none

theorem concernsFile_markedImports : ConcernsFile source.markedImports :=
  concernsFile_gather source.concernsFile_markedImport? _

theorem concernsFile_ensureClean : ConcernsFile source.ensureClean := by
  unfold ensureClean
  split
  · exact concernsFile_ok ()
  · exact concernsFile_error rfl

/-! ## Modules and redirected imports -/

theorem concernsFile_memberParts (node : Node) : ConcernsFile (source.memberParts node) := by
  unfold memberParts
  split
  · split
    · rename_i object member _
      split
      · apply (source.concernsFile_text object).bind
        intro objectName
        apply (source.concernsFile_text member).bind
        intro memberName
        exact concernsFile_ok _
      · exact concernsFile_ok none
    · exact concernsFile_ok none
  · exact concernsFile_ok none

theorem concernsFile_accessOf (namespaceName : String) (node : Node) :
    ConcernsFile (source.accessOf namespaceName node) := by
  apply (source.concernsFile_memberParts node).bind
  intro accessed
  cases accessed with
  | none => exact concernsFile_ok none
  | some pair => exact concernsFile_ok _

theorem concernsFile_membersOf (namespaceName : String) :
    ConcernsFile (source.membersOf namespaceName) :=
  (concernsFile_gather (source.concernsFile_accessOf namespaceName) _).map _

theorem concernsFile_boundaryOf (root : FilePath) (parts : ImportParts) :
    ConcernsFile (source.boundaryOf root parts) := by
  have exports : ConcernsFile (source.exportStatement parts) := by
    unfold exportStatement
    cases nonEmpty parts.namespaceName with
    | none => exact concernsFile_ok _
    | some name =>
        apply (source.concernsFile_membersOf name).bind
        intro members
        exact concernsFile_ok _
  apply exports.bind
  intro statement
  exact concernsFile_ok _

theorem concernsFile_redirect [StrayOctets] {replacements : List (MarkedImport × String)}
    (writable : AreWritable replacements) : ConcernsFile (source.redirect replacements) := by
  rw [source.redirect_of_writable writable]
  exact concernsFile_decode _

end Source

/-! ## Transforms -/

/-- A transform of a file whose language is known fails only for reasons that concern the file, if
nothing is to be redirected or the project root can be spelled from the file. -/
theorem concernsFile_transformed [StrayOctets] {parser : Parser}
    {workingDirectory root path : FilePath} {text : String} {language : Option String}
    (parses : ∀ octets, ∃ source,
      Source.parse parser octets (path.absolute workingDirectory) language = .ok source)
    (spelled : ∀ source imports,
      prepare parser workingDirectory path text language = .ok (source, imports) → imports = [] ∨
        (path.absolute workingDirectory).IsSpelled (root.absolute workingDirectory)) :
    ConcernsFile (transformed parser workingDirectory root path text language) := by
  have prepares : ConcernsFile (prepare parser workingDirectory path text language) := by
    obtain ⟨source, isParsed⟩ := parses (Utf8.encode text)
    unfold prepare
    rw [isParsed, ok_bind]
    apply source.concernsFile_markedImports.bind
    intro imports
    split
    · exact concernsFile_ok _
    · apply source.concernsFile_ensureClean.bind
      intro _
      exact concernsFile_ok _
  apply prepares.bind_of_ok
  rintro ⟨source, imports⟩ isPrepared
  dsimp only
  split
  · exact concernsFile_ok text
  · have makes := concernsFile_mapM (fun marked : MarkedImport =>
      source.concernsFile_boundaryOf (root.absolute workingDirectory) marked.parts) imports
    apply makes.bind_of_ok
    intro boundaries built
    apply source.concernsFile_redirect
    apply (areWritable_replacements_iff built).mpr
    rw [Source.path_of_parse (of_prepare_eq_ok isPrepared).1]
    exact spelled source imports isPrepared

end ImportBoundary
