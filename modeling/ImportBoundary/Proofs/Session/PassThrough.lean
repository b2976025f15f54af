import ImportBoundary.Proofs.Console.Ending
import ImportBoundary.Proofs.Import.Reading
import ImportBoundary.Proofs.Import.Selection
import ImportBoundary.Proofs.Session.Batch

/-!
Contract: which octets of a file are found again in its transformed text.

Owns what reading makes of a text, which is to join its line ends, and what a session, its tool and the
command hand on of the text read. What is parsed, searched for marked imports and exchanged is the text
as it is read, so that a file keeps its octets exactly when it holds no carriage return.

Main statement: `passes_through`.
-/

namespace ImportBoundary

namespace Text

/-- A text with all its line ends joined. -/
def joined (text : String) : String :=
  String.ofList (joinLineEnds text.toList)

theorem carriageReturn_notMem_joinLineEnds (text : List Char) : '\r' ∉ joinLineEnds text := by
  fun_induction joinLineEnds text with
  | case1 => simp
  | case2 rest inductionHypothesis => simpa using inductionHypothesis
  | case3 rest _ inductionHypothesis => simpa using inductionHypothesis
  | case4 character rest notPair notReturn inductionHypothesis =>
      have differs : character ≠ '\r' := by
        rintro rfl
        exact notReturn rfl
      simp [differs.symm, inductionHypothesis]

theorem joinLineEnds_of_notMem {text : List Char} (absent : '\r' ∉ text) :
    joinLineEnds text = text := by
  fun_induction joinLineEnds text with
  | case1 => rfl
  | case2 rest inductionHypothesis => exact absurd List.mem_cons_self absent
  | case3 rest _ inductionHypothesis => exact absurd List.mem_cons_self absent
  | case4 character rest _ _ inductionHypothesis =>
      rw [inductionHypothesis fun isLater => absent (List.mem_cons_of_mem character isLater)]

/-- Only a text without carriage returns stays as it is. -/
theorem joined_eq_iff {text : String} : joined text = text ↔ '\r' ∉ text.toList := by
  constructor
  · intro same isReturn
    have absent := carriageReturn_notMem_joinLineEnds text.toList
    rw [← same, joined, String.toList_ofList] at isReturn
    exact absent isReturn
  · intro absent
    rw [joined, joinLineEnds_of_notMem absent, String.ofList_toList]

end Text

variable {parser : Parser} {disk : Disk} {path : FilePath} {text answer : String} {source : Source}

/-- A text is what redirecting the marked imports of a source makes of it: one exchange for each of
them, and every other octet kept. -/
def Source.RedirectedTo (source : Source) (answer : String) : Prop :=
  ∃ (imports : List MarkedImport) (replacements : List (MarkedImport × String)),
    source.markedImports = .ok imports ∧
    replacements.map Prod.fst = imports ∧
    Exchanged 0 source.octets (source.exchanges replacements) (Utf8.encode answer)

namespace Disk

theorem readText_of_encoded (isFile : disk.readOctets path = .ok (Utf8.encode text)) :
    disk.readText path = .ok (Text.joined text) := by
  unfold readText
  rw [isFile, ok_bind, Utf8.decode_encode]
  rfl

end Disk

/-- A session that has done nothing yet has written nothing. -/
theorem Session.generated_start (disk : Disk) (root : FilePath) (keeping : Keeping)
    (files : List FilePath) : (Session.start disk root keeping files).generated = [] := by
  simp [Session.generated, Session.start, Registry.paths, Registry.empty]

section Passing

variable [StrayOctets]

/-- A transform that answers exchanges the marked imports of a well-formed source, wherever its modules
go. -/
theorem redirectedTo_of_transform {σ : Type} {store : Store σ} {workingDirectory root : FilePath}
    {build after : Build σ}
    (isParsed : Source.parse parser (Utf8.encode text) (path.absolute workingDirectory) none =
      .ok source)
    (wellFormed : source.WellFormed) (literals : source.LiteralsWritten)
    (answered : transform parser store workingDirectory root path text none build =
      .ok answer after) : source.RedirectedTo answer := by
  obtain ⟨prepared, imports, isPrepared, outcome⟩ := transform_eq_ok_iff.mp answered
  obtain ⟨parsed, found⟩ := of_prepare_eq_ok isPrepared
  obtain rfl := Except.ok.inj (isParsed.symm.trans parsed)
  have octets := Source.octets_of_parse isParsed
  rcases outcome with ⟨rfl, rfl, _⟩ | ⟨nonempty, replacements, emitted, redirected⟩
  · refine ⟨[], [], found, rfl, ?_⟩
    rw [octets]
    exact .kept 0 _
  · have encoded : Utf8.IsEncoded source.octets := octets ▸ Utf8.isEncoded_encode text
    obtain ⟨boundaries, built, rfl, _⟩ := registry_of_emitAll emitted
    have pairs := map_fst_replacements built
    have isClean := ensureClean_of_prepare isPrepared nonempty
    have areNonempty := Source.nonempty_of_literals literals isClean found
    have follow := Source.follow_of_wellFormed wellFormed encoded found areNonempty pairs
    have areWritten : ∀ replaced ∈ source.replacements imports boundaries,
        source.Written replaced.1 := by
      intro replaced member
      have isImport : replaced.1 ∈ imports := pairs ▸ List.mem_map_of_mem member
      exact Source.written_of_mem found isImport (wellFormed.placed found isImport)
        (areNonempty replaced.1 isImport)
    obtain ⟨same, redirects, exchanged⟩ := Source.redirect_exchanges encoded areWritten
      (Source.areWritable_of_redirect redirected) follow
    rw [redirects _ (List.Perm.refl _)] at redirected
    cases redirected
    exact ⟨imports, _, found, pairs, exchanged⟩

/-- A clean well-formed source is transformed by every store that takes every write, if its specifiers
can be written. -/
theorem exists_transformed {workingDirectory root : FilePath} {imports : List MarkedImport}
    (isParsed : Source.parse parser (Utf8.encode text) (path.absolute workingDirectory) none =
      .ok source)
    (wellFormed : source.WellFormed) (literals : source.LiteralsWritten)
    (clean : source.ensureClean = .ok ()) (found : source.markedImports = .ok imports)
    (spelled : imports = [] ∨
      (path.absolute workingDirectory).IsSpelled (root.absolute workingDirectory)) :
    ∃ answer, transformed parser workingDirectory root path text none = .ok answer := by
  have isPrepared : prepare parser workingDirectory path text none = .ok (source, imports) := by
    rw [prepare, isParsed, ok_bind, found, ok_bind, clean]
    cases imports with
    | nil => rfl
    | cons marked rest => rfl
  have encoded : Utf8.IsEncoded source.octets :=
    Source.octets_of_parse isParsed ▸ Utf8.isEncoded_encode text
  obtain ⟨boundaries, built⟩ := Source.exists_boundariesOf wellFormed encoded
    (root.absolute workingDirectory) imports
  have writable : AreWritable (source.replacements imports boundaries) := by
    rw [areWritable_replacements_iff built, Source.path_of_parse isParsed]
    exact spelled
  obtain ⟨answer, redirected⟩ := Source.redirect_of_wellFormed wellFormed encoded found
    (Source.nonempty_of_literals literals clean found) (map_fst_replacements built) writable
  unfold transformed
  rw [isPrepared, ok_bind]
  cases imports with
  | nil => exact ⟨text, rfl⟩
  | cons marked rest =>
      refine ⟨answer, ?_⟩
      dsimp only
      rw [List.isEmpty_cons, if_neg Bool.false_ne_true, built, ok_bind, redirected]

namespace Session

variable {session : Session}

/-- Transforming a file transforms the text that is read. -/
theorem transformFile_eq (isRead : session.disk.readText path = .ok text) :
    transformFile parser path session = transformText parser path text session := by
  unfold transformFile
  rw [Action.bind_apply, readText, isRead]

theorem transformText_unmarked
    (isParsed : Source.parse parser (Utf8.encode text) (path.absolute session.disk.here) none =
      .ok source)
    (unmarked : source.markedImports = .ok []) :
    transformText parser path text session = .ok text session := by
  have isPrepared : prepare parser session.disk.here path text none = .ok (source, []) := by
    rw [prepare, isParsed, ok_bind, unmarked]
    rfl
  unfold transformText
  rw [transform_eq, isPrepared]

theorem transform_of_transformText {after : Session}
    (answered : transformText parser path text session = .ok answer after) :
    ∃ build, transform parser (Shelves.store session.keeping) session.disk.here session.root path
      text none session.build = .ok answer build := by
  unfold transformText at answered
  split at answered
  · rename_i outcome
    cases answered
    exact ⟨_, outcome⟩
  · cases answered

theorem exists_transformText (inMemory : session.keeping = .inMemory)
    (answers : ∃ answer,
      transformed parser session.disk.here session.root path text none = .ok answer) :
    ∃ answer after, transformText parser path text session = .ok answer after := by
  obtain ⟨answer, isAnswer⟩ := answers
  have same := answer_transform Shelves.store_accepts parser session.disk.here session.root path
    text none session.build
  rw [isAnswer, Action.answer, ← inMemory] at same
  unfold transformText
  cases outcome : transform parser (Shelves.store session.keeping) session.disk.here session.root
      path text none session.build with
  | ok other build => exact ⟨other, _, rfl⟩
  | error failure build =>
      rw [outcome] at same
      cases same

end Session

/-! ## What is handed on -/

/-- What a session and its tool make of a file with a text, which is parsed as a source. -/
structure HandsOn (parser : Parser) (session : Session) (path : FilePath) (text : String)
    (source : Source) : Prop where
  unmarked : source.markedImports = .ok [] →
      Session.transformFile parser path session = .ok text session
  redirected : source.WellFormed → source.LiteralsWritten → ∀ answer after,
      Session.transformFile parser path session = .ok answer after → source.RedirectedTo answer
  answers : source.WellFormed → source.LiteralsWritten → source.ensureClean = .ok () →
      session.keeping = .inMemory → ∀ imports, source.markedImports = .ok imports →
        (imports = [] ∨ (path.absolute session.disk.here).IsSpelled
          (session.root.absolute session.disk.here)) →
        ∃ answer after, Session.transformFile parser path session = .ok answer after
  tool : ∀ answer after, Session.transformFile parser path session = .ok answer after →
      Console.transformAnswer parser path session = .ok answer after

/-- What the command prints for a file with a text, which is parsed as a source: what a session hands
on, without the sequences that control a terminal. -/
structure Prints (parser : Parser) (disk : Disk) (path : FilePath) (text : String)
    (source : Source) : Prop where
  unmarked : source.markedImports = .ok [] → ∀ root,
      Project.findRoot disk (some path.parent) = .ok root →
        Console.transformAt parser disk path =
          (.done (Console.withoutSequences text) "", disk)
  redirected : source.WellFormed → source.LiteralsWritten → ∀ outcome after,
      Console.transformAt parser disk path = (outcome, after) → outcome.exitCode = 0 →
        ∃ answer, source.RedirectedTo answer ∧ outcome.output = Console.withoutSequences answer

theorem handsOn {session : Session} (isRead : session.disk.readText path = .ok text)
    (isParsed : Source.parse parser (Utf8.encode text) (path.absolute session.disk.here) none =
      .ok source) : HandsOn parser session path text source := by
  constructor
  · intro unmarked
    rw [Session.transformFile_eq isRead]
    exact Session.transformText_unmarked isParsed unmarked
  · intro wellFormed literals answer after answered
    rw [Session.transformFile_eq isRead] at answered
    obtain ⟨build, transforms⟩ := Session.transform_of_transformText answered
    exact redirectedTo_of_transform isParsed wellFormed literals transforms
  · intro wellFormed literals clean inMemory imports found spelled
    rw [Session.transformFile_eq isRead]
    exact Session.exists_transformText inMemory
      (exists_transformed isParsed wellFormed literals clean found spelled)
  · intro answer after answered
    unfold Console.transformAnswer
    rw [answered]

theorem prints {octets : List UInt8} (isFile : disk.readOctets path = .ok octets)
    (isRead : disk.readText path = .ok text)
    (isParsed : Source.parse parser (Utf8.encode text) (path.absolute disk.here) none =
      .ok source) : Prints parser disk path text source := by
  have handed : ∀ root, HandsOn parser (Session.start disk root .onDisk []) path text source :=
    fun root => handsOn isRead isParsed
  obtain ⟨names, written, located⟩ := Disk.readOctets_eq_ok_iff.mp isFile
  have isExisting : Console.transformAt parser disk path =
      Console.transformExisting parser disk path := by
    rw [Console.transformAt, located]
  constructor
  · intro unmarked root isRoot
    rw [isExisting, Console.transformExisting, isRoot]
    dsimp only
    rw [(handed root).unmarked unmarked]
    dsimp only
    rw [Session.generated_start]
    rfl
  · intro wellFormed literals outcome after printed succeeded
    rw [isExisting, Console.transformExisting] at printed
    split at printed
    · cases printed
      cases succeeded
    · rename_i root isRoot
      split at printed
      · rename_i failure failed transforms
        obtain ⟨rfl, _⟩ := Prod.mk.inj printed
        split at succeeded
        · rw [Console.exitCode_answer] at succeeded
          cases succeeded
        · cases succeeded
      · rename_i answer final transforms
        refine ⟨answer, (handed root).redirected wellFormed literals answer final transforms, ?_⟩
        split at printed
        · cases printed
          rfl
        · cases printed
          cases succeeded

/-- A file in a known language that holds a text is read, parsed and handed on with its line ends
joined, and is unchanged exactly if it holds no carriage return. -/
theorem passes_through (parser : Parser) {disk : Disk} {path : FilePath} {written : String}
    {language : Language} (isFile : disk.readOctets path = .ok (Utf8.encode written))
    (ofPath : Language.ofPath path = .ok language) :
    (Utf8.encode (Text.joined written) = Utf8.encode written ↔ '\r' ∉ written.toList) ∧
    ('\r' ∉ written.toList → Console.escape ∉ written.toList →
      Console.withoutSequences (Text.joined written) = written) ∧
    ∃ source,
      Source.parse parser (Utf8.encode (Text.joined written)) (path.absolute disk.here) none =
        .ok source ∧
      (∀ session : Session, session.disk = disk →
        HandsOn parser session path (Text.joined written) source) ∧
      Prints parser disk path (Text.joined written) source := by
  have isRead := Disk.readText_of_encoded isFile
  have isParsed : Source.parse parser (Utf8.encode (Text.joined written))
      (path.absolute disk.here) none = .ok _ :=
    Source.parse_eq_ok_iff.mpr ⟨language, FilePath.ofPath_absolute ofPath disk.here, rfl⟩
  refine ⟨?_, ?_, _, isParsed, ?_, prints isFile isRead isParsed⟩
  · rw [← Text.joined_eq_iff]
    exact ⟨Utf8.encode_injective, congrArg Utf8.encode⟩
  · intro noReturn noEscape
    rw [Text.joined_eq_iff.mpr noReturn]
    exact Console.withoutSequences_of_no_escape noEscape
  · rintro session rfl
    exact handsOn isRead isParsed

end Passing

/-- A parser that finds some statements, whatever the text is. -/
def findsAlways (statements : List Node) : Parser :=
  fun _ octets => ⟨"program", 0, octets.length, true, false, none, statements⟩

/-- A disk with one file. -/
def diskWith (text : String) : Disk :=
  ⟨⟨[(["a.tsx"], .file (Utf8.encode text) 1)], 2⟩, []⟩

theorem markedImports_findsNothing {octets : List UInt8}
    (isParsed : Source.parse (findsAlways []) octets path none = .ok source) :
    source.markedImports = .ok [] := by
  obtain ⟨language, _, rfl⟩ := Source.parse_eq_ok_iff.mp isParsed
  rw [Source.markedImports, Node.walk_eq]
  rfl

section Examples

attribute [local instance] StrayOctets.privateUse

/-- A file without marked imports, and one that is redirected. -/
theorem passes_through_plain_and_marked :
    let path : FilePath := ⟨.none, ["a.tsx"]⟩
    let plain := "// é\n"
    let marked := "import A from \x27é\x27 with \x7b use: \x27client\x27 \x7d;\n// é\n"
    let parser := findsAlways [Source.defaultStatement 0 4]
    let first := Session.start (diskWith plain) ⟨.root, []⟩ .inMemory []
    let second := Session.start (diskWith marked) ⟨.root, []⟩ .inMemory []
    first.disk.readOctets path = .ok (Utf8.encode plain) ∧
      second.disk.readOctets path = .ok (Utf8.encode marked) ∧
      Session.transformFile (findsAlways []) path first = .ok plain first ∧
      Console.transformAt (findsAlways []) first.disk path = (.done plain "", first.disk) ∧
      ∃ (source : Source) (answer : String) (after : Session),
        source.octets = Utf8.encode marked ∧
        Session.transformFile parser path second = .ok answer after ∧
        source.RedirectedTo answer := by
  intro path plain marked parser first second
  have isFirst : first.disk.readOctets path = .ok (Utf8.encode plain) :=
    eq_ok_of_toOption (by decide +kernel)
  have isSecond : second.disk.readOctets path = .ok (Utf8.encode marked) :=
    eq_ok_of_toOption (by decide +kernel)
  have ofPath : Language.ofPath path = .ok .tsx := by decide +kernel
  refine ⟨isFirst, isSecond, ?_⟩
  have transformsFirst : Session.transformFile (findsAlways []) path first = .ok plain first ∧
      Console.transformAt (findsAlways []) first.disk path = (.done plain "", first.disk) := by
    obtain ⟨_, printed, source, isParsed, handed, prints⟩ :=
      passes_through (findsAlways []) isFirst ofPath
    have joined : Text.joined plain = plain := Text.joined_eq_iff.mpr (by decide +kernel)
    have unmarked := markedImports_findsNothing isParsed
    have isRoot : Project.findRoot first.disk (some path.parent) = .ok ⟨.root, []⟩ :=
      eq_ok_of_toOption (by decide +kernel)
    have transforms := (handed first rfl).unmarked unmarked
    have output := prints.unmarked unmarked ⟨.root, []⟩ isRoot
    rw [joined] at transforms
    rw [printed (by decide +kernel) (by decide +kernel)] at output
    exact ⟨transforms, output⟩
  refine ⟨transformsFirst.1, transformsFirst.2, ?_⟩
  obtain ⟨_, _, source, isParsed, handed, _⟩ := passes_through parser isSecond ofPath
  have properties : ∀ source, Source.parse parser (Utf8.encode (Text.joined marked))
      (path.absolute second.disk.here) none = .ok source →
        source.octets = Utf8.encode marked ∧ source.WellFormed ∧ source.LiteralsWritten ∧
          source.ensureClean = .ok () ∧ source.markedImports.isOk = true := by
    decide +kernel
  obtain ⟨octets, wellFormed, literals, clean, isOk⟩ := properties source isParsed
  obtain ⟨imports, found⟩ := exists_of_isOk isOk
  obtain ⟨answer, after, answered⟩ :=
    (handed second rfl).answers wellFormed literals clean rfl imports found
      (.inr (by decide +kernel))
  exact ⟨source, answer, after, octets, answered,
    (handed second rfl).redirected wellFormed literals answer after answered⟩

/-- A file with a carriage return, without marked imports, is not handed on as it is. -/
theorem carriage_return_lost :
    let path : FilePath := ⟨.none, ["a.tsx"]⟩
    let session := Session.start (diskWith "// a\r\n") ⟨.root, []⟩ .inMemory []
    session.disk.readOctets path = .ok (Utf8.encode "// a\r\n") ∧
      (∀ source, Source.parse (findsAlways []) (Utf8.encode "// a\r\n") path none = .ok source →
        source.markedImports = .ok []) ∧
      (Session.transformFile (findsAlways []) path).answer session = .ok "// a\n" ∧
      Utf8.encode "// a\n" ≠ Utf8.encode "// a\r\n" := by
  refine ⟨eq_ok_of_toOption (by decide +kernel), ?_, by decide +kernel, by decide +kernel⟩
  exact fun source isParsed => markedImports_findsNothing isParsed

end Examples

end ImportBoundary
