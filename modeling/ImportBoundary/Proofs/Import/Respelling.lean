import ImportBoundary.Proofs.Import.Detection
import ImportBoundary.Proofs.Syntax.Comments

/-!
Contract: import statements that are spelled differently and say the same.

Owns when two statements differ in the order and quotes of their attribute entries, in entries that are
no mark, and in comments among the parts of their clauses, and that such statements are marked alike and
bind alike.

Main statement: `markedImports_detected`. The marked imports of a source are exactly the marked
statements, with what their clauses bind, and those of a source with respelled statements are the
respelled ones, with the same bindings.
-/

namespace ImportBoundary

namespace ImportParts

/-- Two imports bind the same names to the same things. -/
structure SameBindings (parts others : ImportParts) : Prop where
  defaultName : parts.defaultName = others.defaultName
  namespaceName : parts.namespaceName = others.namespaceName
  specifiers : parts.specifiers = others.specifiers

end ImportParts

namespace Source

variable {left right : Source} {entry other statement otherStatement : Node}

/-! ## Attribute entries -/

/-- Two entries of attribute clauses say the same, with their keys and values quoted in any way. -/
structure SameEntry (left right : Source) (entry other : Node) : Prop where
  kind : entry.kind = other.kind
  key : Option.Rel (fun node other => ∃ content, left.Spells node content ∧ right.Spells other content)
    (entry.child? "key") (other.child? "key")
  value : Option.Rel (fun node other =>
      (∃ content, left.IsLiteral node content ∧ right.IsLiteral other content) ∨
        node.kind ≠ "string" ∧ other.kind ≠ "string")
    (entry.child? "value") (other.child? "value")

/-- Entries that say the same one by one, in any order, with others among them that are no mark. -/
def SameAttributes (left right : Source) (entries others : List Node) : Prop :=
  ∃ kept alsoKept dropped added,
    entries.Perm (kept ++ dropped) ∧ others.Perm (alsoKept ++ added) ∧
      List.Forall₂ (left.SameEntry right) kept alsoKept ∧
        (∀ entry ∈ dropped, ¬left.Marks entry) ∧ ∀ entry ∈ added, ¬right.Marks entry

theorem IsLiteral.unique {source : Source} {node : Node} {content another : String}
    (isLiteral : source.IsLiteral node content) (again : source.IsLiteral node another) :
    content = another := by
  obtain ⟨_, opening, closing, read⟩ := isLiteral
  obtain ⟨_, first, last, readAgain⟩ := again
  have same := congrArg String.toList (Except.ok.inj (read.symm.trans readAgain))
  rw [String.toList_ofList, String.toList_ofList, List.cons_append, List.cons_append] at same
  exact String.toList_inj.mp (List.append_inj_left' (List.cons.inj same).2 rfl)

theorem Spells.unique {source : Source} {node : Node} {content another : String}
    (spelled : source.Spells node content) (again : source.Spells node another) :
    content = another := by
  cases spelled with
  | literal isLiteral =>
      cases again with
      | literal alsoLiteral => exact isLiteral.unique alsoLiteral
      | bare isBare _ => exact absurd isLiteral.isString isBare
  | bare isBare read =>
      cases again with
      | literal alsoLiteral => exact absurd alsoLiteral.isString isBare
      | bare _ readAgain => exact Except.ok.inj (read.symm.trans readAgain)

private theorem rel_symm {α β : Type} {related : α → β → Prop} {reversed : β → α → Prop}
    {item : Option α} {other : Option β} (isRelated : Option.Rel related item other)
    (reverse : ∀ item other, related item other → reversed other item) :
    Option.Rel reversed other item := by
  cases isRelated with
  | none => exact .none
  | some both => exact .some (reverse _ _ both)

theorem SameEntry.symm (same : left.SameEntry right entry other) :
    right.SameEntry left other entry := by
  obtain ⟨kind, key, value⟩ := same
  exact ⟨kind.symm, rel_symm key fun _ _ => Exists.imp fun _ => And.symm,
    rel_symm value fun _ _ => Or.imp (Exists.imp fun _ => And.symm) And.symm⟩

theorem SameEntry.marks (same : left.SameEntry right entry other) (marks : left.Marks entry) :
    right.Marks other := by
  obtain ⟨kind, key, value⟩ := same
  obtain ⟨isPair, ⟨keyNode, isKey, spelled⟩, ⟨valueNode, isValue, isLiteral⟩⟩ := marks
  rw [isKey] at key
  rw [isValue] at value
  refine ⟨kind ▸ isPair, ?_, ?_⟩
  · generalize other.child? "key" = otherKey at key ⊢
    cases key with
    | some alike =>
        obtain ⟨content, first, second⟩ := alike
        exact ⟨_, rfl, spelled.unique first ▸ second⟩
  · generalize other.child? "value" = otherValue at value ⊢
    cases value with
    | some alike =>
        rcases alike with ⟨content, first, second⟩ | ⟨isOther, _⟩
        · exact ⟨_, rfl, isLiteral.unique first ▸ second⟩
        · exact absurd isLiteral.isString isOther

theorem SameAttributes.symm {entries others : List Node}
    (same : left.SameAttributes right entries others) : right.SameAttributes left others entries := by
  obtain ⟨kept, alsoKept, dropped, added, isEntries, isOthers, areSame, droppedUnmarked, addedUnmarked⟩ :=
    same
  exact ⟨alsoKept, kept, added, dropped, isOthers, isEntries,
    (areSame.imp fun _ _ => SameEntry.symm).flip, addedUnmarked, droppedUnmarked⟩

theorem SameAttributes.exists_mark {entries others : List Node}
    (same : left.SameAttributes right entries others) (mark : ∃ entry ∈ entries, left.Marks entry) :
    ∃ other ∈ others, right.Marks other := by
  obtain ⟨kept, alsoKept, dropped, added, isEntries, isOthers, areSame, droppedUnmarked, _⟩ := same
  obtain ⟨entry, member, marks⟩ := mark
  rcases List.mem_append.mp (isEntries.mem_iff.mp member) with isKept | isDropped
  · obtain ⟨other, alsoMember, sameEntry⟩ := exists_mem_of_forall₂ areSame.flip isKept
    exact ⟨other, isOthers.mem_iff.mpr (List.mem_append_left added alsoMember), sameEntry.marks marks⟩
  · exact absurd marks (droppedUnmarked entry isDropped)

/-! ## Clauses -/

/-- Two nodes have the same text. -/
def SameText (left right : Source) (node other : Node) : Prop :=
  ∃ text, left.text node = .ok text ∧ right.text other = .ok text

/-- Two entries of braced import lists say the same. -/
structure SameSpecifier (left right : Source) (entry other : Node) : Prop where
  name : left.SameText right ((entry.child? "name").getD entry) ((other.child? "name").getD other)
  renamed : Option.Rel (left.SameText right) (entry.child? "alias") (other.child? "alias")
  typeOnly : entry.hasToken "type" = other.hasToken "type"

/-- Two parts of import clauses say the same: the default name, the namespace, or the entries of the
braced list one by one, whatever stands among them. -/
structure SamePart (left right : Source) (part other : Node) : Prop where
  kind : part.kind = other.kind
  word : part.kind = "identifier" → left.SameText right part other
  named : Option.Rel (left.SameText right) (part.firstOfKind? "identifier")
    (other.firstOfKind? "identifier")
  entries : List.Forall₂ (left.SameSpecifier right)
    (part.namedChildren.filter fun entry => entry.kind == "import_specifier")
    (other.namedChildren.filter fun entry => entry.kind == "import_specifier")

/-- Two import statements say the same, spelled differently: both have a source or none, their
attributes say the same in any order, with others among them that are no mark, and so do the parts of
their clauses that are no comments, one by one. -/
structure Respelled (left right : Source) (statement other : Node) : Prop where
  kind : statement.kind = other.kind
  hasSource : (statement.child? "source").isSome = (other.child? "source").isSome
  attributes : left.SameAttributes right statement.attributes other.attributes
  clause : List.Forall₂ (left.SamePart right)
    (statement.bindings.filter fun part => part.kind != "comment")
    (other.bindings.filter fun part => part.kind != "comment")

theorem Respelled.marked_iff (respelled : left.Respelled right statement otherStatement) :
    left.Marked statement ↔ right.Marked otherStatement := by
  obtain ⟨kind, hasSource, attributes, _⟩ := respelled
  have isSource : (∃ literal, statement.child? "source" = some literal) ↔
      ∃ literal, otherStatement.child? "source" = some literal := by
    rw [← Option.isSome_iff_exists, ← Option.isSome_iff_exists, hasSource]
  constructor
  · rintro ⟨isStatement, isWritten, mark⟩
    exact ⟨kind ▸ isStatement, isSource.mp isWritten, attributes.exists_mark mark⟩
  · rintro ⟨isStatement, isWritten, mark⟩
    exact ⟨kind ▸ isStatement, isSource.mpr isWritten, attributes.symm.exists_mark mark⟩

/-- Texts that are read of nodes with the same text are the same. -/
theorem eq_of_sameText {node other : Option Node} {name otherName : Option String}
    (same : Option.Rel (left.SameText right) node other)
    (read : Option.Rel (fun node text => left.text node = .ok text) node name)
    (alsoRead : Option.Rel (fun node text => right.text node = .ok text) other otherName) :
    name = otherName := by
  cases same with
  | none =>
      cases read
      cases alsoRead
      rfl
  | some sameText =>
      cases read with
      | some text =>
          cases alsoRead with
          | some otherText =>
              obtain ⟨common, first, second⟩ := sameText
              rw [Except.ok.inj (text.symm.trans first), Except.ok.inj (otherText.symm.trans second)]

theorem SameSpecifier.eq {specifier otherSpecifier : Specifier}
    (same : left.SameSpecifier right entry other) (specifies : left.Specifies entry specifier)
    (alsoSpecifies : right.Specifies other otherSpecifier) : specifier = otherSpecifier := by
  obtain ⟨common, first, second⟩ := same.name
  have renamed := eq_of_sameText same.renamed specifies.renamed alsoSpecifies.renamed
  obtain ⟨name, _, typeOnly⟩ := specifies
  obtain ⟨otherName, _, otherTypeOnly⟩ := alsoSpecifies
  cases specifier
  cases otherSpecifier
  dsimp only at *
  rw [Except.ok.inj (name.symm.trans first), Except.ok.inj (otherName.symm.trans second), renamed,
    typeOnly, otherTypeOnly, same.typeOnly]

/-- Entries that say the same one by one specify the same list. -/
theorem eq_of_sameSpecifiers {entries others : List Node} {specifiers otherSpecifiers : List Specifier}
    (same : List.Forall₂ (left.SameSpecifier right) entries others)
    (specify : List.Forall₂ left.Specifies entries specifiers)
    (alsoSpecify : List.Forall₂ right.Specifies others otherSpecifiers) :
    specifiers = otherSpecifiers := by
  induction same generalizing specifiers otherSpecifiers with
  | nil =>
      cases specify
      cases alsoSpecify
      rfl
  | cons sameFirst _ inductionHypothesis =>
      cases specify with
      | cons first rest =>
          cases alsoSpecify with
          | cons otherFirst otherRest =>
              rw [sameFirst.eq first otherFirst, inductionHypothesis rest otherRest]

/-- The parts of one kind say the same one by one, with comments or without them. -/
theorem sameParts_of_kind {clause others : List Node} {kind : String} (noComment : kind ≠ "comment")
    (same : List.Forall₂ (left.SamePart right) (clause.filter fun part => part.kind != "comment")
      (others.filter fun part => part.kind != "comment")) :
    List.Forall₂ (fun part other => part.kind = kind ∧ left.SamePart right part other)
      (clause.filter fun part => part.kind == kind) (others.filter fun part => part.kind == kind) := by
  have ofKind : ∀ parts : List Node,
      (parts.filter fun part => part.kind != "comment").filter (fun part => part.kind == kind) =
        parts.filter fun part => part.kind == kind := by
    intro parts
    rw [List.filter_filter]
    apply List.filter_congr
    intro part _
    by_cases isKind : part.kind = kind
    · simp [isKind, noComment]
    · simp [isKind]
  rw [List.forall₂_and_left]
  refine ⟨fun part member => beq_iff_eq.mp (List.mem_filter.mp member).2, ?_⟩
  rw [← ofKind clause, ← ofKind others]
  apply List.rel_filter _ same
  intro part other alike
  show (part.kind == kind) = true ↔ (other.kind == kind) = true
  rw [alike.kind]

theorem Binds.sameBindings {clause others : List Node} {parts otherParts : ImportParts}
    (same : List.Forall₂ (left.SamePart right) (clause.filter fun part => part.kind != "comment")
      (others.filter fun part => part.kind != "comment"))
    (binds : left.Binds clause parts) (alsoBinds : right.Binds others otherParts) :
    parts.SameBindings otherParts := by
  have words := sameParts_of_kind (by decide : "identifier" ≠ "comment") same
  have namespaces := sameParts_of_kind (by decide : "namespace_import" ≠ "comment") same
  have lists := sameParts_of_kind (by decide : "named_imports" ≠ "comment") same
  constructor
  · refine eq_of_sameText (rel_getLast? (words.imp ?_)) binds.defaultName alsoBinds.defaultName
    exact fun part other ⟨isWord, alike⟩ => alike.word isWord
  · refine eq_of_sameText (rel_getLast? ?_) binds.namespaceName alsoBinds.namespaceName
    exact List.rel_filterMap (fun part other ⟨_, alike⟩ => alike.named) namespaces
  · refine eq_of_sameSpecifiers ?_ binds.specifiers alsoBinds.specifiers
    rw [List.filter_flatMap, List.filter_flatMap]
    exact List.rel_flatMap lists fun part other ⟨_, alike⟩ => alike.entries

/-! ## Respelled sources -/

/-- The import statements of a source in document order. -/
def statements (source : Source) : List Node :=
  source.root.walk.filter fun node => node.kind == "import_statement"

theorem markedImports_eq_gather_statements (source : Source) :
    source.markedImports = gather source.markedImport? source.statements := by
  unfold markedImports statements
  rw [gather_filter]
  intro node _ otherKind
  unfold markedImport?
  rw [if_pos (by simpa using otherKind)]

/-- Respelled sources have the same imports: the statements are detected alike, and the detected ones
bind alike. -/
theorem Legible.sameImports (legible : left.Legible) (alsoLegible : right.Legible)
    (respelled : List.Forall₂ (left.Respelled right) left.statements right.statements)
    {imports others : List MarkedImport} (found : left.markedImports = .ok imports)
    (alsoFound : right.markedImports = .ok others) :
    List.Forall₂ (fun marked other => left.Respelled right marked.node other.node ∧
      marked.parts.SameBindings other.parts) imports others := by
  rw [markedImports_eq_gather_statements] at found alsoFound
  refine forall₂_of_gather respelled ?_ found alsoFound
  intro statement isStatement other isOther same first otherFirst read alsoRead
  have marked := legible.markedImport?_iff (List.mem_filter.mp isStatement).1
  have alsoMarked := alsoLegible.markedImport?_iff (List.mem_filter.mp isOther).1
  rw [← same.marked_iff, ← marked, read, alsoRead] at alsoMarked
  cases first with
  | none =>
      cases otherFirst with
      | none => exact .none
      | some otherImport =>
          obtain ⟨_, impossible⟩ := alsoMarked.mp ⟨otherImport, rfl⟩
          cases impossible
  | some leftImport =>
      cases otherFirst with
      | none =>
          obtain ⟨_, impossible⟩ := alsoMarked.mpr ⟨leftImport, rfl⟩
          cases impossible
      | some otherImport =>
          have node_eq := (reads_of_markedImport? read).node_eq
          have otherNode_eq := (reads_of_markedImport? alsoRead).node_eq
          refine .some ⟨node_eq ▸ otherNode_eq ▸ same, ?_⟩
          exact (binds_of_markedImport? read).sameBindings same.clause (binds_of_markedImport? alsoRead)

/-- **Exactly the marked imports are found, however they are spelled.** The marked imports of a source
are its marked statements, each once and in document order, with what their clauses bind in order. In
another source whose statements are respelled one by one, a statement is found exactly if it is found in
this one, and binds the same. -/
theorem markedImports_detected {source : Source} (wellFormed : source.root.WellFormed)
    (legible : source.Legible) :
    ∃ imports, source.markedImports = .ok imports ∧ source.Detects imports ∧
      ∀ other : Source, other.root.WellFormed → other.Legible →
        List.Forall₂ (source.Respelled other) source.statements other.statements →
          ∃ others, other.markedImports = .ok others ∧ other.Detects others ∧
            List.Forall₂ (fun statement otherStatement =>
              statement ∈ imports.map MarkedImport.node ↔
                otherStatement ∈ others.map MarkedImport.node)
              source.statements other.statements ∧
            List.Forall₂ (fun marked otherMarked =>
              source.Respelled other marked.node otherMarked.node ∧
                marked.parts.SameBindings otherMarked.parts) imports others := by
  obtain ⟨imports, found⟩ := legible.exists_markedImports
  have detects := legible.detects wellFormed found
  refine ⟨imports, found, detects, fun other alsoWellFormed alsoLegible respelled => ?_⟩
  obtain ⟨others, alsoFound⟩ := alsoLegible.exists_markedImports
  have alsoDetects := alsoLegible.detects alsoWellFormed alsoFound
  refine ⟨others, alsoFound, alsoDetects, ?_, legible.sameImports alsoLegible respelled found alsoFound⟩
  rw [List.forall₂_iff_zip] at respelled ⊢
  refine ⟨respelled.1, fun {statement otherStatement} together => ?_⟩
  obtain ⟨isStatement, isOther⟩ := List.of_mem_zip together
  rw [detects.detected_iff, alsoDetects.detected_iff, (respelled.2 together).marked_iff]
  exact and_congr_left fun _ =>
    iff_of_true (List.mem_filter.mp isStatement).1 (List.mem_filter.mp isOther).1

/-- A marked import of one name as it stands in `plainlySpelled`. -/
def plainStatement : Node :=
  let name : Node := ⟨"identifier", 9, 10, true, false, some "name", []⟩
  let list : Node := ⟨"named_imports", 7, 12, true, false, none,
    [⟨"import_specifier", 9, 10, true, false, none, [name]⟩]⟩
  markedStatement ⟨"import_clause", 7, 12, true, false, none, [list]⟩ 18 21

def plainlySpelled : Source :=
  ⟨⟨.root, ["a.tsx"]⟩, Utf8.encode "import \x7b A \x7d from 'a' with \x7b use: 'client' \x7d;", .tsx,
    ⟨"program", 0, 45, true, false, none, [plainStatement]⟩⟩

/-- The same import as it stands in `otherwiseSpelled`, with another attribute before the mark, the mark
in double quotes, and comments. -/
def respelledStatement : Node :=
  let leaf (kind : String) (start stop : Nat) (field : Option String) : Node :=
    ⟨kind, start, stop, true, false, field, []⟩
  let list : Node := ⟨"named_imports", 7, 17, true, false, none,
    [⟨"import_specifier", 9, 10, true, false, none, [leaf "identifier" 9 10 (some "name")]⟩,
      leaf "comment" 11 15 none]⟩
  let object : Node := ⟨"object", 32, 64, true, false, none,
    [⟨"pair", 34, 40, true, false, none,
        [leaf "property_identifier" 34 35 (some "key"), leaf "string" 37 40 (some "value")]⟩,
      leaf "comment" 42 46 none,
      ⟨"pair", 47, 62, true, false, none,
        [leaf "string" 47 52 (some "key"), leaf "string" 54 62 (some "value")]⟩]⟩
  ⟨"import_statement", 0, 65, true, false, none,
    [⟨"import_clause", 7, 17, true, false, none, [list]⟩, leaf "string" 23 26 (some "source"),
      ⟨"import_attribute", 27, 64, true, false, none, [object]⟩]⟩

def otherwiseSpelled : Source :=
  ⟨⟨.root, ["a.tsx"]⟩,
    Utf8.encode "import \x7b A /**/ \x7d from 'a' with \x7b k: 'v', /**/ \"use\": \"client\" \x7d;",
    .tsx, ⟨"program", 0, 65, true, false, none, [respelledStatement]⟩⟩

theorem respelled_statement :
    plainlySpelled.Respelled otherwiseSpelled plainStatement respelledStatement where
  kind := rfl
  hasSource := rfl
  attributes := by
    refine ⟨plainStatement.attributes, respelledStatement.attributes.drop 2, [],
      respelledStatement.attributes.take 2, ?_, ?_, ?_, ?_, ?_⟩
    · rw [List.append_nil]
    · conv_lhs => rw [← List.take_append_drop 2 respelledStatement.attributes]
      exact List.perm_append_comm
    · refine .cons ⟨rfl, .some ⟨markKey, .bare (by decide) (by decide +kernel), .literal ?_⟩,
        .some (.inl ⟨markValue, ?_, ?_⟩)⟩ .nil
      · exact ⟨rfl, '"', '"', by decide +kernel⟩
      · exact ⟨rfl, '\'', '\'', by decide +kernel⟩
      · exact ⟨rfl, '"', '"', by decide +kernel⟩
    · exact fun _ member => absurd member List.not_mem_nil
    · intro entry member marks
      have unmarked : ∀ entry ∈ respelledStatement.attributes.take 2,
          otherwiseSpelled.isMark entry = .ok false := by
        decide +kernel
      rw [← isMark_eq_ok_true_iff, unmarked entry member] at marks
      cases marks
  clause := by
    refine .cons ⟨rfl, fun isWord => absurd isWord (by decide), .none, ?_⟩ .nil
    exact .cons ⟨⟨"A", by decide +kernel, by decide +kernel⟩, .none, rfl⟩ .nil

theorem markedImports_detected_of_respelled :
    ∃ imports others, plainlySpelled.markedImports = .ok imports ∧
      otherwiseSpelled.markedImports = .ok others ∧ imports.length = 1 ∧
        List.Forall₂ (fun marked otherMarked =>
          plainlySpelled.Respelled otherwiseSpelled marked.node otherMarked.node ∧
            marked.parts.SameBindings otherMarked.parts) imports others := by
  obtain ⟨imports, found, _, respelling⟩ :=
    @markedImports_detected plainlySpelled (by decide +kernel) (by decide +kernel)
  have alone : ∀ imports, plainlySpelled.markedImports = .ok imports → imports.length = 1 := by
    decide +kernel
  have isAlone : plainlySpelled.statements = [plainStatement] := by
    rw [statements, Node.walk_eq_preorder]
    rfl
  have otherAlone : otherwiseSpelled.statements = [respelledStatement] := by
    rw [statements, Node.walk_eq_preorder]
    rfl
  have respelled : List.Forall₂ (plainlySpelled.Respelled otherwiseSpelled) plainlySpelled.statements
      otherwiseSpelled.statements := by
    rw [isAlone, otherAlone]
    exact .cons respelled_statement .nil
  obtain ⟨others, alsoFound, _, _, same⟩ :=
    respelling otherwiseSpelled (by decide +kernel) (by decide +kernel) respelled
  exact ⟨imports, others, found, alsoFound, alone imports found, same⟩

end Source

end ImportBoundary
