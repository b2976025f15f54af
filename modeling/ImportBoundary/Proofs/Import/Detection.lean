import ImportBoundary.Proofs.Import.Legible
import ImportBoundary.Proofs.Import.Placement
import ImportBoundary.Proofs.Syntax.Places
import Mathlib.Data.List.Induction

/-!
Contract: which import statements of a source are marked, and what they bind.

Owns when an entry of an attribute clause is the mark and when a statement is marked, both told by the
nodes and their texts alone, and what the children of an import clause bind.

Main statements: `isMarked_eq_ok_true_iff`, `markedImport?_of_marked` and `markedImport?_of_unmarked`, by
which the reading of a statement finds an import exactly if the statement is marked, and
`binds_of_markedImport?`.
-/

namespace ImportBoundary

namespace Node

/-- The entries of the first object in the first attribute clause of an import statement. -/
def attributes (statement : Node) : List Node :=
  match (statement.firstOfKind? "import_attribute").bind (·.firstOfKind? "object") with
  | none => []
  | some object => object.namedChildren

/-- The parts of the first import clause of an import statement. -/
def bindings (statement : Node) : List Node :=
  ((statement.firstOfKind? "import_clause").map namedChildren).getD []

theorem mem_walk_of_mem_attributes {statement entry : Node}
    (member : entry ∈ statement.attributes) : entry ∈ statement.walk := by
  unfold attributes at member
  split at member
  · cases member
  · rename_i object isObject
    obtain ⟨clause, isClause, ofClause⟩ := Option.bind_eq_some_iff.mp isObject
    have clauseWithin :=
      mem_walk_of_mem_children (mem_walk_self statement) (mem_children_of_firstOfKind? isClause)
    have objectWithin :=
      mem_walk_of_mem_children clauseWithin (mem_children_of_firstOfKind? ofClause)
    exact mem_walk_of_mem_children objectWithin (mem_children_of_namedChildren member)

end Node

namespace Source

variable {source : Source} {node entry statement : Node} {content : String}

/-! ## Literals -/

/-- A string literal with this content: the node is a string, and its text the content between two
quotes. -/
structure IsLiteral (source : Source) (node : Node) (content : String) : Prop where
  isString : node.kind = "string"
  quoted : ∃ opening closing,
    source.text node = .ok (String.ofList (opening :: content.toList ++ [closing]))

private theorem eq_quoted_of_length {characters : List Char} (long : 2 ≤ characters.length) :
    ∃ opening closing, characters = opening :: (characters.drop 1).dropLast ++ [closing] := by
  match characters with
  | opening :: second :: rest =>
      refine ⟨opening, (second :: rest).getLast (List.cons_ne_nil _ _), ?_⟩
      rw [List.drop_one, List.tail_cons, List.cons_append, List.dropLast_append_getLast]

/-- A string is read as a text of two characters or more exactly if this is its content. -/
theorem unquoted_eq_ok_iff (isString : node.kind = "string") (long : 2 ≤ content.length) :
    source.unquoted node = .ok content ↔ source.IsLiteral node content := by
  have isQuoted : quotedKinds.contains node.kind = true := by
    rw [isString]
    decide
  unfold unquoted
  rw [bind_eq_ok_iff]
  simp only [isQuoted, Bool.true_and]
  constructor
  · rintro ⟨text, read, isContent⟩
    by_cases quoted : 2 ≤ text.length
    · rw [if_pos (decide_eq_true quoted)] at isContent
      cases isContent
      obtain ⟨opening, closing, isText⟩ := eq_quoted_of_length quoted
      refine ⟨isString, opening, closing, ?_⟩
      rw [read, String.toList_ofList, ← isText, String.ofList_toList]
    · rw [if_neg (by simpa using quoted)] at isContent
      cases isContent
      exact absurd long quoted
  · rintro ⟨_, opening, closing, read⟩
    refine ⟨_, read, ?_⟩
    rw [if_pos (by simp; omega), String.toList_ofList, List.cons_append, List.drop_one, List.tail_cons,
      List.dropLast_concat, String.ofList_toList]

/-! ## Marks -/

/-- What a key spells: its content if it is a string, or else its text. -/
inductive Spells (source : Source) (node : Node) (content : String) : Prop where
  | literal (isLiteral : source.IsLiteral node content)
  | bare (isBare : node.kind ≠ "string") (read : source.text node = .ok content)

/-- An entry of an attribute clause is the mark. -/
structure Marks (source : Source) (entry : Node) : Prop where
  isPair : entry.kind = "pair"
  key : ∃ key, entry.child? "key" = some key ∧ source.Spells key markKey
  value : ∃ value, entry.child? "value" = some value ∧ source.IsLiteral value markValue

/-- A key is read as a text of two characters or more exactly if this is what it spells. -/
theorem readKey_eq_ok_iff {key : Node} (long : 2 ≤ content.length) :
    (if key.kind == "string" then source.unquoted key else source.text key) = .ok content ↔
      source.Spells key content := by
  by_cases isString : key.kind = "string"
  · rw [if_pos (beq_iff_eq.mpr isString), unquoted_eq_ok_iff isString long]
    refine ⟨.literal, fun spelled => ?_⟩
    cases spelled with
    | literal isLiteral => exact isLiteral
    | bare isBare _ => exact absurd isString isBare
  · rw [if_neg (by simpa using isString)]
    refine ⟨.bare isString, fun spelled => ?_⟩
    cases spelled with
    | literal isLiteral => exact absurd isLiteral.isString isString
    | bare _ read => exact read

/-- Of a key and a string beside it, both texts are read and compared. -/
theorem isMark_of_pair {key value : Node} (isPair : entry.kind = "pair")
    (isKey : entry.child? "key" = some key) (isValue : entry.child? "value" = some value)
    (isString : value.kind = "string") :
    source.isMark entry = .ok true ↔
      (if key.kind == "string" then source.unquoted key else source.text key) = .ok markKey ∧
        source.unquoted value = .ok markValue := by
  have compared : ∀ answer : Except Failure String, (answer >>= fun keyText => if keyText = markKey then
      source.unquoted value >>= fun valueText => .ok (decide (valueText = markValue))
      else .ok false) = .ok true ↔ answer = .ok markKey ∧ source.unquoted value = .ok markValue := by
    intro answer
    rw [bind_eq_ok_iff]
    constructor
    · rintro ⟨keyText, read, remaining⟩
      by_cases isMarkKey : keyText = markKey
      · rw [if_pos isMarkKey] at remaining
        obtain ⟨valueText, readValue, result⟩ := bind_eq_ok_iff.mp remaining
        have same : valueText = markValue := by simpa using result
        exact ⟨isMarkKey ▸ read, same ▸ readValue⟩
      · rw [if_neg isMarkKey] at remaining
        cases remaining
    · rintro ⟨read, readValue⟩
      exact ⟨markKey, read, by rw [if_pos rfl, readValue]; rfl⟩
  rw [isMark, if_neg (by simp [isPair]), isKey, isValue]
  dsimp only
  rw [if_neg (by simp [isString])]
  split
  · exact compared _
  · exact compared _

/-- Only a key and a string beside it are compared. -/
theorem exists_pair_of_isMark (marks : source.isMark entry = .ok true) :
    entry.kind = "pair" ∧ ∃ key value, entry.child? "key" = some key ∧
      entry.child? "value" = some value ∧ value.kind = "string" := by
  unfold isMark at marks
  split at marks
  · cases marks
  · rename_i isPair
    split at marks
    · rename_i key value isKey isValue
      split at marks
      · cases marks
      · rename_i isString
        exact ⟨by simpa using isPair, key, value, isKey, isValue, by simpa using isString⟩
    · cases marks

theorem isMark_eq_ok_true_iff : source.isMark entry = .ok true ↔ source.Marks entry := by
  constructor
  · intro marks
    obtain ⟨isPair, key, value, isKey, isValue, isString⟩ := exists_pair_of_isMark marks
    obtain ⟨readKey, readValue⟩ := (isMark_of_pair isPair isKey isValue isString).mp marks
    exact ⟨isPair, ⟨key, isKey, (readKey_eq_ok_iff (by decide)).mp readKey⟩,
      ⟨value, isValue, (unquoted_eq_ok_iff isString (by decide)).mp readValue⟩⟩
  · rintro ⟨isPair, ⟨key, isKey, spelled⟩, ⟨value, isValue, isLiteral⟩⟩
    have isString := isLiteral.isString
    exact (isMark_of_pair isPair isKey isValue isString).mpr
      ⟨(readKey_eq_ok_iff (by decide)).mpr spelled,
        (unquoted_eq_ok_iff isString (by decide)).mpr isLiteral⟩

/-- With texts for all nodes, some entry is found to be the mark exactly if one is. -/
theorem Legible.anyMark_eq_ok_true_iff (legible : source.Legible) {entries : List Node}
    (inTree : ∀ entry ∈ entries, entry ∈ source.root.walk) :
    source.anyMark entries = .ok true ↔ ∃ entry ∈ entries, source.Marks entry := by
  induction entries with
  | nil => simp [anyMark]
  | cons entry rest inductionHypothesis =>
      obtain ⟨marks, answered⟩ := legible.exists_isMark (inTree entry List.mem_cons_self)
      have remaining := inductionHypothesis fun other member =>
        inTree other (List.mem_cons_of_mem entry member)
      rw [anyMark, answered, ok_bind, List.exists_mem_cons_iff, ← isMark_eq_ok_true_iff, answered]
      cases marks with
      | true => simp
      | false => simpa using remaining

/-- An import statement is marked: it has a source, and an entry of its attributes is the mark. -/
structure Marked (source : Source) (statement : Node) : Prop where
  isStatement : statement.kind = "import_statement"
  hasSource : ∃ literal, statement.child? "source" = some literal
  mark : ∃ entry ∈ statement.attributes, source.Marks entry

theorem isMarked_eq (source : Source) (statement : Node) :
    source.isMarked statement = source.anyMark statement.attributes := by
  unfold isMarked Node.attributes
  generalize (statement.firstOfKind? "import_attribute").bind _ = object
  cases object <;> rfl

theorem Legible.isMarked_eq_ok_true_iff (legible : source.Legible)
    (inTree : statement ∈ source.root.walk) :
    source.isMarked statement = .ok true ↔ ∃ entry ∈ statement.attributes, source.Marks entry := by
  rw [isMarked_eq]
  exact legible.anyMark_eq_ok_true_iff fun entry member =>
    Node.mem_walk_trans inTree (Node.mem_walk_of_mem_attributes member)

theorem exists_attributeClause (mark : ∃ entry ∈ statement.attributes, source.Marks entry) :
    ∃ attributeClause, statement.firstOfKind? "import_attribute" = some attributeClause := by
  obtain ⟨entry, member, _⟩ := mark
  unfold Node.attributes at member
  cases isAttribute : statement.firstOfKind? "import_attribute" with
  | some attributeClause => exact ⟨attributeClause, rfl⟩
  | none =>
      rw [isAttribute] at member
      cases member

/-- A statement is read as a marked import exactly if it is marked. -/
theorem Legible.markedImport?_iff (legible : source.Legible)
    (inTree : statement ∈ source.root.walk) :
    (∃ marked, source.markedImport? statement = .ok (some marked)) ↔ source.Marked statement := by
  constructor
  · rintro ⟨marked, read⟩
    have reads := reads_of_markedImport? read
    exact ⟨reads.isStatement, ⟨_, reads.sourceNode_eq⟩,
      (legible.isMarked_eq_ok_true_iff inTree).mp reads.isMarked⟩
  · rintro ⟨isStatement, ⟨literal, isSource⟩, mark⟩
    obtain ⟨found, answered⟩ := legible.exists_markedImport? inTree
    have isMarked := (legible.isMarked_eq_ok_true_iff inTree).mpr mark
    cases found with
    | some marked => exact ⟨marked, answered⟩
    | none =>
        exfalso
        obtain ⟨attributeClause, isAttribute⟩ := exists_attributeClause mark
        rw [markedImport?, if_neg (by simp [isStatement]), isMarked, ok_bind, if_pos rfl, isSource,
          isAttribute] at answered
        obtain ⟨bound, _, remaining⟩ := bind_eq_ok_iff.mp answered
        obtain ⟨text, _, result⟩ := bind_eq_ok_iff.mp remaining
        cases result

/-! ## Bindings -/

/-- A specifier is what an entry of a braced import list writes. -/
structure Specifies (source : Source) (entry : Node) (specifier : Specifier) : Prop where
  name : source.text ((entry.child? "name").getD entry) = .ok specifier.name
  renamed : Option.Rel (fun node text => source.text node = .ok text) (entry.child? "alias")
    specifier.renamed
  typeOnly : specifier.typeOnly = entry.hasToken "type"

/-- The bindings of an import are those that the parts of its clause write: the last default name, the
last namespace, and the entries of the braced lists in order. -/
structure Binds (source : Source) (clause : List Node) (parts : ImportParts) : Prop where
  defaultName : Option.Rel (fun node text => source.text node = .ok text)
    (clause.filter fun part => part.kind == "identifier").getLast? parts.defaultName
  namespaceName : Option.Rel (fun node text => source.text node = .ok text)
    ((clause.filter fun part => part.kind == "namespace_import").filterMap
      (·.firstOfKind? "identifier")).getLast? parts.namespaceName
  specifiers : List.Forall₂ source.Specifies
    (((clause.filter fun part => part.kind == "named_imports").flatMap Node.namedChildren).filter
      fun entry => entry.kind == "import_specifier") parts.specifiers

theorem specifies_of_specifierOf {specifier : Specifier}
    (read : source.specifierOf entry = .ok specifier) : source.Specifies entry specifier := by
  obtain ⟨name, readName, remaining⟩ := bind_eq_ok_iff.mp read
  obtain ⟨renamed, readAlias, result⟩ := bind_eq_ok_iff.mp remaining
  cases result
  refine ⟨readName, ?_, rfl⟩
  cases isAlias : entry.child? "alias" with
  | none =>
      rw [isAlias] at readAlias
      cases readAlias
      exact .none
  | some node =>
      rw [isAlias] at readAlias
      obtain ⟨text, readText, rfl⟩ := map_eq_ok_iff.mp readAlias
      exact .some readText

/-- One more part of a clause adds what it writes. -/
theorem Binds.concat {clause : List Node} {part : Node} {parts bound : ImportParts}
    (binds : source.Binds clause parts) (added : source.addBinding parts part = .ok bound) :
    source.Binds (clause ++ [part]) bound := by
  obtain ⟨defaultName, namespaceName, specifiers⟩ := binds
  unfold addBinding at added
  split at added
  · rename_i isIdentifier
    obtain ⟨name, read, result⟩ := bind_eq_ok_iff.mp added
    cases result
    rw [beq_iff_eq] at isIdentifier
    constructor
    · simpa [List.filter_append, isIdentifier] using read
    · simpa [List.filter_append, isIdentifier] using namespaceName
    · simpa [List.filter_append, isIdentifier] using specifiers
  · rename_i noIdentifier
    split at added
    · rename_i isNamespace
      rw [beq_iff_eq] at isNamespace
      split at added
      · rename_i unnamed
        cases added
        exact ⟨by simpa [List.filter_append, isNamespace] using defaultName,
          by simpa [List.filter_append, isNamespace, unnamed] using namespaceName,
          by simpa [List.filter_append, isNamespace] using specifiers⟩
      · rename_i identifier isNamed
        obtain ⟨name, read, result⟩ := bind_eq_ok_iff.mp added
        cases result
        exact ⟨by simpa [List.filter_append, isNamespace] using defaultName,
          by simpa [List.filter_append, isNamespace, isNamed] using read,
          by simpa [List.filter_append, isNamespace] using specifiers⟩
    · rename_i noNamespace
      split at added
      · rename_i isBraced
        rw [beq_iff_eq] at isBraced
        obtain ⟨entries, read, result⟩ := bind_eq_ok_iff.mp added
        cases result
        have areSpecified := (forall₂_of_mapM read).imp fun _ _ => specifies_of_specifierOf
        exact ⟨by simpa [List.filter_append, isBraced] using defaultName,
          by simpa [List.filter_append, isBraced] using namespaceName,
          by simpa [List.filter_append, isBraced] using List.rel_append specifiers areSpecified⟩
      · rename_i notBraced
        cases added
        exact ⟨by simpa [List.filter_append, noIdentifier] using defaultName,
          by simpa [List.filter_append, noNamespace] using namespaceName,
          by simpa [List.filter_append, notBraced] using specifiers⟩

theorem binds_of_foldlM {clause : List Node} {bare bound : ImportParts}
    (isBare : bare.defaultName = none ∧ bare.namespaceName = none ∧ bare.specifiers = [])
    (added : clause.foldlM source.addBinding bare = .ok bound) : source.Binds clause bound := by
  induction clause using List.reverseRecOn generalizing bound with
  | nil =>
      cases added
      exact ⟨isBare.1 ▸ .none, isBare.2.1 ▸ .none, isBare.2.2 ▸ .nil⟩
  | append_singleton clause part inductionHypothesis =>
      rw [List.foldlM_append] at added
      obtain ⟨parts, first, remaining⟩ := bind_eq_ok_iff.mp added
      rw [List.foldlM_cons] at remaining
      obtain ⟨_, last, result⟩ := bind_eq_ok_iff.mp remaining
      cases result
      exact (inductionHypothesis first).concat last

theorem binds_of_markedImport? {marked : MarkedImport}
    (found : source.markedImport? statement = .ok (some marked)) :
    source.Binds statement.bindings marked.parts := by
  have reads := reads_of_markedImport? found
  rw [markedImport?, if_neg (by simp [reads.isStatement]), reads.isMarked, ok_bind, if_pos rfl,
    reads.sourceNode_eq, reads.attributeNode_eq] at found
  obtain ⟨bound, added, remaining⟩ := bind_eq_ok_iff.mp found
  obtain ⟨text, _, result⟩ := bind_eq_ok_iff.mp remaining
  obtain ⟨defaultName, namespaceName, specifiers⟩ := binds_of_foldlM ⟨rfl, rfl, rfl⟩ added
  rw [← Option.some.inj (Except.ok.inj result)]
  exact ⟨defaultName, namespaceName, specifiers⟩

/-! ## Detection -/

/-- The imports are the marked statements of a source, each once and in document order, with what their
clauses bind. -/
structure Detects (source : Source) (imports : List MarkedImport) : Prop where
  inOrder : (imports.map MarkedImport.node).Sublist source.root.walk
  once : (imports.map MarkedImport.node).Nodup
  detected_iff : ∀ statement, statement ∈ imports.map MarkedImport.node ↔
    statement ∈ source.root.walk ∧ source.Marked statement
  binds : ∀ marked ∈ imports, source.Binds marked.node.bindings marked.parts

/-- A marked statement has octets: those of the value of its mark. -/
theorem Marked.start_lt_stop (marked : source.Marked statement) (wellFormed : statement.WellFormed) :
    statement.start < statement.stop := by
  obtain ⟨entry, isEntry, _, _, value, isValue, _, opening, closing, read⟩ := marked.mark
  have written : String.ofList (opening :: markValue.toList ++ [closing]) ≠ "" := by
    intro empty
    simpa using congrArg String.toList empty
  have valueNonempty := start_lt_stop_of_text read written
  have enclosed := wellFormed.enclosed (Node.mem_walk_of_mem_children
    (Node.mem_walk_of_mem_attributes isEntry) (Node.mem_children_of_child? isValue))
  omega

theorem Legible.detects (legible : source.Legible) (wellFormed : source.root.WellFormed)
    {imports : List MarkedImport} (found : source.markedImports = .ok imports) :
    source.Detects imports := by
  have detected_iff : ∀ statement, statement ∈ imports.map MarkedImport.node ↔
      statement ∈ source.root.walk ∧ source.Marked statement := by
    intro statement
    rw [List.mem_map]
    constructor
    · rintro ⟨marked, isImport, rfl⟩
      obtain ⟨node, inTree, read⟩ := (mem_gather_iff found).mp isImport
      rw [(reads_of_markedImport? read).node_eq]
      exact ⟨inTree, (legible.markedImport?_iff inTree).mp ⟨marked, read⟩⟩
    · rintro ⟨inTree, isMarked⟩
      obtain ⟨marked, read⟩ := (legible.markedImport?_iff inTree).mpr isMarked
      exact ⟨marked, (mem_gather_iff found).mpr ⟨statement, inTree, read⟩,
        (reads_of_markedImport? read).node_eq⟩
  have inOrder : (imports.map MarkedImport.node).Sublist source.root.walk := by
    obtain ⟨kept, isSublist, areRead⟩ := exists_kept_of_gather found
    have areNodes : List.Forall₂ (fun statement marked => statement = MarkedImport.node marked)
        kept imports :=
      areRead.imp fun _ _ read => (reads_of_markedImport? read).node_eq.symm
    rw [← List.forall₂_map_right_iff, List.forall₂_eq_eq_eq] at areNodes
    exact areNodes ▸ isSublist
  refine ⟨inOrder, ?_, detected_iff, ?_⟩
  · refine (wellFormed.pairwise_ne.sublist inOrder).imp_of_mem ?_
    intro left right isLeft _ differ
    obtain ⟨inTree, isMarked⟩ := (detected_iff left).mp isLeft
    exact differ (isMarked.start_lt_stop fun inner within =>
      wellFormed inner (Node.mem_walk_trans inTree within))
  · intro marked isImport
    obtain ⟨statement, _, read⟩ := (mem_gather_iff found).mp isImport
    rw [(reads_of_markedImport? read).node_eq]
    exact binds_of_markedImport? read

end Source

end ImportBoundary
