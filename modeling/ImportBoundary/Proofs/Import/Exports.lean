import ImportBoundary.Boundary.Module
import ImportBoundary.Proofs.Import.Placement

/-!
Contract: the names that boundary modules export.

Owns the reading of exported names from the text of a module, the entries that an import hands on,
and the names that a rewritten import asks for.

An entry that renames, `X as Y`, is handed on as it is written. The module then exports `Y`, while
what the rewritten statement asks for is still `X`.

Main statements: `exportedNames_content`, and `links_of_membersFor`, by which all else that is asked
for is exported.
-/

namespace ImportBoundary

open Text (Renders IsWord)

/-- The names that the text of a module exports: the last word of each entry in its braces. -/
def exportedNames (content : String) : List String :=
  let afterBrace := ((Text.tokens content).dropWhile (· ≠ "\x7b")).drop 1
  ((afterBrace.takeWhile (· ≠ "\x7d")).splitOn ",").filterMap List.getLast?

namespace Specifier

/-- The entry of a name that is handed on as it is. -/
def plainEntry (name : String) : Specifier :=
  ⟨name, none, false⟩

theorem getLast?_tokens (specifier : Specifier) :
    specifier.tokens.getLast? = some specifier.localName := by
  unfold tokens localName
  cases nonEmpty specifier.renamed with
  | none => simp
  | some renamed => simp

theorem brace_notMem_tokens {specifier : Specifier} (worded : specifier.Worded) :
    "\x7d" ∉ specifier.tokens := by
  have noBrace : ∀ word, IsWord word → "\x7d" ≠ word := fun word isWord =>
    (isWord.ne_singleton (show Text.isPunctuation '}' = true from rfl)).symm
  have name := noBrace specifier.name worded.name
  unfold tokens
  cases isRenamed : nonEmpty specifier.renamed with
  | none => cases specifier.typeOnly <;> simp [name]
  | some renamed =>
      have newName := noBrace renamed (worded.renamed renamed isRenamed)
      cases specifier.typeOnly <;> simp [name, newName]

end Specifier

namespace ImportParts

/-- The entries that an import hands on, with the given members of its namespace. -/
def handedOn (parts : ImportParts) (members : List String) : List Specifier :=
  ((nonEmpty parts.defaultName).map fun _ => Specifier.plainEntry "default").toList ++
    match nonEmpty parts.namespaceName with
    | some _ => members.map Specifier.plainEntry
    | none => parts.specifiers

/-- The names under which they are handed on: `X` for an entry `X`, and `Y` for `X as Y`. -/
def exported (parts : ImportParts) (members : List String) : List String :=
  (parts.handedOn members).map Specifier.localName

/-- The names that a rewritten import asks for, with the given members of its namespace: a
specifier asks for its first name. -/
def requested (parts : ImportParts) (members : List String) : List String :=
  ((nonEmpty parts.defaultName).map fun _ => "default").toList ++ members ++
    parts.specifiers.map Specifier.name

theorem exportEntries_eq (parts : ImportParts) (members : List String) :
    parts.exportEntries members = (parts.handedOn members).map Specifier.render := by
  have asWritten : ∀ name, (Specifier.plainEntry name).render = name := by
    intro name
    simp [Specifier.plainEntry, Specifier.render, nonEmpty]
  unfold exportEntries handedOn
  cases nonEmpty parts.defaultName with
  | none => cases nonEmpty parts.namespaceName <;> simp [Function.comp_def, asWritten]
  | some name => cases nonEmpty parts.namespaceName <;> simp [Function.comp_def, asWritten]

variable {parts : ImportParts} {members : List String}

/-- What is handed on: `default`, and beside it the members of a namespace or the specifiers. -/
theorem mem_exported_iff {name : String} :
    name ∈ parts.exported members ↔
      (nonEmpty parts.defaultName ≠ none ∧ name = "default") ∨
        match nonEmpty parts.namespaceName with
        | some _ => name ∈ members
        | none => ∃ specifier ∈ parts.specifiers, specifier.localName = name := by
  have plainName : ∀ text, (Specifier.plainEntry text).localName = text := fun text => rfl
  unfold exported handedOn
  rw [List.map_append, List.mem_append]
  apply or_congr
  · cases nonEmpty parts.defaultName with
    | none => simp
    | some text => simp [plainName, eq_comm]
  · cases nonEmpty parts.namespaceName with
    | none => simp
    | some text => simp [plainName]

theorem worded_handedOn (worded : parts.Worded) (areWords : ∀ member ∈ members, IsWord member) :
    ∀ entry ∈ parts.handedOn members, entry.Worded := by
  have plainWorded : ∀ name, IsWord name → (Specifier.plainEntry name).Worded := by
    intro name isWord
    exact ⟨isWord, fun renamed noName => by cases noName⟩
  intro entry isEntry
  unfold handedOn at isEntry
  rcases List.mem_append.mp isEntry with isDefault | isOther
  · obtain ⟨_, _, rfl⟩ := Option.map_eq_some_iff.mp (Option.mem_toList.mp isDefault)
    exact plainWorded "default" (by decide)
  · split at isOther
    · obtain ⟨member, isMember, rfl⟩ := List.mem_map.mp isOther
      exact plainWorded member (areWords member isMember)
    · exact worded.specifiers entry isOther

/-- The names handed on are told by what is written. -/
theorem exported_written (bare : parts.hasClause = false → parts.BindsNothing)
    (members : List String) : parts.written.exported members = parts.exported members := by
  obtain ⟨source, defaultName, namespaceName, specifiers, typeOnly, hasClause⟩ := parts
  have entries : (specifiers.map Specifier.written).map Specifier.localName =
      specifiers.map Specifier.localName := by
    rw [List.map_map]
    exact List.map_congr_left fun specifier _ => Specifier.localName_written specifier
  cases hasClause with
  | false =>
      obtain ⟨noDefault, noNamespace, noSpecifiers⟩ := bare rfl
      dsimp only at noDefault noNamespace noSpecifiers
      simp only [exported, handedOn, written, noDefault, noNamespace, noSpecifiers]
      rfl
  | true =>
      cases isNamespace : nonEmpty namespaceName with
      | none =>
          simp only [exported, handedOn, written, if_pos, nonEmpty_nonEmpty, isNamespace,
            nonEmpty_none, List.map_append, entries, Bool.true_and, Option.isNone_none]
      | some name =>
          have again : nonEmpty (some name) = some name := by
            rw [← isNamespace, nonEmpty_nonEmpty]
          simp only [exported, handedOn, written, if_pos, nonEmpty_nonEmpty, isNamespace, again]

/-! ## Reading a module -/

/-- The tokens of a module up to its closing brace. -/
private theorem tokens_content {boundary : BoundaryModule}
    (worded : ∀ entry ∈ parts.handedOn members, entry.Worded)
    (directive : boundary.directive = clientDirective)
    (statement : boundary.exportStatement = parts.exportStatement members) :
    ∃ rest, Text.tokens boundary.content =
      ("\x27use client\x27;" :: "export" :: if parts.typeOnly then ["type"] else []) ++
        bracedTokens ((parts.handedOn members).map Specifier.tokens) ++ rest := by
  have first : Renders "\x27use client\x27;".toList ["\x27use client\x27;"] :=
    Renders.word (by decide)
  have second : Renders "export".toList ["export"] := Renders.word (by decide)
  have entries := renders_braced worded
  have opening : Renders ("\x27use client\x27;".toList ++ '\n' :: ("export".toList ++ ' ' ::
      ((if parts.typeOnly then "type " else "") ++
        braced ((parts.handedOn members).map Specifier.render)).toList))
      (("\x27use client\x27;" :: "export" :: if parts.typeOnly then ["type"] else []) ++
        bracedTokens ((parts.handedOn members).map Specifier.tokens)) := by
    cases parts.typeOnly with
    | false =>
        have rendered := first.append ((second.spaced entries).blank (show Text.isSpace '\n' = true
          from rfl)) (Text.apart_cons rfl _)
        simpa using rendered
    | true =>
        have keyword : Renders "type".toList ["type"] := Renders.word (by decide)
        have rendered := first.append ((second.spaced (keyword.spaced entries)).blank
          (show Text.isSpace '\n' = true from rfl)) (Text.apart_cons rfl _)
        simpa using rendered
  have whole := opening (' ' :: ("from " ++ parts.source ++ ";").toList) (Text.apart_cons rfl _)
  refine ⟨_, Eq.trans ?_ whole⟩
  rw [Text.tokens, BoundaryModule.content, directive, statement, exportStatement, exportEntries_eq]
  simp [Text.quoted, clientDirective, Text.singleQuote, ImportParts.kind]

private theorem notMem_intercalate {token separator : String} {entries : List (List String)}
    (notWithin : ∀ entry ∈ entries, token ∉ entry) (different : token ≠ separator) :
    token ∉ [separator].intercalate entries := by
  induction entries with
  | nil => exact List.not_mem_nil
  | cons entry rest inductionHypothesis =>
      have first := notWithin entry List.mem_cons_self
      have remaining := inductionHypothesis fun other member =>
        notWithin other (List.mem_cons_of_mem entry member)
      cases rest with
      | nil =>
          rw [List.intercalate_singleton]
          exact first
      | cons second others =>
          rw [List.intercalate_cons_cons]
          simp only [List.mem_append, List.mem_singleton, first, different, remaining, or_self,
            not_false_eq_true]

/-- The names that a module exports are the names that the entries handed on bind. -/
theorem exportedNames_content {boundary : BoundaryModule}
    (worded : ∀ entry ∈ parts.handedOn members, entry.Worded)
    (directive : boundary.directive = clientDirective)
    (statement : boundary.exportStatement = parts.exportStatement members) :
    exportedNames boundary.content = parts.exported members := by
  obtain ⟨rest, tokens⟩ := tokens_content worded directive statement
  have opening : ∀ token ∈ "\x27use client\x27;" :: "export" ::
      (if parts.typeOnly then ["type"] else []), decide (token ≠ "\x7b") = true := by
    cases parts.typeOnly with
    | false => decide
    | true => decide
  have inner : ∀ token ∈ [","].intercalate ((parts.handedOn members).map Specifier.tokens),
      decide (token ≠ "\x7d") = true := by
    intro token member
    apply decide_eq_true
    rintro rfl
    refine notMem_intercalate ?_ (by decide) member
    intro entryTokens isEntry
    obtain ⟨entry, isHandedOn, rfl⟩ := List.mem_map.mp isEntry
    exact Specifier.brace_notMem_tokens (worded entry isHandedOn)
  -- No name is a brace, so the first pair of braces encloses the entries and nothing else.
  have listed : (((Text.tokens boundary.content).dropWhile (· ≠ "\x7b")).drop 1).takeWhile
      (· ≠ "\x7d") = [","].intercalate ((parts.handedOn members).map Specifier.tokens) := by
    rw [tokens, List.append_assoc, List.dropWhile_append_of_pos opening, bracedTokens]
    rw [List.cons_append, List.cons_append, List.dropWhile_cons_of_neg (by decide), List.drop_one,
      List.tail_cons, List.append_assoc, List.takeWhile_append_of_pos inner, List.cons_append,
      List.takeWhile_cons_of_neg (by decide), List.append_nil]
  unfold exportedNames ImportParts.exported
  dsimp only
  rw [listed]
  by_cases noEntries : parts.handedOn members = []
  · rw [noEntries, List.map_nil, List.map_nil, List.intercalate_nil, List.splitOn_nil]
    rfl
  · have entries := tokens_whole worded
    have last : List.getLast? ∘ Specifier.tokens = some ∘ Specifier.localName :=
      funext Specifier.getLast?_tokens
    rw [List.splitOn_intercalate "," (fun entry member => (entries entry member).1)
      (by simpa using noEntries), List.filterMap_map, last, List.filterMap_eq_map]

end ImportParts

/-! ## What an import asks for -/

/-- The members of the namespace of an import that a source accesses; none without a namespace. -/
def Source.membersFor (source : Source) (parts : ImportParts) : Except Failure (List String) :=
  match nonEmpty parts.namespaceName with
  | some name => source.membersOf name
  | none => .ok []

/-- The entries that an import hands on bind every name that it asks for, but for the first names of
specifiers that rename and of those that stand beside a namespace. -/
theorem ImportParts.exists_of_requested {parts : ImportParts} {members : List String} {name : String}
    (isRequested : name ∈ parts.requested members)
    (ofNamespace : nonEmpty parts.namespaceName = none → members = []) :
    name ∈ parts.exported members ∨
      ∃ specifier ∈ parts.specifiers, specifier.name = name ∧
        (specifier.localName ≠ name ∨ nonEmpty parts.namespaceName ≠ none) := by
  rw [mem_exported_iff]
  unfold requested at isRequested
  rcases List.mem_append.mp isRequested with early | ofSpecifier
  · left
    rcases List.mem_append.mp early with isDefault | isMember
    · left
      obtain ⟨text, hasDefault, rfl⟩ := Option.map_eq_some_iff.mp (Option.mem_toList.mp isDefault)
      exact ⟨by rw [hasDefault]; exact Option.some_ne_none text, rfl⟩
    · right
      cases hasNamespace : nonEmpty parts.namespaceName with
      | none =>
          rw [ofNamespace hasNamespace] at isMember
          cases isMember
      | some text => exact isMember
  · obtain ⟨specifier, isSpecifier, rfl⟩ := List.mem_map.mp ofSpecifier
    by_cases hasNamespace : nonEmpty parts.namespaceName = none
    · by_cases keepsName : specifier.localName = specifier.name
      · rw [hasNamespace]
        exact .inl (.inr ⟨specifier, isSpecifier, keepsName⟩)
      · exact .inr ⟨specifier, isSpecifier, rfl, .inl keepsName⟩
    · exact .inr ⟨specifier, isSpecifier, rfl, .inr hasNamespace⟩

theorem boundaryOf_eq_ok_iff {source : Source} {root : FilePath} {parts : ImportParts}
    {boundary : BoundaryModule} :
    source.boundaryOf root parts = .ok boundary ↔
      ∃ members, source.membersFor parts = .ok members ∧
        boundary = ⟨parts.boundaryId, boundaryPath root parts.boundaryId,
          parts.exportStatement members, clientDirective⟩ := by
  have collects : source.exportStatement parts =
      source.membersFor parts >>= fun members => .ok (parts.exportStatement members) := by
    unfold Source.exportStatement Source.membersFor
    cases nonEmpty parts.namespaceName <;> rfl
  rw [Source.boundaryOf, collects]
  constructor
  · intro built
    obtain ⟨statement, made, result⟩ := bind_eq_ok_iff.mp built
    obtain ⟨members, collected, rendered⟩ := bind_eq_ok_iff.mp made
    cases rendered
    cases result
    exact ⟨members, collected, rfl⟩
  · rintro ⟨members, collected, rfl⟩
    rw [collected]
    rfl

/-- What a module says about the names of the import that needs it. -/
structure Links (parts : ImportParts) (members : List String) (boundary : BoundaryModule) :
    Prop where
  /-- The module hands on what is imported, in order. -/
  entries : boundary.exportStatement = "export " ++ parts.kind ++
    braced ((parts.handedOn members).map Specifier.render) ++ " from " ++ parts.source ++ ";"
  exported : (∀ entry ∈ parts.handedOn members, entry.Worded) →
    exportedNames boundary.content = parts.exported members
  linked : ∀ name ∈ parts.requested members,
    name ∈ parts.exported members ∨
      ∃ specifier ∈ parts.specifiers, specifier.name = name ∧
        (specifier.localName ≠ name ∨ nonEmpty parts.namespaceName ≠ none)
  renamed : nonEmpty parts.namespaceName = none → ∀ specifier ∈ parts.specifiers,
    specifier.localName ∈ parts.exported members

/-- The module of an import is made whenever the members of its namespace can be read. It exports
every name that the rewritten statement asks for, but a specifier that renames under its new name
only; beside a namespace no specifier is handed on. -/
theorem links_of_membersFor {source : Source} {parts : ImportParts} {members : List String}
    (collected : source.membersFor parts = .ok members) (root : FilePath) :
    ∃ boundary, source.boundaryOf root parts = .ok boundary ∧ Links parts members boundary := by
  refine ⟨_, boundaryOf_eq_ok_iff.mpr ⟨members, collected, rfl⟩, ?_⟩
  constructor
  · exact congrArg (fun entries => "export " ++ parts.kind ++ braced entries ++ " from " ++
      parts.source ++ ";") (parts.exportEntries_eq members)
  · intro worded
    exact ImportParts.exportedNames_content worded rfl rfl
  · intro name isRequested
    apply ImportParts.exists_of_requested isRequested
    intro noNamespace
    rw [Source.membersFor, noNamespace] at collected
    cases collected
    rfl
  · intro noNamespace specifier isSpecifier
    rw [ImportParts.mem_exported_iff, noNamespace]
    exact .inr ⟨specifier, isSpecifier, rfl⟩

/-- The tree of `import * as ui from './ui'`, marked, and of an access to a member of `ui` with a name
of one letter on the next line. -/
def namespaceTree : Node :=
  let name (start : Nat) (field : Option String) : Node :=
    ⟨"identifier", start, start + 2, true, false, field, []⟩
  let access : Node := ⟨"member_expression", 51, 55, true, false, none,
    [name 51 (some "object"), ⟨".", 53, 54, false, false, none, []⟩,
      ⟨"property_identifier", 54, 55, true, false, some "property", []⟩]⟩
  let clause : Node := ⟨"import_clause", 7, 14, true, false, none,
    [⟨"namespace_import", 7, 14, true, false, none, [name 12 none]⟩]⟩
  ⟨"program", 0, 56, true, false, none,
    [Source.markedStatement clause 20 26, ⟨"expression_statement", 51, 56, true, false, none, [access]⟩]⟩

/-- A source that accesses the member `A` of a marked namespace. -/
def namespaceText (member : String) : String :=
  "import * as ui from \x27./ui\x27 with \x7b use: \x27client\x27 \x7d;\nui." ++ member ++ ";"

theorem links_of_namespace :
    let source : Source := ⟨⟨.root, ["a.tsx"]⟩, Utf8.encode (namespaceText "A"), .tsx, namespaceTree⟩
    let parts : ImportParts := ⟨"\x27./ui\x27", none, some "ui", [], false, true⟩
    source.membersFor parts = .ok ["A"] ∧
      ∃ boundary, source.boundaryOf ⟨.root, []⟩ parts = .ok boundary ∧
        Links parts ["A"] boundary ∧ exportedNames boundary.content = ["A"] := by
  intro source parts
  have collected : source.membersFor parts = .ok ["A"] :=
    eq_ok_of_toOption (by decide +kernel)
  obtain ⟨boundary, built, links⟩ := links_of_membersFor collected ⟨.root, []⟩
  refine ⟨collected, boundary, built, links, ?_⟩
  apply links.exported
  apply ImportParts.worded_handedOn
  · exact ImportParts.Plain.worded (by decide)
  · decide

/-- A source that imports `X` under the name `Y`. -/
def renamingSource : Source :=
  let name (start : Nat) (field : String) : Node :=
    ⟨"identifier", start, start + 1, true, false, some field, []⟩
  let entry : Node := ⟨"import_specifier", 9, 15, true, false, none, [name 9 "name",
    ⟨"as", 11, 13, false, false, none, []⟩, name 14 "alias"]⟩
  let clause : Node := ⟨"import_clause", 7, 17, true, false, none,
    [⟨"named_imports", 7, 17, true, false, none, [entry]⟩]⟩
  ⟨⟨.root, ["a.tsx"]⟩,
    Utf8.encode "import \x7b X as Y \x7d from \x27./m\x27 with \x7b use: \x27client\x27 \x7d;", .tsx,
    ⟨"program", 0, 52, true, false, none, [Source.markedStatement clause 23 28]⟩⟩

/-- A source that imports `X` beside a namespace. -/
def besideNamespaceSource : Source :=
  let entry : Node := ⟨"import_specifier", 17, 18, true, false, none,
    [⟨"identifier", 17, 18, true, false, some "name", []⟩]⟩
  let clause : Node := ⟨"import_clause", 7, 20, true, false, none,
    [⟨"namespace_import", 7, 13, true, false, none,
      [⟨"identifier", 12, 13, true, false, none, []⟩]⟩,
      ⟨"named_imports", 15, 20, true, false, none, [entry]⟩]⟩
  ⟨⟨.root, ["a.tsx"]⟩,
    Utf8.encode
      "import * as u, \x7b X \x7d from \x27./m\x27 with \x7b use: \x27client\x27 \x7d;", .tsx,
    ⟨"program", 0, 55, true, false, none, [Source.markedStatement clause 26 31]⟩⟩

/-- A marked import of the source asks for a name that its module does not export. -/
def Source.Unlinked (source : Source) (name : String) : Prop :=
  ∃ imports marked members boundary, source.markedImports = .ok imports ∧ marked ∈ imports ∧
    source.membersFor marked.parts = .ok members ∧
    source.boundaryOf ⟨.root, []⟩ marked.parts = .ok boundary ∧
    name ∈ marked.parts.requested members ∧ name ∉ exportedNames boundary.content

private theorem unlinked_of_read {source : Source} {parts : ImportParts} {members : List String}
    {name : String}
    (read : (source.markedImports.map fun imports => imports.map MarkedImport.parts).toOption =
      some [parts])
    (collected : source.membersFor parts = .ok members)
    (worded : ∀ entry ∈ parts.handedOn members, entry.Worded)
    (isRequested : name ∈ parts.requested members) (notExported : name ∉ parts.exported members) :
    source.Unlinked name := by
  cases found : source.markedImports with
  | error failure =>
      rw [found] at read
      cases read
  | ok imports =>
      rw [found] at read
      have allParts : imports.map MarkedImport.parts = [parts] := Option.some.inj read
      obtain ⟨marked, rfl, rfl⟩ := List.map_eq_singleton_iff.mp allParts
      refine ⟨[marked], marked, members, _, found, List.mem_singleton_self marked, collected,
        boundaryOf_eq_ok_iff.mpr ⟨members, collected, rfl⟩, isRequested, ?_⟩
      rw [ImportParts.exportedNames_content worded rfl rfl]
      exact notExported

/-- A module does not export all that its import asks for: an import of `X` under another name asks
for `X`, and so does an import of `X` beside a namespace, but neither module exports it. -/
theorem renamed_not_exported :
    renamingSource.Unlinked "X" ∧ besideNamespaceSource.Unlinked "X" := by
  constructor
  · have collected : renamingSource.membersFor
        ⟨"\x27./m\x27", none, none, [⟨"X", some "Y", false⟩], false, true⟩ = .ok [] := rfl
    refine unlinked_of_read (by decide +kernel) collected ?_ (by decide) (by decide)
    exact ImportParts.worded_handedOn (ImportParts.Plain.worded (by decide)) (by simp)
  · have collected : besideNamespaceSource.membersFor
        ⟨"\x27./m\x27", none, some "u", [⟨"X", none, false⟩], false, true⟩ = .ok [] :=
      eq_ok_of_toOption (by decide +kernel)
    refine unlinked_of_read (by decide +kernel) collected ?_ (by decide) (by decide)
    exact ImportParts.worded_handedOn (ImportParts.Plain.worded (by decide)) (by simp)

end ImportBoundary
