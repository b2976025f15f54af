import ImportBoundary.Proofs.Import.Members
import ImportBoundary.Proofs.Syntax.Walk

/-!
Contract: which names a boundary module exports more than once.

Owns the names that an import binds, the order in which the members of its namespace are listed, and
the repetitions among the names that are handed on. Default binding, namespace and specifiers name
different things, so that distinct bindings are handed on under distinct names, with one exception: a
default binding is handed on as `default`, and a member `default` of the namespace beside it is too.

Main statements: `listsMembers`, by which members are listed once and by their first access, and
`exports_distinct`.
-/

namespace ImportBoundary

namespace Source

/-! ## First occurrences -/

theorem nodup_firstOccurrences (names : List String) : (firstOccurrences names).Nodup := by
  induction names with
  | nil => exact List.nodup_nil
  | cons name rest inductionHypothesis =>
      rw [firstOccurrences, List.nodup_cons]
      refine ⟨?_, inductionHypothesis.filter _⟩
      intro isLater
      simpa using (List.mem_filter.mp isLater).2

/-- A name occurs in a list before another one does. -/
def OccursBefore (names : List String) (name other : String) : Prop :=
  ∃ before after, names = before ++ name :: after ∧ other ∉ before

theorem pairwise_firstOccurrences (names : List String) :
    (firstOccurrences names).Pairwise (OccursBefore names) := by
  induction names with
  | nil => exact List.Pairwise.nil
  | cons head rest inductionHypothesis =>
      rw [firstOccurrences, List.pairwise_cons]
      constructor
      · intro other _
        exact ⟨[], rest, rfl, List.not_mem_nil⟩
      · refine (inductionHypothesis.filter _).imp_of_mem ?_
        rintro name other _ isLater ⟨before, after, rfl, notBefore⟩
        have different : other ≠ head := by simpa using (List.mem_filter.mp isLater).2
        exact ⟨head :: before, after, rfl, by simp [different, notBefore]⟩

/-! ## Members -/

/-- The walk comes to an access of a member before it comes to any access of another member. -/
def ReachedBefore (source : Source) (namespaceName member other : String) : Prop :=
  ∃ earlier node later, source.root.walk = earlier ++ node :: later ∧
    source.memberParts node = .ok (some (namespaceName, member)) ∧
    ∀ previous ∈ earlier, source.memberParts previous ≠ .ok (some (namespaceName, other))

/-- In a well-formed tree, what is reached before begins no later. -/
theorem ReachedBefore.exists_start_le {source : Source} {namespaceName member other : String}
    (reached : source.ReachedBefore namespaceName member other) (wellFormed : source.root.WellFormed)
    {access : Node} (inTree : access ∈ source.root.walk)
    (accesses : source.memberParts access = .ok (some (namespaceName, other))) :
    ∃ node ∈ source.root.walk, source.memberParts node = .ok (some (namespaceName, member)) ∧
      node.start ≤ access.start := by
  obtain ⟨earlier, node, later, walked, ofMember, notBefore⟩ := reached
  have ascending := wellFormed.pairwise_start
  rw [walked] at inTree ascending ⊢
  refine ⟨node, List.mem_append_right _ List.mem_cons_self, ofMember, ?_⟩
  rcases List.mem_append.mp inTree with isEarlier | isLater
  · exact absurd accesses (notBefore access isEarlier)
  · rcases List.mem_cons.mp isLater with rfl | behind
    · exact Nat.le_refl _
    · have fromNode := (List.pairwise_append.mp ascending).2.1
      exact (List.pairwise_cons.mp fromNode).1 access behind

/-- What is listed for a namespace: the members that the source accesses, each once, in the order of
their first access, which is also the order of their first offsets. -/
structure ListsMembers (source : Source) (namespaceName : String) (members : List String) :
    Prop where
  accessed : ∀ member, member ∈ members ↔ ∃ node ∈ source.root.walk,
    source.memberParts node = .ok (some (namespaceName, member))
  distinct : members.Nodup
  ordered : members.Pairwise (source.ReachedBefore namespaceName)
  ascending : source.root.WellFormed → members.Pairwise fun member other =>
    ∀ access ∈ source.root.walk, source.memberParts access = .ok (some (namespaceName, other)) →
      ∃ node ∈ source.root.walk, source.memberParts node = .ok (some (namespaceName, member)) ∧
        node.start ≤ access.start

theorem listsMembers {source : Source} {namespaceName : String} {members : List String}
    (collected : source.membersOf namespaceName = .ok members) :
    source.ListsMembers namespaceName members := by
  obtain ⟨found, gathered, rfl⟩ := map_eq_ok_iff.mp collected
  have ordered : (firstOccurrences found).Pairwise (source.ReachedBefore namespaceName) := by
    refine (pairwise_firstOccurrences found).imp ?_
    rintro member other ⟨before, after, rfl, notBefore⟩
    obtain ⟨earlier, node, later, walked, ofMember, gatheredBefore⟩ :=
      exists_split_of_gather gathered
    refine ⟨earlier, node, later, walked, accessOf_eq_ok_some_iff.mp ofMember, ?_⟩
    intro previous isEarlier accesses
    apply notBefore
    exact (mem_gather_iff gatheredBefore).mpr
      ⟨previous, isEarlier, accessOf_eq_ok_some_iff.mpr accesses⟩
  exact {
    accessed := fun member => mem_membersOf_iff collected
    distinct := nodup_firstOccurrences found
    ordered := ordered
    ascending := fun wellFormed => by
      refine ordered.imp ?_
      intro member other reached access inTree accesses
      exact reached.exists_start_le wellFormed inTree accesses }

end Source

/-! ## Exported names -/

namespace ImportParts

/-- The names that an import binds in its file: its specifiers, its default and its namespace. -/
def boundNames (parts : ImportParts) : List String :=
  parts.localNames ++ (nonEmpty parts.namespaceName).toList

/-- The names that are handed on beside the default binding. -/
def otherExports (parts : ImportParts) (members : List String) : List String :=
  match nonEmpty parts.namespaceName with
  | some _ => members
  | none => parts.specifiers.map Specifier.localName

theorem exported_eq (parts : ImportParts) (members : List String) :
    parts.exported members =
      ((nonEmpty parts.defaultName).map fun _ => "default").toList ++ parts.otherExports members := by
  have ofDefault : ((nonEmpty parts.defaultName).map fun _ => Specifier.plainEntry "default").toList.map
      Specifier.localName = ((nonEmpty parts.defaultName).map fun _ => "default").toList := by
    cases nonEmpty parts.defaultName <;> rfl
  have ofMembers : (members.map Specifier.plainEntry).map Specifier.localName = members := by
    rw [List.map_map]
    exact List.map_id members
  unfold exported handedOn otherExports
  rw [List.map_append, ofDefault]
  cases nonEmpty parts.namespaceName with
  | none => rfl
  | some name => rw [ofMembers]

section Repetitions

variable {parts : ImportParts} {members : List String}
  (distinct : parts.boundNames.Nodup) (unreserved : "default" ∉ parts.boundNames)
  (ofNamespace : nonEmpty parts.namespaceName = none → members = []) (once : members.Nodup)

include distinct once in
theorem nodup_otherExports : (parts.otherExports members).Nodup := by
  unfold otherExports
  cases nonEmpty parts.namespaceName with
  | some name => exact once
  | none => exact (List.nodup_append.mp (List.nodup_append.mp distinct).1).1

include unreserved ofNamespace in
theorem default_mem_otherExports_iff :
    "default" ∈ parts.otherExports members ↔ "default" ∈ members := by
  unfold otherExports
  cases hasNamespace : nonEmpty parts.namespaceName with
  | some name => exact Iff.rfl
  | none =>
      have notSpecified : "default" ∉ parts.specifiers.map Specifier.localName := fun isSpecified =>
        unreserved (List.mem_append_left _ (List.mem_append_left _ isSpecified))
      rw [ofNamespace hasNamespace]
      exact iff_of_false notSpecified List.not_mem_nil

include distinct unreserved ofNamespace once in
/-- Distinct bindings are handed on under distinct names, unless a default binding and a member
`default` are handed on together. -/
theorem nodup_exported_iff :
    (parts.exported members).Nodup ↔ nonEmpty parts.defaultName = none ∨ "default" ∉ members := by
  have others := nodup_otherExports distinct once
  rw [exported_eq, ← default_mem_otherExports_iff unreserved ofNamespace]
  cases nonEmpty parts.defaultName with
  | none => exact iff_of_true others (.inl rfl)
  | some name =>
      rw [Option.map_some, Option.toList_some, List.singleton_append, List.nodup_cons]
      constructor
      · rintro ⟨notOther, _⟩
        exact .inr notOther
      · rintro (noDefault | notOther)
        · cases noDefault
        · exact ⟨notOther, others⟩

include distinct once in
/-- No name but `default` is handed on twice. -/
theorem count_exported_le {name : String} (other : name ≠ "default") :
    (parts.exported members).count name ≤ 1 := by
  have notDefault :
      (((nonEmpty parts.defaultName).map fun _ => "default").toList).count name = 0 := by
    apply List.count_eq_zero_of_not_mem
    intro isDefault
    obtain ⟨_, _, same⟩ := Option.map_eq_some_iff.mp (Option.mem_toList.mp isDefault)
    exact other same.symm
  rw [exported_eq, List.count_append, notDefault, Nat.zero_add]
  exact List.nodup_iff_count.mp (nodup_otherExports distinct once) name

end Repetitions

end ImportParts

/-- What the module of an import says about repetitions: its statement hands on the default binding
and beside it the listed members or the specifiers, no name twice, but `default` where a default
binding stands beside a namespace of which a member `default` is accessed. -/
structure ExportsOnce (source : Source) (parts : ImportParts) (members : List String)
    (boundary : BoundaryModule) : Prop where
  statement : boundary.exportStatement = parts.exportStatement members
  exported : (∀ entry ∈ parts.handedOn members, entry.Worded) →
    exportedNames boundary.content = parts.exported members
  listed : ∀ name ∈ nonEmpty parts.namespaceName, source.ListsMembers name members
  nodup_iff : (parts.exported members).Nodup ↔
    nonEmpty parts.defaultName = none ∨ "default" ∉ members
  count_le : ∀ name ≠ "default", (parts.exported members).count name ≤ 1

/-- The members for an import are those listed for its namespace. Without one there are none. -/
theorem listsMembers_of_membersFor {source : Source} {parts : ImportParts} {members : List String}
    (collected : source.membersFor parts = .ok members) :
    (∀ name ∈ nonEmpty parts.namespaceName, source.ListsMembers name members) ∧
      (nonEmpty parts.namespaceName = none → members = []) := by
  unfold Source.membersFor at collected
  cases hasNamespace : nonEmpty parts.namespaceName with
  | none =>
      rw [hasNamespace] at collected
      cases collected
      refine ⟨?_, fun _ => rfl⟩
      intro name isNamespace
      cases isNamespace
  | some given =>
      rw [hasNamespace] at collected
      constructor
      · intro name isNamespace
        cases isNamespace
        exact Source.listsMembers collected
      · intro noNamespace
        cases noNamespace

/-- **Distinct bindings are exported under distinct names.** The only exception is `default`, which is
exported twice exactly if a default binding stands beside a namespace of which a member `default` is
accessed. The members of a namespace are listed once each, in the order of their first access. -/
theorem exports_distinct {source : Source} {parts : ImportParts} (distinct : parts.boundNames.Nodup)
    (unreserved : "default" ∉ parts.boundNames) (root : FilePath) :
    (source.Legible → ∃ boundary, source.boundaryOf root parts = .ok boundary) ∧
      ∀ boundary, source.boundaryOf root parts = .ok boundary →
        ∃ members, source.membersFor parts = .ok members ∧
          ExportsOnce source parts members boundary := by
  constructor
  · intro legible
    obtain ⟨members, collected⟩ := legible.exists_membersFor parts
    exact ⟨_, boundaryOf_eq_ok_iff.mpr ⟨members, collected, rfl⟩⟩
  · intro boundary built
    obtain ⟨members, collected, rfl⟩ := boundaryOf_eq_ok_iff.mp built
    obtain ⟨listed, ofNamespace⟩ := listsMembers_of_membersFor collected
    have once : members.Nodup := by
      cases hasNamespace : nonEmpty parts.namespaceName with
      | none =>
          rw [ofNamespace hasNamespace]
          exact List.nodup_nil
      | some name => exact (listed name hasNamespace).distinct
    exact ⟨members, collected, rfl, fun worded => ImportParts.exportedNames_content worded rfl rfl,
      listed, ImportParts.nodup_exported_iff distinct unreserved ofNamespace once,
      fun _ other => ImportParts.count_exported_le distinct once other⟩

/-! ## A default binding beside a namespace -/

/-- The tree of accesses to members of `ui`, each a statement on a line of its own. -/
def accessStatements (start : Nat) : List String → List Node
  | [] => []
  | member :: rest =>
    let stop := start + 3 + member.length
    let access : Node := ⟨"member_expression", start, stop, true, false, none,
      [⟨"identifier", start, start + 2, true, false, some "object", []⟩,
        ⟨".", start + 2, start + 3, false, false, none, []⟩,
        ⟨"property_identifier", start + 3, stop, true, false, some "property", []⟩]⟩
    ⟨"expression_statement", start, stop + 1, true, false, none,
      [access, ⟨";", stop, stop + 1, false, false, none, []⟩]⟩ :: accessStatements (stop + 2) rest

/-- A source that imports a default and a namespace by one marked import, and accesses members of the
namespace. -/
def defaultBesideNamespace (members : List String) : Source :=
  let clause : Node := ⟨"import_clause", 7, 17, true, false, none,
    [⟨"identifier", 7, 8, true, false, none, []⟩, ⟨",", 8, 9, false, false, none, []⟩,
      ⟨"namespace_import", 10, 17, true, false, none,
        [⟨"*", 10, 11, false, false, none, []⟩, ⟨"as", 12, 14, false, false, none, []⟩,
          ⟨"identifier", 15, 17, true, false, none, []⟩]⟩]⟩
  let text := "import D, * as ui from \x27./d\x27 with \x7b use: \x27client\x27 \x7d;" ++
    String.join (members.map fun member => "\nui." ++ member ++ ";")
  ⟨⟨.root, ["a.tsx"]⟩, Utf8.encode text, .tsx,
    ⟨"program", 0, text.length, true, false, none,
      Source.markedStatement clause 23 28 :: accessStatements 53 members⟩⟩

/-- The parts of that import. -/
def defaultBesideNamespaceParts : ImportParts :=
  ⟨"\x27./d\x27", some "D", some "ui", [], false, true⟩

/-- Two members, one of them accessed twice, beside a default binding. -/
theorem exports_distinct_of_two_members :
    let source := defaultBesideNamespace ["B", "A", "B"]
    let parts := defaultBesideNamespaceParts
    source.markedImports.map (fun imports => imports.map MarkedImport.parts) = .ok [parts] ∧
      parts.boundNames.Nodup ∧ "default" ∉ parts.boundNames ∧ source.root.WellFormed ∧
      ∃ boundary, source.boundaryOf ⟨.root, ["project"]⟩ parts = .ok boundary ∧
        exportedNames boundary.content = ["default", "B", "A"] ∧
        (exportedNames boundary.content).Nodup ∧ source.ReachedBefore "ui" "B" "A" := by
  intro source parts
  have distinct : parts.boundNames.Nodup := by decide
  have unreserved : "default" ∉ parts.boundNames := by decide
  have legible : source.Legible := by decide +kernel
  have collected : source.membersFor parts = .ok ["B", "A"] := eq_ok_of_toOption (by decide +kernel)
  obtain ⟨made, exports⟩ :=
    @exports_distinct source parts distinct unreserved ⟨.root, ["project"]⟩
  obtain ⟨boundary, built⟩ := made legible
  obtain ⟨members, alsoCollected, once⟩ := exports boundary built
  cases collected.symm.trans alsoCollected
  have plain : parts.Plain := by decide
  have read := once.exported (ImportParts.worded_handedOn plain.worded (by decide))
  have nodup := once.nodup_iff.mpr (.inr (by decide))
  have listed := once.listed "ui" rfl
  refine ⟨eq_ok_of_toOption (by decide +kernel), distinct, unreserved, by decide +kernel, boundary,
    built, read, by rw [read]; exact nodup, ?_⟩
  exact (List.pairwise_cons.mp listed.ordered).1 "A" List.mem_cons_self

/-- The member `default` of a namespace is exported beside the default binding, so that the module
exports `default` twice. -/
theorem default_exported_twice :
    let source := defaultBesideNamespace ["default"]
    ∃ imports marked boundary, source.markedImports = .ok imports ∧ marked ∈ imports ∧
      marked.parts.boundNames.Nodup ∧ "default" ∉ marked.parts.boundNames ∧
      source.boundaryOf ⟨.root, ["project"]⟩ marked.parts = .ok boundary ∧
      boundary.exportStatement = "export \x7b default, default \x7d from \x27./d\x27;" ∧
      exportedNames boundary.content = ["default", "default"] ∧
      ¬ (exportedNames boundary.content).Nodup := by
  intro source
  have read : source.markedImports.map (fun imports => imports.map MarkedImport.parts) =
      .ok [defaultBesideNamespaceParts] := eq_ok_of_toOption (by decide +kernel)
  obtain ⟨imports, found, allParts⟩ := map_eq_ok_iff.mp read
  obtain ⟨marked, rfl, isParts⟩ := List.map_eq_singleton_iff.mp allParts
  have collected : source.membersFor marked.parts = .ok ["default"] := by
    rw [isParts]
    exact eq_ok_of_toOption (by decide +kernel)
  have plain : defaultBesideNamespaceParts.Plain := by decide
  have exported : marked.parts.exported ["default"] = ["default", "default"] := by
    rw [isParts]
    rfl
  refine ⟨[marked], marked, _, found, List.mem_singleton_self marked, ?_, ?_,
    boundaryOf_eq_ok_iff.mpr ⟨["default"], collected, rfl⟩, ?_⟩
  · rw [isParts]
    decide
  · rw [isParts]
    decide
  · rw [ImportParts.exportedNames_content _ rfl rfl, exported]
    · refine ⟨?_, rfl, by decide⟩
      rw [isParts]
      decide +kernel
    · rw [isParts]
      exact ImportParts.worded_handedOn plain.worded (by decide)

end ImportBoundary
