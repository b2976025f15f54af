import ImportBoundary.Proofs.Import.Reading

/-!
Contract: which members of a namespace a source accesses.

Owns the names that are collected, each at a node that accesses it, and the accesses that are
recognised among those that a tree holds. An access is recognised by its named children: nothing but
comments may stand beside object and member. An optional chain is a named child, so that
`object?.member` is passed over.

Main statement: `member_handed_on`.
-/

namespace ImportBoundary.Source

variable {source : Source}

theorem mem_firstOccurrences_iff {name : String} {names : List String} :
    name ∈ firstOccurrences names ↔ name ∈ names := by
  induction names with
  | nil => rfl
  | cons head rest inductionHypothesis =>
      rw [firstOccurrences, List.mem_cons, List.mem_filter, inductionHypothesis, List.mem_cons]
      by_cases same : name = head
      · simp [same]
      · simp [same]

theorem accessOf_eq_ok_some_iff {namespaceName name : String} {node : Node} :
    source.accessOf namespaceName node = .ok (some name) ↔
      source.memberParts node = .ok (some (namespaceName, name)) := by
  unfold accessOf
  rw [bind_eq_ok_iff]
  constructor
  · rintro ⟨accessed, read, isOfNamespace⟩
    cases accessed with
    | none => cases isOfNamespace
    | some pair =>
        obtain ⟨object, accessedName⟩ := pair
        dsimp only at isOfNamespace
        split at isOfNamespace
        · rename_i same
          cases isOfNamespace
          rw [read, same]
        · cases isOfNamespace
  · intro read
    exact ⟨_, read, congrArg Except.ok (if_pos rfl)⟩

/-- A name is collected exactly if some node accesses it. -/
theorem mem_membersOf_iff {namespaceName : String} {members : List String}
    (collected : source.membersOf namespaceName = .ok members) {name : String} :
    name ∈ members ↔
      ∃ node ∈ source.root.walk, source.memberParts node = .ok (some (namespaceName, name)) := by
  obtain ⟨found, gathered, rfl⟩ := map_eq_ok_iff.mp collected
  rw [mem_firstOccurrences_iff, mem_gather_iff gathered]
  simp only [accessOf_eq_ok_some_iff]

/-! ## Accesses told by the roles of their parts -/

/-- An access to a member of a plain name, told by the roles of its parts. Both are named children,
the object before the property. -/
structure WrittenAccess (source : Source) (node object property : Node)
    (namespaceName member : String) : Prop where
  isAccess : node.kind = "member_expression"
  object_eq : node.child? "object" = some object
  isName : object.kind = "identifier"
  object_read : source.text object = .ok namespaceName
  property_eq : node.child? "property" = some property
  isMember : property.kind = "property_identifier"
  property_read : source.text property = .ok member
  listed : [object, property].Sublist node.namedContent

variable {node object property : Node} {namespaceName member : String}

theorem WrittenAccess.memberParts_of_alone
    (access : source.WrittenAccess node object property namespaceName member)
    (alone : node.namedContent = [object, property]) :
    source.memberParts node = .ok (some (namespaceName, member)) := by
  have areNames : (object.kind == "identifier" &&
      (property.kind == "property_identifier" || property.kind == "identifier")) = true := by
    simp [access.isName, access.isMember]
  unfold memberParts
  rw [if_pos (by simp [access.isAccess]), alone]
  dsimp only
  rw [if_pos areNames, access.object_read, ok_bind, access.property_read, ok_bind]

/-- What is recognised as an access has two named children that are no comments. -/
theorem length_namedContent_of_memberParts {parts : String × String}
    (read : source.memberParts node = .ok (some parts)) : node.namedContent.length = 2 := by
  unfold memberParts at read
  split at read
  · split at read
    · rename_i content
      rw [content]
      rfl
    · cases read
  · cases read

/-- An access is recognised if it has no other named children but comments. -/
theorem WrittenAccess.accessOf_iff
    (access : source.WrittenAccess node object property namespaceName member) :
    source.accessOf namespaceName node = .ok (some member) ↔
      node.namedContent = [object, property] := by
  rw [accessOf_eq_ok_some_iff]
  constructor
  · intro read
    exact (access.listed.eq_of_length (length_namedContent_of_memberParts read).symm).symm
  · exact access.memberParts_of_alone

/-- A member that a source accesses is collected, and the module of an import of its namespace hands
it on, if object and member are all that the access has for named children, comments apart; otherwise
this access does not count. Whatever is collected is accessed somewhere. -/
theorem member_handed_on (legible : source.Legible) (inTree : node ∈ source.root.walk)
    (access : source.WrittenAccess node object property namespaceName member) :
    (source.accessOf namespaceName node = .ok (some member) ↔
        node.namedContent = [object, property]) ∧
      ∃ members, source.membersOf namespaceName = .ok members ∧
        (∀ name, name ∈ members ↔ ∃ other ∈ source.root.walk,
          source.memberParts other = .ok (some (namespaceName, name))) ∧
        (node.namedContent = [object, property] → member ∈ members ∧
          ∀ (parts : ImportParts) (root : FilePath),
            nonEmpty parts.namespaceName = some namespaceName →
              ∃ boundary, source.boundaryOf root parts = .ok boundary ∧
                boundary.exportStatement = parts.exportStatement members ∧
                member ∈ parts.exportEntries members ∧
                ((∀ entry ∈ parts.handedOn members, entry.Worded) →
                  member ∈ exportedNames boundary.content)) := by
  obtain ⟨members, collected⟩ := legible.exists_membersOf namespaceName
  refine ⟨access.accessOf_iff, members, collected, fun name => mem_membersOf_iff collected, ?_⟩
  intro alone
  have isCollected : member ∈ members :=
    (mem_membersOf_iff collected).mpr ⟨node, inTree, access.memberParts_of_alone alone⟩
  refine ⟨isCollected, ?_⟩
  intro parts root isNamespace
  have collectedFor : source.membersFor parts = .ok members := by
    rw [membersFor, isNamespace]
    exact collected
  refine ⟨_, boundaryOf_eq_ok_iff.mpr ⟨members, collectedFor, rfl⟩, rfl, ?_, ?_⟩
  · rw [ImportParts.exportEntries, isNamespace]
    exact List.mem_append_right _ isCollected
  · intro worded
    rw [ImportParts.exportedNames_content worded rfl rfl, ImportParts.mem_exported_iff, isNamespace]
    exact .inr isCollected

/-- The access `ui.A` on the second line of a source. -/
theorem member_handed_on_of_plain :
    let source : Source := ⟨⟨.root, ["a.tsx"]⟩, Utf8.encode (namespaceText "A"), .tsx, namespaceTree⟩
    let object : Node := ⟨"identifier", 51, 53, true, false, some "object", []⟩
    let property : Node := ⟨"property_identifier", 54, 55, true, false, some "property", []⟩
    let access : Node := ⟨"member_expression", 51, 55, true, false, none,
      [object, ⟨".", 53, 54, false, false, none, []⟩, property]⟩
    let parts : ImportParts := ⟨"\x27./ui\x27", none, some "ui", [], false, true⟩
    source.Legible ∧ access ∈ source.root.walk ∧
      source.WrittenAccess access object property "ui" "A" ∧
      ∃ members boundary, source.membersOf "ui" = .ok members ∧ "A" ∈ members ∧
        source.boundaryOf ⟨.root, ["project"]⟩ parts = .ok boundary ∧
        "A" ∈ exportedNames boundary.content := by
  intro source object property access parts
  have legible : source.Legible := by decide +kernel
  have inTree : access ∈ source.root.walk :=
    Node.mem_walk_of_child (.tail _ (.head _))
      (Node.mem_walk_of_child (.head _) (Node.mem_walk_self access))
  have written : source.WrittenAccess access object property "ui" "A" :=
    ⟨rfl, rfl, rfl, eq_ok_of_toOption (by decide +kernel), rfl, rfl,
      eq_ok_of_toOption (by decide +kernel), .refl _⟩
  obtain ⟨_, members, collected, _, handedOn⟩ := member_handed_on legible inTree written
  obtain ⟨isCollected, ofParts⟩ := handedOn rfl
  obtain ⟨boundary, made, _, _, exports⟩ := ofParts parts ⟨.root, ["project"]⟩ rfl
  have onlyMember : source.membersOf "ui" = .ok ["A"] := eq_ok_of_toOption (by decide +kernel)
  have worded : ∀ entry ∈ parts.handedOn members, entry.Worded := by
    rw [← Except.ok.inj (onlyMember.symm.trans collected)]
    have plain : parts.Plain := by decide
    exact ImportParts.worded_handedOn plain.worded (by decide)
  exact ⟨legible, inTree, written, members, boundary, collected, isCollected, made, exports worded⟩

/-! ## Optional accesses -/

/-- The access `ui?.A` on the second line of a source. -/
def optionalAccess : Node :=
  ⟨"member_expression", 51, 56, true, false, none,
    [⟨"identifier", 51, 53, true, false, some "object", []⟩,
      ⟨"optional_chain", 53, 55, true, false, some "optional_chain",
        [⟨"?.", 53, 55, false, false, none, []⟩]⟩,
      ⟨"property_identifier", 55, 56, true, false, some "property", []⟩]⟩

/-- A source that imports a marked namespace `ui` and accesses its member `A` by `ui?.A`. -/
def optionalSource : Source :=
  let clause : Node := ⟨"import_clause", 7, 14, true, false, none,
    [⟨"namespace_import", 7, 14, true, false, none,
      [⟨"identifier", 12, 14, true, false, none, []⟩]⟩]⟩
  ⟨⟨.root, ["a.tsx"]⟩,
    Utf8.encode "import * as ui from \x27./ui\x27 with \x7b use: \x27client\x27 \x7d;\nui?.A;", .tsx,
    ⟨"program", 0, 57, true, false, none,
      [markedStatement clause 20 26,
        ⟨"expression_statement", 51, 57, true, false, none, [optionalAccess,
          ⟨";", 56, 57, false, false, none, []⟩]⟩]⟩⟩

/-- The member `A` is accessed but not collected, and the import hands nothing on. -/
theorem optional_access_lost :
    let parts : ImportParts := ⟨"\x27./ui\x27", none, some "ui", [], false, true⟩
    optionalAccess ∈ optionalSource.root.walk ∧
      (∃ object property,
        optionalSource.WrittenAccess optionalAccess object property "ui" "A") ∧
      optionalSource.markedImports.map (fun imports => imports.map MarkedImport.parts) =
        .ok [parts] ∧
      optionalSource.membersOf "ui" = .ok [] ∧
      optionalSource.exportStatement parts = .ok "export \x7b\x7d from \x27./ui\x27;" := by
  intro parts
  refine ⟨?_, ?_, eq_ok_of_toOption (by decide +kernel), eq_ok_of_toOption (by decide +kernel),
    eq_ok_of_toOption (by decide +kernel)⟩
  · exact Node.mem_walk_of_child (.tail _ (.head _))
      (Node.mem_walk_of_child (.head _) (Node.mem_walk_self optionalAccess))
  · exact ⟨_, _, rfl, rfl, rfl, eq_ok_of_toOption (by decide +kernel), rfl, rfl,
      eq_ok_of_toOption (by decide +kernel), .cons_cons _ (.cons _ (.refl _))⟩

end ImportBoundary.Source
