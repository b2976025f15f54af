import ImportBoundary.Props.Usage
import ImportBoundary.Proofs.Import.Members

/-!
Contract: which elements use an import.

Owns what it is for a tag to be bound by an import, the elements that are listed as its usages, and
how these compare with the accesses to the members of its namespace. An access is told by its parts,
whatever stands between them; a tag is compared as it is written, so that the dot has to follow the
name of the namespace at once.

Main statement: `used_iff_dot_follows`.
-/

namespace ImportBoundary

/-- A tag is bound by a name, or by a namespace with a dot behind it. -/
theorem ImportParts.bindsTag_iff {parts : ImportParts} {tag : String} :
    parts.bindsTag tag = true ↔ tag ∈ parts.localNames ∨
      ∃ name, parts.namespaceName = some name ∧ (name ++ ".").toList <+: tag.toList := by
  rw [bindsTag, Bool.or_eq_true, List.contains_iff_mem, Option.any_eq_true]
  simp only [List.isPrefixOf_iff_prefix]

/-- A text that continues a name is a member of that name if a dot comes next. -/
theorem isPrefix_dotted_iff {name rest : String} :
    (name ++ ".").toList <+: (name ++ rest).toList ↔ rest.toList.head? = some '.' := by
  rw [String.toList_append, String.toList_append, List.prefix_append_right_inj]
  show ['.'] <+: rest.toList ↔ _
  cases rest.toList with
  | nil => simp
  | cons first others => simp [eq_comm]

namespace Node

variable {root element opening : Node}

/-- The tag and the props of an element stand in the tree of the element. -/
theorem mem_walk_of_opening? (inTree : element ∈ root.walk) (opens : element.opening? = some opening) :
    opening ∈ root.walk := by
  unfold opening? at opens
  split at opens
  · cases opens
    exact inTree
  · exact mem_walk_of_mem_children inTree (mem_children_of_firstOfKind? opens)

theorem mem_walk_of_tag? {tag : Node} (inTree : element ∈ root.walk)
    (hasTag : element.tag? = some tag) : tag ∈ root.walk := by
  obtain ⟨opening, opens, isTag⟩ := Option.bind_eq_some_iff.mp hasTag
  exact mem_walk_of_mem_children (mem_walk_of_opening? inTree opens) (mem_children_of_child? isTag)

end Node

namespace Source

variable {source : Source} {parts : ImportParts} {element : Node}

/-- An element uses an import if it has a tag that the import binds. -/
structure Uses (source : Source) (parts : ImportParts) (element tag : Node) (name : String) :
    Prop where
  isTagged : element.kind ∈ taggedKinds
  hasTag : element.tag? = some tag
  read : source.text tag = .ok name
  binds : parts.bindsTag name = true

/-- The tag of an element is one node with one text. -/
theorem Uses.tag_eq {tag other : Node} {name otherName : String}
    (uses : source.Uses parts element tag name) (hasTag : element.tag? = some other)
    (read : source.text other = .ok otherName) : tag = other ∧ name = otherName := by
  obtain rfl : tag = other := Option.some.inj (uses.hasTag.symm.trans hasTag)
  exact ⟨rfl, Except.ok.inj (uses.read.symm.trans read)⟩

theorem usage?_eq_ok_some_iff {found : Node} :
    source.usage? parts element = .ok (some found) ↔
      found = element ∧ ∃ tag name, source.Uses parts element tag name := by
  unfold usage?
  constructor
  · intro isFound
    split at isFound
    · cases isFound
    · rename_i isTagged
      split at isFound
      · cases isFound
      · rename_i tag hasTag
        obtain ⟨name, read, binds⟩ := bind_eq_ok_iff.mp isFound
        split at binds
        · rename_i isBound
          cases binds
          exact ⟨rfl, tag, name, by simpa using isTagged, hasTag, read, isBound⟩
        · cases binds
  · rintro ⟨rfl, tag, name, uses⟩
    rw [if_neg (by simpa using uses.isTagged), uses.hasTag]
    dsimp only
    rw [uses.read, ok_bind, if_pos uses.binds]

/-- The usages of an import are the elements of the tree that use it. -/
theorem mem_usagesOf_iff {usages : List Node} (listed : source.usagesOf parts = .ok usages) :
    element ∈ usages ↔
      element ∈ source.root.walk ∧ ∃ tag name, source.Uses parts element tag name := by
  rw [mem_gather_iff listed]
  constructor
  · rintro ⟨item, inTree, isFound⟩
    obtain ⟨rfl, uses⟩ := usage?_eq_ok_some_iff.mp isFound
    exact ⟨inTree, uses⟩
  · rintro ⟨inTree, uses⟩
    exact ⟨element, inTree, usage?_eq_ok_some_iff.mpr ⟨rfl, uses⟩⟩

theorem Legible.exists_usagesOf (legible : source.Legible) (parts : ImportParts) :
    ∃ usages, source.usagesOf parts = .ok usages := by
  apply exists_gather
  intro element inTree
  unfold usage?
  split
  · exact ⟨none, rfl⟩
  · split
    · exact ⟨none, rfl⟩
    · rename_i tag hasTag
      apply exists_bind (legible tag (Node.mem_walk_of_tag? inTree hasTag))
      intro name
      exact ⟨_, rfl⟩

/-! ## Tags that access a member -/

/-- The octets of a node behind one of its parts. -/
def behind (source : Source) (node part : Node) : List UInt8 :=
  (source.octets.drop part.stop).take (node.stop - part.stop)

/-- A node that begins with a part is written as the part and what is behind it. -/
theorem slice_eq_append {node part : Node} (begins : part.start = node.start)
    (ordered : part.start ≤ part.stop) (within : part.stop ≤ node.stop) :
    source.slice node = source.slice part ++ source.behind node part := by
  have extents : node.extent = part.extent + (node.stop - part.stop) := by
    unfold Node.extent
    omega
  rw [slice, slice, behind, extents, List.take_add, List.drop_drop, begins]
  congr 3
  unfold Node.extent
  omega

/-- The text of a node that begins with a part is the text of the part and that of what is behind. -/
theorem exists_text_behind {node part : Node} {name whole : String} (begins : part.start = node.start)
    (ordered : part.start ≤ part.stop) (within : part.stop ≤ node.stop)
    (partRead : source.text part = .ok name) (read : source.text node = .ok whole) :
    ∃ rest, Utf8.decode (source.behind node part) = .ok rest ∧ whole = name ++ rest := by
  have decoded : ∀ {node : Node} {name : String}, source.text node = .ok name →
      Utf8.decode (source.slice node) = .ok name := by
    intro node name read
    rw [text] at read
    cases decodes : Utf8.decode (source.slice node) with
    | error fault =>
        rw [decodes] at read
        cases read
    | ok found =>
        rw [decodes] at read
        cases read
        rfl
  apply Utf8.exists_decode_append (decoded partRead)
  rw [← slice_eq_append begins ordered within]
  exact decoded read

/-- What is recognised as an access begins with the name of its object. -/
theorem exists_object_of_memberParts {node : Node} {objectName member : String}
    (read : source.memberParts node = .ok (some (objectName, member))) :
    ∃ object ∈ node.children, node.namedContent.head? = some object ∧
      source.text object = .ok objectName := by
  unfold memberParts at read
  split at read
  · split at read
    · rename_i object property content
      split at read
      · obtain ⟨first, objectRead, rest⟩ := bind_eq_ok_iff.mp read
        obtain ⟨second, _, result⟩ := bind_eq_ok_iff.mp rest
        cases result
        refine ⟨object, Node.mem_children_of_namedContent ?_, by rw [content]; rfl, objectRead⟩
        rw [content]
        exact List.mem_cons_self
      · cases read
    · cases read
  · cases read

/-- An element whose tag accesses a member of the namespace of an import. The member is collected,
however the tag is written; the element is listed as a usage exactly if a dot stands directly behind
the name of the namespace, unless the whole tag is one of the names that the import binds. -/
theorem used_iff_dot_follows (legible : source.Legible) (wellFormed : source.root.WellFormed)
    {namespaceName member : String} (isNamespace : parts.namespaceName = some namespaceName)
    (inTree : element ∈ source.root.walk) (isTagged : element.kind ∈ taggedKinds) {tag : Node}
    (hasTag : element.tag? = some tag)
    (accesses : source.memberParts tag = .ok (some (namespaceName, member)))
    (begins : ∀ object ∈ tag.namedContent.head?, object.start = tag.start) :
    ∃ usages members object name rest,
      source.usagesOf parts = .ok usages ∧ source.membersOf namespaceName = .ok members ∧
      tag.namedContent.head? = some object ∧ source.text tag = .ok name ∧
      Utf8.decode (source.behind tag object) = .ok rest ∧ name = namespaceName ++ rest ∧
      member ∈ members ∧
      (element ∈ usages ↔ name ∈ parts.localNames ∨ rest.toList.head? = some '.') := by
  obtain ⟨usages, listed⟩ := legible.exists_usagesOf parts
  obtain ⟨members, collected⟩ := legible.exists_membersOf namespaceName
  have tagInTree := Node.mem_walk_of_tag? inTree hasTag
  obtain ⟨name, read⟩ := legible tag tagInTree
  obtain ⟨object, isChild, isFirst, objectRead⟩ := exists_object_of_memberParts accesses
  have objectOrdered :=
    (wellFormed object (Node.mem_walk_of_mem_children tagInTree isChild)).start_le_stop
  have within := ((wellFormed tag tagInTree).enclosed object isChild).2
  obtain ⟨rest, decoded, rfl⟩ :=
    exists_text_behind (begins object isFirst) objectOrdered within objectRead read
  refine ⟨usages, members, object, _, rest, listed, collected, isFirst, read, decoded, rfl,
    (mem_membersOf_iff collected).mpr ⟨tag, tagInTree, accesses⟩, ?_⟩
  rw [mem_usagesOf_iff listed]
  have binds_iff : parts.bindsTag (namespaceName ++ rest) = true ↔
      namespaceName ++ rest ∈ parts.localNames ∨ rest.toList.head? = some '.' := by
    rw [ImportParts.bindsTag_iff, isNamespace]
    simp only [Option.some.injEq, exists_eq_left', isPrefix_dotted_iff]
  rw [← binds_iff]
  constructor
  · rintro ⟨_, otherTag, otherName, uses⟩
    obtain ⟨rfl, rfl⟩ := uses.tag_eq hasTag read
    exact uses.binds
  · intro binds
    exact ⟨inTree, tag, _, isTagged, hasTag, read, binds⟩

/-! ## A tag with and without a gap -/

/-- The tag `ui.A` with something between the name and the dot, which the tree holds as comments. -/
def gappedTag (gap : String) (comments : List Node) : Node :=
  let width := gap.length
  ⟨"member_expression", 62, 64 + width + 2, true, false, some "name",
    ⟨"identifier", 62, 64, true, false, some "object", []⟩ :: comments ++
      [⟨".", 64 + width, 65 + width, false, false, none, []⟩,
        ⟨"property_identifier", 65 + width, 66 + width, true, false, some "property", []⟩]⟩

/-- An element with this tag. -/
def gappedElement (gap : String) (comments : List Node) : Node :=
  let stop := 66 + gap.length
  ⟨"jsx_self_closing_element", 61, stop + 3, true, false, some "value",
    [⟨"<", 61, 62, false, false, none, []⟩, gappedTag gap comments,
      ⟨"/>", stop + 1, stop + 3, false, false, none, []⟩]⟩

/-- A source that imports a marked namespace `ui` and uses the element. -/
def gappedSource (gap : String) (comments : List Node) : Source :=
  let token (kind : String) (start stop : Nat) : Node := ⟨kind, start, stop, false, false, none, []⟩
  let clause : Node := ⟨"import_clause", 7, 14, true, false, none,
    [⟨"namespace_import", 7, 14, true, false, none,
      [⟨"identifier", 12, 14, true, false, none, []⟩]⟩]⟩
  let stop := 69 + gap.length
  let declarator : Node := ⟨"variable_declarator", 57, stop, true, false, none,
    [⟨"identifier", 57, 58, true, false, some "name", []⟩, token "=" 59 60,
      gappedElement gap comments]⟩
  ⟨⟨.root, ["a.tsx"]⟩,
    Utf8.encode ("import * as ui from \x27./ui\x27 with \x7b use: \x27client\x27 \x7d;\n" ++
      "const p = <ui" ++ gap ++ ".A />;"), .tsx,
    ⟨"program", 0, stop + 1, true, false, none,
      [markedStatement clause 20 26,
        ⟨"lexical_declaration", 51, stop + 1, true, false, none,
          [token "const" 51 56, declarator, token ";" stop (stop + 1)]⟩]⟩⟩

/-- The marked import of these sources. -/
def namespaceParts : ImportParts :=
  ⟨"\x27./ui\x27", none, some "ui", [], false, true⟩

theorem gappedElement_mem_walk (gap : String) (comments : List Node) :
    gappedElement gap comments ∈ (gappedSource gap comments).root.walk := by
  apply Node.mem_walk_of_child (.tail _ (.head _))
  apply Node.mem_walk_of_child (.tail _ (.head _))
  exact Node.mem_walk_of_child (.tail _ (.tail _ (.head _))) (Node.mem_walk_self _)

/-- Without a gap the element is a usage. -/
theorem used_iff_dot_follows_of_no_gap :
    let source := gappedSource "" []
    let element := gappedElement "" []
    source.Legible ∧ source.root.WellFormed ∧ element ∈ source.root.walk ∧
      source.memberParts (gappedTag "" []) = .ok (some ("ui", "A")) ∧
      ∃ usages, source.usagesOf namespaceParts = .ok usages ∧ element ∈ usages := by
  intro source element
  have legible : source.Legible := by decide +kernel
  have wellFormed : source.root.WellFormed := by decide +kernel
  have inTree : element ∈ source.root.walk := gappedElement_mem_walk "" []
  have accesses : source.memberParts (gappedTag "" []) = .ok (some ("ui", "A")) :=
    eq_ok_of_toOption (by decide +kernel)
  have begins : ∀ object ∈ (gappedTag "" []).namedContent.head?, object.start = 62 := by
    rintro _ ⟨⟩
    rfl
  obtain ⟨usages, _, object, _, rest, listed, _, isFirst, _, decoded, _, _, used⟩ :=
    used_iff_dot_follows legible wellFormed (show namespaceParts.namespaceName = some "ui" from rfl)
      inTree (by decide) rfl accesses begins
  refine ⟨legible, wellFormed, inTree, accesses, usages, listed, used.mpr (.inr ?_)⟩
  cases isFirst
  have dotted : Utf8.decode [0x2e, 0x41] = .ok ".A" := eq_ok_of_toOption (by decide +kernel)
  have isRest : Utf8.decode [0x2e, 0x41] = .ok rest := decoded
  rw [dotted] at isRest
  cases isRest
  rfl

/-- An element whose tag accesses the member `A` of the imported namespace, with `A` collected, that is
no usage of the import. -/
structure Overlooked (source : Source) (element tag : Node) : Prop where
  inTree : element ∈ source.root.walk
  isTagged : element.kind ∈ taggedKinds
  hasTag : element.tag? = some tag
  accesses : source.memberParts tag = .ok (some ("ui", "A"))
  imported : source.markedImports.map (fun imports => imports.map MarkedImport.parts) =
    .ok [namespaceParts]
  collected : source.membersOf "ui" = .ok ["A"]
  unused : source.usagesOf namespaceParts = .ok []

private theorem unused_of_length {source : Source}
    (counted : ((source.usagesOf namespaceParts).map List.length).toOption = some 0) :
    source.usagesOf namespaceParts = .ok [] := by
  obtain ⟨usages, listed, none⟩ := map_eq_ok_iff.mp (eq_ok_of_toOption counted)
  rw [listed, List.length_eq_zero_iff.mp none]

/-- A blank or a comment before the dot hides the element. -/
theorem gapped_tag_overlooked :
    (gappedSource " " []).Overlooked (gappedElement " " []) (gappedTag " " []) ∧
      let comments : List Node := [⟨"comment", 64, 69, true, false, none, []⟩]
      (gappedSource "/*c*/" comments).Overlooked (gappedElement "/*c*/" comments)
        (gappedTag "/*c*/" comments) := by
  constructor
  · exact ⟨gappedElement_mem_walk _ _, by decide, rfl, eq_ok_of_toOption (by decide +kernel),
      eq_ok_of_toOption (by decide +kernel), eq_ok_of_toOption (by decide +kernel),
      unused_of_length (by decide +kernel)⟩
  · exact ⟨gappedElement_mem_walk _ _, by decide, rfl, eq_ok_of_toOption (by decide +kernel),
      eq_ok_of_toOption (by decide +kernel), eq_ok_of_toOption (by decide +kernel),
      unused_of_length (by decide +kernel)⟩

end Source

end ImportBoundary
