import ImportBoundary.Proofs.Props.Analysis
import ImportBoundary.Proofs.Syntax.Places
import Mathlib.Data.List.DropRight

/-!
Contract: where the findings of an analysis stand.

Owns which findings an analysis can come to twice, and the place of a finding in terms of the octets
of the source. Every import searches the whole tree again, and elements stand in props of one
another; that no prop is judged twice rests on the ranges of a well-formed tree, by which a prop has
one element, and on the names of the imports, by which an element is used by one of them.

Main statement: `analyze_anchored`.
-/

namespace ImportBoundary

/-! ## Lines and columns -/

/-- The octets before an offset, split behind the last line feed. -/
theorem Text.exists_line_of_point (octets : List UInt8) (offset : Nat) :
    ∃ before since, octets.take offset = before ++ since ∧ 0x0a ∉ since ∧
      (before = [] ∨ before.getLast? = some 0x0a) ∧ (point octets offset).column = since.length := by
  let isOther : UInt8 → Bool := (· != 0x0a)
  refine ⟨(octets.take offset).rdropWhile isOther, (octets.take offset).rtakeWhile isOther, ?_, ?_,
    ?_, ?_⟩
  · exact List.rdropWhile_append_rtakeWhile.symm
  · intro isLineFeed
    have other := List.mem_rtakeWhile_imp isLineFeed
    simp [isOther] at other
  · by_cases empty : (octets.take offset).rdropWhile isOther = []
    · exact .inl empty
    · right
      have last := List.rdropWhile_last_not isOther _ empty
      rw [List.getLast?_eq_some_getLast empty]
      simpa [isOther] using last
  · exact List.length_reverse.symm

/-! ## Imports that bind different tags -/

namespace ImportParts

/-- Two imports bind different names and different namespaces. -/
def Separate (left right : ImportParts) : Prop :=
  (∀ name ∈ left.localNames, name ∉ right.localNames) ∧
    ∀ name ∈ left.namespaceName, name ∉ right.namespaceName

instance (left right : ImportParts) : Decidable (left.Separate right) :=
  inferInstanceAs (Decidable (_ ∧ _))

/-- No name that the import binds has a dot. -/
def Dotless (parts : ImportParts) : Prop :=
  ∀ name ∈ parts.localNames ++ parts.namespaceName.toList, '.' ∉ name.toList

instance (parts : ImportParts) : Decidable parts.Dotless :=
  inferInstanceAs (Decidable (∀ name ∈ _, _))

/-- A tag with a dot behind a name without one begins with that name and no other. -/
theorem takeWhile_of_isPrefix_dotted {name tag : String} (dotless : '.' ∉ name.toList)
    (begins : (name ++ ".").toList <+: tag.toList) :
    tag.toList.takeWhile (· != '.') = name.toList := by
  obtain ⟨rest, split⟩ := begins
  have others : ∀ character ∈ name.toList, (character != '.') = true := by
    intro character inName
    simp only [bne_iff_ne]
    rintro rfl
    exact dotless inName
  rw [← split, String.toList_append, List.append_assoc, List.takeWhile_append_of_pos others]
  simp

/-- No tag is bound by two imports that bind different names, all without a dot. -/
theorem Separate.not_both_bind {left right : ImportParts} (separate : left.Separate right)
    (dotlessLeft : left.Dotless) (dotlessRight : right.Dotless) {tag : String}
    (bindsLeft : left.bindsTag tag = true) : right.bindsTag tag ≠ true := by
  have dotted : ∀ {name : String}, (name ++ ".").toList <+: tag.toList → '.' ∈ tag.toList := by
    intro name begins
    apply begins.subset
    simp
  intro bindsRight
  rcases bindsTag_iff.mp bindsLeft with isLeft | ⟨leftName, ofLeft, beginsLeft⟩
  · rcases bindsTag_iff.mp bindsRight with isRight | ⟨_, _, beginsRight⟩
    · exact separate.1 tag isLeft isRight
    · exact dotlessLeft tag (List.mem_append_left _ isLeft) (dotted beginsRight)
  · rcases bindsTag_iff.mp bindsRight with isRight | ⟨rightName, ofRight, beginsRight⟩
    · exact dotlessRight tag (List.mem_append_left _ isRight) (dotted beginsLeft)
    · have leftDotless := dotlessLeft leftName (List.mem_append_right _ (by simp [ofLeft]))
      have rightDotless := dotlessRight rightName (List.mem_append_right _ (by simp [ofRight]))
      have same : leftName = rightName := String.toList_inj.mp <|
        (takeWhile_of_isPrefix_dotted leftDotless beginsLeft).symm.trans
          (takeWhile_of_isPrefix_dotted rightDotless beginsRight)
      exact separate.2 leftName ofLeft (same ▸ ofRight)

end ImportParts

/-! ## The element of a prop -/

namespace Node

variable {root first second opening : Node}

/-- A tag that occupies octets belongs to one element. -/
theorem WellFormed.eq_of_opening? (wellFormed : root.WellFormed) (isFirst : first ∈ root.walk)
    (isSecond : second ∈ root.walk) (opens : first.opening? = some opening)
    (opensSecond : second.opening? = some opening) (written : opening.start < opening.stop) :
    first = second := by
  have kindOf : ∀ element : Node, element.firstOfKind? "jsx_opening_element" = some opening →
      (opening.kind == "jsx_self_closing_element") = false := by
    intro element found
    have isOpening := List.find?_some found
    rw [beq_iff_eq] at isOpening
    rw [isOpening]
    decide
  unfold opening? at opens opensSecond
  split at opens
  · rename_i closes
    cases opens
    split at opensSecond
    · exact (Option.some.inj opensSecond).symm
    · rw [kindOf second opensSecond] at closes
      cases closes
  · split at opensSecond
    · rename_i closes
      cases opensSecond
      rw [kindOf first opens] at closes
      cases closes
    · exact wellFormed.parent_unique isFirst isSecond (mem_children_of_firstOfKind? opens)
        (mem_children_of_firstOfKind? opensSecond) written

end Node

/-- Of two props in order the second is not the first again, and within one element it begins
later. -/
def PropSite.Before (left right : PropSite) : Prop :=
  left.prop ≠ right.prop ∧ (left.element = right.element → left.prop.start < right.prop.start)

namespace Source

variable {source : Source}

section Order

variable (wellFormed : source.root.WellFormed)
  (written : ∀ node ∈ source.root.walk, node.kind = "jsx_attribute" → node.start < node.stop)
include wellFormed written

/-- What holds a prop occupies octets, as the prop does. -/
private theorem written_above {upper prop : Node} (inTree : upper ∈ source.root.walk)
    (within : prop ∈ upper.walk) (isProp : prop.kind = "jsx_attribute") :
    upper.start < upper.stop := by
  have ofUpper : upper.WellFormed :=
    fun inner below => wellFormed inner (Node.mem_walk_trans inTree below)
  have enclosed := ofUpper.enclosed within
  have occupies := written prop (Node.mem_walk_trans inTree within) isProp
  omega

/-- Props of different elements are different, however the elements stand to each other. -/
theorem before_of_ne {left right : PropSite} (ofLeft : left ∈ left.element.propSites)
    (ofRight : right ∈ right.element.propSites) (leftInTree : left.element ∈ source.root.walk)
    (rightInTree : right.element ∈ source.root.walk) (differs : left.element ≠ right.element) :
    left.Before right := by
  refine ⟨fun same => differs ?_, fun same => absurd same differs⟩
  obtain ⟨_, opening, opens, isNamed, isProp⟩ := Node.mem_propSites_iff.mp ofLeft
  obtain ⟨_, other, opensRight, isNamedRight, _⟩ := Node.mem_propSites_iff.mp ofRight
  rw [← same] at isNamedRight
  have sameOpening : opening = other := wellFormed.parent_unique
    (Node.mem_walk_of_opening? leftInTree opens) (Node.mem_walk_of_opening? rightInTree opensRight)
    (Node.mem_children_of_namedChildren isNamed) (Node.mem_children_of_namedChildren isNamedRight)
    (written left.prop (Node.mem_walk_of_mem_propSites leftInTree ofLeft) isProp)
  subst sameOpening
  have openingInTree := Node.mem_walk_of_opening? leftInTree opens
  have within : left.prop ∈ opening.walk := Node.mem_walk_of_mem_children (Node.mem_walk_self opening)
    (Node.mem_children_of_namedChildren isNamed)
  exact wellFormed.eq_of_opening? leftInTree rightInTree opens opensRight
    (written_above wellFormed written openingInTree within isProp)

/-- The props of an element begin one after the other. -/
theorem pairwise_propSites {element : Node} (inTree : element ∈ source.root.walk) :
    element.propSites.Pairwise PropSite.Before := by
  cases opens : element.opening? with
  | none => simp [Node.propSites, opens]
  | some opening =>
      have openingInTree := Node.mem_walk_of_opening? inTree opens
      have apart := (wellFormed opening openingInTree).apart
      rw [Node.propSites, opens, List.pairwise_map]
      refine ((apart.filter _).filter _).imp_of_mem ?_
      intro left right isLeft _ follows
      have isProp := (List.mem_filter.mp isLeft).2
      have isChild := Node.mem_children_of_namedChildren (List.mem_filter.mp isLeft).1
      have occupies := written left (Node.mem_walk_of_mem_children openingInTree isChild)
        (beq_iff_eq.mp isProp)
      have later : left.start < right.start := by omega
      exact ⟨fun same => absurd (congrArg Node.start same) (Nat.ne_of_lt later), fun _ => later⟩

/-- The props of the elements that use one import, none of which is listed twice. -/
theorem pairwise_usageSites {parts : ImportParts} {usages : List Node}
    (listed : source.usagesOf parts = .ok usages) :
    (usages.flatMap Node.propSites).Pairwise PropSite.Before := by
  have inTree : ∀ element ∈ usages, element ∈ source.root.walk :=
    fun element isUsage => ((mem_usagesOf_iff listed).mp isUsage).1
  have once : usages.Pairwise fun left right => left.start < left.stop → left ≠ right := by
    apply pairwise_of_gather listed wellFormed.pairwise_ne
    intro left right _ _ differs foundLeft foundRight
    obtain ⟨rfl, _⟩ := usage?_eq_ok_some_iff.mp foundLeft
    obtain ⟨rfl, _⟩ := usage?_eq_ok_some_iff.mp foundRight
    exact differs
  rw [List.pairwise_flatMap]
  refine ⟨fun element isUsage => pairwise_propSites wellFormed written (inTree element isUsage),
    once.imp_of_mem ?_⟩
  intro left right isLeft isRight differs leftSite ofLeft rightSite ofRight
  obtain ⟨rfl, _, _, _, isProp⟩ := Node.mem_propSites_iff.mp ofLeft
  obtain ⟨rfl, _⟩ := Node.mem_propSites_iff.mp ofRight
  have within := Node.mem_walk_of_mem_propSites (Node.mem_walk_self leftSite.element) ofLeft
  exact before_of_ne wellFormed written ofLeft ofRight (inTree _ isLeft) (inTree _ isRight)
    (differs (written_above wellFormed written (inTree _ isLeft) within isProp))

/-- The props of the elements that use two imports, of which no tag is bound by both. -/
theorem before_of_exclusive {left right : ImportParts} {leftUsages rightUsages : List Node}
    (exclude : ∀ tag, left.bindsTag tag = true → right.bindsTag tag ≠ true)
    (listedLeft : source.usagesOf left = .ok leftUsages)
    (listedRight : source.usagesOf right = .ok rightUsages) {leftSite rightSite : PropSite}
    (isLeft : leftSite ∈ leftUsages.flatMap Node.propSites)
    (isRight : rightSite ∈ rightUsages.flatMap Node.propSites) : leftSite.Before rightSite := by
  obtain ⟨_, isUsageLeft, ofLeft⟩ := List.mem_flatMap.mp isLeft
  obtain ⟨_, isUsageRight, ofRight⟩ := List.mem_flatMap.mp isRight
  obtain ⟨rfl, _⟩ := Node.mem_propSites_iff.mp ofLeft
  obtain ⟨rfl, _⟩ := Node.mem_propSites_iff.mp ofRight
  obtain ⟨leftInTree, tag, name, uses⟩ := (mem_usagesOf_iff listedLeft).mp isUsageLeft
  obtain ⟨rightInTree, otherTag, otherName, usesRight⟩ :=
    (mem_usagesOf_iff listedRight).mp isUsageRight
  apply before_of_ne wellFormed written ofLeft ofRight leftInTree rightInTree
  intro same
  rw [← same] at usesRight
  obtain ⟨rfl, rfl⟩ := uses.tag_eq usesRight.hasTag usesRight.read
  exact exclude name uses.binds usesRight.binds

/-- The props of all elements that use an import, if no element uses two. -/
theorem pairwise_visitedSites {imports : List MarkedImport} {sites : List PropSite}
    (found : source.markedImports = .ok imports)
    (separate : imports.Pairwise fun left right => left.parts.Separate right.parts)
    (dotless : ∀ marked ∈ imports, marked.parts.Dotless)
    (visits : source.visitedSites = .ok sites) : sites.Pairwise PropSite.Before := by
  obtain ⟨listed, isListed, rest⟩ := bind_eq_ok_iff.mp visits
  obtain rfl : imports = listed := Except.ok.inj (found.symm.trans isListed)
  obtain ⟨visited, areRead, result⟩ := bind_eq_ok_iff.mp rest
  cases result
  have ofImports := forall₂_of_mapM areRead
  have exclusive : imports.Pairwise fun left right => ∀ tag,
      left.parts.bindsTag tag = true → right.parts.bindsTag tag ≠ true := by
    apply separate.imp_of_mem
    intro left right isLeft isRight apart tag
    exact apart.not_both_bind (dotless left isLeft) (dotless right isRight)
  rw [List.pairwise_flatten]
  constructor
  · intro list isList
    obtain ⟨marked, _, read⟩ := exists_mem_of_forall₂ ofImports isList
    obtain ⟨usages, isUsages, rfl⟩ := map_eq_ok_iff.mp read
    exact pairwise_usageSites wellFormed written isUsages
  · apply pairwise_of_forall₂ ofImports exclusive
    intro left right _ _ exclude readLeft readRight leftSite isLeft rightSite isRight
    obtain ⟨leftUsages, listedLeft, rfl⟩ := map_eq_ok_iff.mp readLeft
    obtain ⟨rightUsages, listedRight, rfl⟩ := map_eq_ok_iff.mp readRight
    exact before_of_exclusive wellFormed written exclude listedLeft listedRight isLeft isRight

end Order

/-! ## Anchored findings -/

/-- A finding about a prop of an element that is bound by a marked import, with the range of the prop
and the line and the column at which the prop begins. -/
structure Anchored (source : Source) (imports : List MarkedImport) (lookup : TypeLookup)
    (site : PropSite) (finding : Diagnostic) : Prop where
  inTree : site.element ∈ source.root.walk
  isTagged : site.element.kind ∈ taggedKinds
  /-- The tag is a name that a marked import binds, or begins with its namespace and a dot. -/
  tag : ∃ tag name, site.element.tag? = some tag ∧ source.text tag = .ok name ∧
    ∃ marked ∈ imports, name ∈ marked.parts.localNames ∨ ∃ namespaceName,
      marked.parts.namespaceName = some namespaceName ∧
        (namespaceName ++ ".").toList <+: name.toList
  prop : ∃ opening, site.element.opening? = some opening ∧ site.prop ∈ opening.namedChildren ∧
    site.prop.kind = "jsx_attribute"
  found : source.propDiagnostic? lookup site.prop = .ok (some finding)
  start : finding.start = site.prop.start
  stop : finding.start + finding.length = site.prop.stop
  /-- The line is the number of line feeds before the prop. -/
  line : finding.line = (source.octets.take site.prop.start).count 0x0a
  /-- The column is the number of octets since the last of them. -/
  column : ∃ before since, source.octets.take site.prop.start = before ++ since ∧ 0x0a ∉ since ∧
    (before = [] ∨ before.getLast? = some 0x0a) ∧ finding.column = since.length

variable {lookup : TypeLookup}

/-- What is found at a prop that an analysis comes to is anchored at the prop. -/
theorem anchored_of_mem_visitedSites {imports : List MarkedImport} {sites : List PropSite}
    (listed : source.markedImports = .ok imports) (visits : source.visitedSites = .ok sites)
    {site : PropSite} (isSite : site ∈ sites) {finding : Diagnostic}
    (found : source.propDiagnostic? lookup site.prop = .ok (some finding)) :
    source.Anchored imports lookup site finding := by
  obtain ⟨ofElement, inTree, others, alsoListed, marked, isMarked, tag, name, uses⟩ :=
    exists_usage_of_mem_visitedSites visits isSite
  obtain rfl : imports = others := Except.ok.inj (listed.symm.trans alsoListed)
  obtain ⟨_, opens⟩ := Node.mem_propSites_iff.mp ofElement
  obtain ⟨message, reason, rfl⟩ := exists_atNode_of_propDiagnostic? found
  obtain ⟨before, since, split, noLineFeed, lineStart, column⟩ :=
    Text.exists_line_of_point source.octets site.prop.start
  exact {
    inTree := inTree
    isTagged := uses.isTagged
    tag := ⟨tag, name, uses.hasTag, uses.read, marked, isMarked,
      ImportParts.bindsTag_iff.mp uses.binds⟩
    prop := opens
    found := found
    start := rfl
    stop := by
      show (site.prop.start : Int) + (site.prop.stop - site.prop.start) = site.prop.stop
      omega
    line := rfl
    column := ⟨before, since, split, noLineFeed, lineStart, congrArg Nat.cast column⟩ }

/-- The findings of an analysis belong to different props, each of which is listed in the tree once,
are anchored at these, and begin one after the other within one element. -/
theorem analyze_anchored (wellFormed : source.root.WellFormed)
    (written : ∀ node ∈ source.root.walk, node.kind = "jsx_attribute" → node.start < node.stop)
    {imports : List MarkedImport} (listed : source.markedImports = .ok imports)
    (separate : imports.Pairwise fun left right => left.parts.Separate right.parts)
    (dotless : ∀ marked ∈ imports, marked.parts.Dotless) {findings : List Diagnostic}
    (analyzed : source.analyze lookup = .ok findings) :
    (source.root.walk.filter fun node => node.kind == "jsx_attribute").Nodup ∧
      ∃ sites : List PropSite, (sites.map PropSite.prop).Nodup ∧
        List.Forall₂ (source.Anchored imports lookup) sites findings ∧
        sites.Pairwise fun left right =>
          left.element = right.element → left.prop.start < right.prop.start := by
  obtain ⟨visited, visits, gathered⟩ := analyze_eq_ok_iff.mp analyzed
  obtain ⟨sites, areVisited, areFound⟩ := exists_kept_of_gather gathered
  have inOrder : sites.Pairwise PropSite.Before :=
    (pairwise_visitedSites wellFormed written listed separate dotless visits).sublist areVisited
  refine ⟨?_, sites, ?_, ?_, inOrder.imp fun before => before.2⟩
  · refine (wellFormed.pairwise_ne.filter _).imp_of_mem ?_
    intro left right isLeft _ differs
    obtain ⟨inTree, isProp⟩ := List.mem_filter.mp isLeft
    exact differs (written left inTree (beq_iff_eq.mp isProp))
  · rw [List.nodup_iff_pairwise_ne, List.pairwise_map]
    exact inOrder.imp fun before => before.1
  · have fromVisited : ∀ site ∈ sites, site ∈ visited := fun _ member => areVisited.subset member
    refine ((List.forall₂_and_left sites findings).mpr ⟨fromVisited, areFound⟩).imp ?_
    rintro site finding ⟨isVisited, found⟩
    exact anchored_of_mem_visitedSites listed visits isVisited found

/-- An element that stands in a prop of another has its own findings, and none of them twice. -/
theorem analyze_anchored_of_nested :
    nestedUse.root.WellFormed ∧
      (∀ node ∈ nestedUse.root.walk, node.kind = "jsx_attribute" → node.start < node.stop) ∧
      ∃ imports findings, nestedUse.markedImports = .ok imports ∧ imports.length = 2 ∧
        (imports.Pairwise fun left right => left.parts.Separate right.parts) ∧
        (∀ marked ∈ imports, marked.parts.Dotless) ∧
        nestedUse.analyze objectLookup = .ok findings ∧
        findings.map Diagnostic.start = [87, 103, 93] ∧
        ∃ sites : List PropSite, (sites.map PropSite.prop).Nodup ∧
          List.Forall₂ (nestedUse.Anchored imports objectLookup) sites findings := by
  have wellFormed : nestedUse.root.WellFormed := by decide +kernel
  have written : ∀ node ∈ nestedUse.root.walk,
      node.kind = "jsx_attribute" → node.start < node.stop := by decide +kernel
  obtain ⟨imports, listed⟩ : ∃ imports, nestedUse.markedImports = .ok imports :=
    exists_of_isOk (by decide +kernel)
  obtain ⟨findings, analyzed⟩ : ∃ findings, nestedUse.analyze objectLookup = .ok findings :=
    exists_of_isOk (by decide +kernel)
  have ofImports : ∀ imports, nestedUse.markedImports = .ok imports → imports.length = 2 ∧
      (imports.Pairwise fun left right => left.parts.Separate right.parts) ∧
      ∀ marked ∈ imports, marked.parts.Dotless := by decide +kernel
  have starts : ∀ findings, nestedUse.analyze objectLookup = .ok findings →
      findings.map Diagnostic.start = [87, 103, 93] := by decide +kernel
  obtain ⟨two, separate, dotless⟩ := ofImports imports listed
  obtain ⟨_, sites, different, anchored, _⟩ :=
    analyze_anchored wellFormed written listed separate dotless analyzed
  exact ⟨wellFormed, written, imports, findings, listed, two, separate, dotless, analyzed,
    starts findings analyzed, sites, different, anchored⟩

end Source

end ImportBoundary
