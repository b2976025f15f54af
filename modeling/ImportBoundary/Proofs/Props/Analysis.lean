import ImportBoundary.Props.Analysis
import ImportBoundary.Proofs.Import.Selection
import ImportBoundary.Proofs.Props.Usage

/-!
Contract: which props an analysis comes to, and what its lookup decides.

Owns the props that are looked at, each with the element that it is given to, in order and the same
for every lookup, and the finding about one prop, which is decided by what the lookup knows of the
value of that prop. A lookup that fails says no more than one that knows nothing.

Main statements: `analyze_eq_ok_iff` and `analyze_isolated`.
-/

namespace ImportBoundary

/-- A prop and the element that it is given to. -/
structure PropSite where
  element : Node
  prop : Node

namespace Node

/-- The props of an element, in order. -/
def propSites (element : Node) : List PropSite :=
  (((element.opening?.map namedChildren).getD []).filter fun prop =>
    prop.kind == "jsx_attribute").map fun prop => ⟨element, prop⟩

theorem mem_propSites_iff {element : Node} {site : PropSite} :
    site ∈ element.propSites ↔ site.element = element ∧ ∃ opening,
      element.opening? = some opening ∧ site.prop ∈ opening.namedChildren ∧
        site.prop.kind = "jsx_attribute" := by
  obtain ⟨owner, prop⟩ := site
  simp only [propSites, List.mem_map, List.mem_filter, beq_iff_eq, PropSite.mk.injEq]
  cases element.opening? with
  | none => simp
  | some opening =>
      constructor
      · rintro ⟨_, ⟨isNamed, isProp⟩, rfl, rfl⟩
        exact ⟨rfl, opening, rfl, isNamed, isProp⟩
      · rintro ⟨rfl, _, ⟨⟩, isNamed, isProp⟩
        exact ⟨prop, ⟨isNamed, isProp⟩, rfl, rfl⟩

theorem mem_walk_of_mem_propSites {root element : Node} {site : PropSite}
    (inTree : element ∈ root.walk) (isSite : site ∈ element.propSites) : site.prop ∈ root.walk := by
  obtain ⟨_, opening, opens, isNamed, _⟩ := mem_propSites_iff.mp isSite
  exact mem_walk_of_mem_children (mem_walk_of_opening? inTree opens)
    (mem_children_of_namedChildren isNamed)

/-- The name and the value of a prop stand in the tree of the prop. -/
theorem mem_walk_of_propOf? {root prop name value : Node} (inTree : prop ∈ root.walk)
    (written : prop.propOf? = some (name, value)) : name ∈ root.walk ∧ value ∈ root.walk := by
  unfold propOf? at written
  split at written
  · rename_i first second rest content
    split at written
    · rename_i last isLast
      split at written
      · obtain ⟨found, isFirst, same⟩ := Option.map_eq_some_iff.mp written
        cases same
        have lastInTree : last ∈ root.walk := by
          apply mem_walk_of_mem_children inTree
          apply mem_children_of_namedContent
          rw [content]
          exact List.mem_cons_of_mem _ (List.mem_of_getLast? isLast)
        constructor
        · apply mem_walk_of_mem_children inTree
          apply mem_children_of_namedContent
          rw [content]
          exact List.mem_cons_self
        · apply mem_walk_of_mem_children lastInTree
          apply mem_children_of_namedContent
          exact List.mem_of_mem_head? (Option.filter_eq_some_iff.mp isFirst).1
      · cases written
    · cases written
  · cases written

end Node

namespace Source

variable {source : Source} {lookup : TypeLookup}

/-! ## The props that an analysis comes to -/

/-- The props that an analysis comes to: by import, then by element, then by prop. -/
def visitedSites (source : Source) : Except Failure (List PropSite) := do
  let marked ← source.markedImports
  let visited ← marked.mapM fun one =>
    (source.usagesOf one.parts).map fun usages => usages.flatMap Node.propSites
  .ok visited.flatten

/-- What is found at a prop of an element. -/
def siteDiagnostic? (source : Source) (lookup : TypeLookup) (site : PropSite) :
    Except Failure (Option Diagnostic) :=
  source.propDiagnostic? lookup site.prop

theorem elementDiagnostics_eq (element : Node) :
    source.elementDiagnostics lookup element =
      gather (source.siteDiagnostic? lookup) element.propSites := by
  have others : ∀ child, (child.kind == "jsx_attribute") = false →
      source.propDiagnostic? lookup child = .ok none := by
    intro child isOther
    rw [propDiagnostic?, if_pos (by rw [bne, isOther]; rfl)]
  unfold elementDiagnostics Node.propSites
  rw [gather_map]
  cases element.opening? with
  | none => rfl
  | some opening => exact (gather_filter fun child _ => others child).symm

theorem importDiagnostics_eq_ok_iff {marked : MarkedImport} {findings : List Diagnostic} :
    source.importDiagnostics lookup marked = .ok findings ↔
      ∃ visited,
        ((source.usagesOf marked.parts).map fun usages => usages.flatMap Node.propSites) =
          .ok visited ∧
        gather (source.siteDiagnostic? lookup) visited = .ok findings := by
  have answers : ∀ element found, source.elementDiagnostics lookup element = .ok found ↔
      ∃ list, (.ok element.propSites : Except Failure (List PropSite)) = .ok list ∧
        gather (source.siteDiagnostic? lookup) list = .ok found := by
    intro element found
    simp [elementDiagnostics_eq]
  have together : ∀ usages : List Node,
      usages.mapM (fun element => (.ok element.propSites : Except Failure (List PropSite))) =
        .ok (usages.map Node.propSites) := fun usages => List.mapM_pure
  constructor
  · intro analyzed
    obtain ⟨usages, listed, rest⟩ := bind_eq_ok_iff.mp analyzed
    obtain ⟨found, searched, result⟩ := bind_eq_ok_iff.mp rest
    obtain ⟨lists, areSites, gathered⟩ :=
      (mapM_gather_eq_ok_iff answers).mp ⟨found, searched, Except.ok.inj result⟩
    rw [together] at areSites
    cases areSites
    exact ⟨_, map_eq_ok_iff.mpr ⟨usages, listed, rfl⟩, gathered⟩
  · rintro ⟨visited, read, gathered⟩
    obtain ⟨usages, listed, rfl⟩ := map_eq_ok_iff.mp read
    obtain ⟨found, searched, rfl⟩ :=
      (mapM_gather_eq_ok_iff answers).mpr ⟨_, together usages, gathered⟩
    exact bind_eq_ok_iff.mpr ⟨usages, listed, bind_eq_ok_iff.mpr ⟨found, searched, rfl⟩⟩

/-- An analysis finds what is found at the props that it comes to, in their order. -/
theorem analyze_eq_ok_iff {findings : List Diagnostic} :
    source.analyze lookup = .ok findings ↔
      ∃ sites, source.visitedSites = .ok sites ∧
        gather (source.siteDiagnostic? lookup) sites = .ok findings := by
  have answers : ∀ marked found, source.importDiagnostics lookup marked = .ok found ↔ _ :=
    fun marked found => importDiagnostics_eq_ok_iff
  constructor
  · intro analyzed
    obtain ⟨marked, found, rest⟩ := bind_eq_ok_iff.mp analyzed
    obtain ⟨lists, searched, result⟩ := bind_eq_ok_iff.mp rest
    obtain ⟨visited, areRead, gathered⟩ :=
      (mapM_gather_eq_ok_iff answers).mp ⟨lists, searched, Except.ok.inj result⟩
    exact ⟨visited.flatten,
      bind_eq_ok_iff.mpr ⟨marked, found, bind_eq_ok_iff.mpr ⟨visited, areRead, rfl⟩⟩, gathered⟩
  · rintro ⟨sites, visits, gathered⟩
    obtain ⟨marked, found, rest⟩ := bind_eq_ok_iff.mp visits
    obtain ⟨visited, areRead, result⟩ := bind_eq_ok_iff.mp rest
    cases result
    obtain ⟨lists, searched, rfl⟩ :=
      (mapM_gather_eq_ok_iff answers).mpr ⟨visited, areRead, gathered⟩
    exact bind_eq_ok_iff.mpr ⟨marked, found, bind_eq_ok_iff.mpr ⟨lists, searched, rfl⟩⟩

/-- A prop that an analysis comes to belongs to an element that uses a marked import. -/
theorem exists_usage_of_mem_visitedSites {sites : List PropSite}
    (visits : source.visitedSites = .ok sites) {site : PropSite} (isSite : site ∈ sites) :
    site ∈ site.element.propSites ∧ site.element ∈ source.root.walk ∧
      ∃ imports, source.markedImports = .ok imports ∧ ∃ marked ∈ imports, ∃ tag name,
        source.Uses marked.parts site.element tag name := by
  obtain ⟨imports, found, rest⟩ := bind_eq_ok_iff.mp visits
  obtain ⟨visited, areRead, result⟩ := bind_eq_ok_iff.mp rest
  cases result
  obtain ⟨list, isList, inList⟩ := List.mem_flatten.mp isSite
  obtain ⟨marked, isMarked, read⟩ := exists_mem_of_forall₂ (forall₂_of_mapM areRead) isList
  obtain ⟨usages, listed, rfl⟩ := map_eq_ok_iff.mp read
  obtain ⟨element, isUsage, ofElement⟩ := List.mem_flatMap.mp inList
  obtain ⟨inTree, tag, name, uses⟩ := (mem_usagesOf_iff listed).mp isUsage
  obtain ⟨rfl, _⟩ := Node.mem_propSites_iff.mp ofElement
  exact ⟨ofElement, inTree, imports, found, marked, isMarked, tag, name, uses⟩

theorem Legible.exists_visitedSites (legible : source.Legible) :
    ∃ sites, source.visitedSites = .ok sites := by
  apply exists_bind legible.exists_markedImports
  intro imports
  have readsEach : ∃ visited, (imports.mapM fun one =>
      (source.usagesOf one.parts).map fun usages => usages.flatMap Node.propSites) =
        .ok visited := by
    apply exists_mapM
    intro marked _
    obtain ⟨usages, listed⟩ := legible.exists_usagesOf marked.parts
    exact ⟨_, map_eq_ok_iff.mpr ⟨usages, listed, rfl⟩⟩
  apply exists_bind readsEach
  intro visited
  exact ⟨_, rfl⟩

/-! ## What a lookup decides -/

end Source

/-- What a lookup knows of a node. A lookup that fails knows nothing. -/
def TypeLookup.known? (lookup : TypeLookup) (source : Source) (node : Node) : Option TypeInfo :=
  (lookup source node).toOption.join

/-- The lookup that knows nothing where the given one fails, and answers as it does elsewhere. -/
def TypeLookup.silenced (lookup : TypeLookup) : TypeLookup := fun source node =>
  match lookup source node with
  | .error _ => .ok none
  | .ok known => .ok known

theorem TypeLookup.known?_silenced (lookup : TypeLookup) (source : Source) (node : Node) :
    lookup.silenced.known? source node = lookup.known? source node := by
  rw [known?, known?, silenced]
  cases lookup source node <;> rfl

namespace Source

variable {source : Source} {lookup : TypeLookup}

/-- What a lookup knows of the value of a prop. -/
def knownAt? (source : Source) (lookup : TypeLookup) (prop : Node) : Option TypeInfo :=
  prop.propOf?.bind fun written => lookup.known? source written.2

theorem knownAt?_silenced (lookup : TypeLookup) (prop : Node) :
    source.knownAt? lookup.silenced prop = source.knownAt? lookup prop := by
  simp only [knownAt?, TypeLookup.known?_silenced]

/-- What is no prop, or is given no expression, is passed over whatever the lookup. -/
theorem passed_or_written (source : Source) (prop : Node) :
    (∀ lookup, source.propDiagnostic? lookup prop = .ok none) ∨
      prop.kind = "jsx_attribute" ∧ ∃ nameNode value, prop.propOf? = some (nameNode, value) := by
  by_cases isProp : prop.kind = "jsx_attribute"
  · cases written : prop.propOf? with
    | none =>
        left
        intro lookup
        rw [propDiagnostic?, written]
        exact ite_self _
    | some pair => exact .inr ⟨isProp, pair.1, pair.2, rfl⟩
  · left
    intro lookup
    rw [propDiagnostic?, if_pos (by simpa using isProp)]

/-- The finding about a prop that is given an expression, from what is known of that expression. -/
theorem propDiagnostic?_eq {prop nameNode value : Node} (isProp : prop.kind = "jsx_attribute")
    (written : prop.propOf? = some (nameNode, value)) :
    source.propDiagnostic? lookup prop = (do
      let name ← source.text nameNode
      match lookup.known? source value with
      | none => .ok none
      | some info =>
        let text ← source.text value
        .ok ((rejection? name info text).map fun reason =>
          Diagnostic.atNode source prop propCode (propMessage name info) (some reason))) := by
  rw [propDiagnostic?, if_neg (by rw [isProp]; decide), written, TypeLookup.known?]
  dsimp only
  cases lookup source value with
  | error failure => rfl
  | ok known => cases known <;> rfl

/-- The finding about a prop is decided by what is known of its value. -/
theorem propDiagnostic?_congr {first second : TypeLookup} {prop : Node}
    (same : source.knownAt? first prop = source.knownAt? second prop) :
    source.propDiagnostic? first prop = source.propDiagnostic? second prop := by
  rcases source.passed_or_written prop with passed | ⟨isProp, nameNode, value, written⟩
  · rw [passed, passed]
  · rw [knownAt?, knownAt?, written, Option.bind_some, Option.bind_some] at same
    rw [propDiagnostic?_eq isProp written, propDiagnostic?_eq isProp written, same]

/-- What is found at a prop is a finding about this prop. -/
theorem exists_atNode_of_propDiagnostic? {prop : Node} {finding : Diagnostic}
    (isFound : source.propDiagnostic? lookup prop = .ok (some finding)) :
    ∃ message reason, finding = Diagnostic.atNode source prop propCode message reason := by
  rcases source.passed_or_written prop with passed | ⟨isProp, nameNode, value, written⟩
  · rw [passed] at isFound
    cases isFound
  · rw [propDiagnostic?_eq isProp written] at isFound
    obtain ⟨name, _, judged⟩ := bind_eq_ok_iff.mp isFound
    cases known : lookup.known? source value with
    | none =>
        rw [known] at judged
        cases judged
    | some info =>
        rw [known] at judged
        obtain ⟨text, _, result⟩ := bind_eq_ok_iff.mp judged
        obtain ⟨reason, _, rfl⟩ := Option.map_eq_some_iff.mp (Except.ok.inj result)
        exact ⟨_, _, rfl⟩

/-- A prop of a legible source is judged, whatever the lookup does. -/
theorem Legible.exists_propDiagnostic? (legible : source.Legible) (lookup : TypeLookup) {prop : Node}
    (inTree : prop ∈ source.root.walk) :
    ∃ found, source.propDiagnostic? lookup prop = .ok found := by
  rcases source.passed_or_written prop with passed | ⟨isProp, nameNode, value, written⟩
  · exact ⟨none, passed lookup⟩
  · obtain ⟨nameInTree, valueInTree⟩ := Node.mem_walk_of_propOf? inTree written
    rw [propDiagnostic?_eq isProp written]
    apply exists_bind (legible nameNode nameInTree)
    intro name
    cases lookup.known? source value with
    | none => exact ⟨none, rfl⟩
    | some info =>
        apply exists_bind (legible value valueInTree)
        intro text
        exact ⟨_, rfl⟩

/-! ## Two lookups -/

/-- What is found at some props, each finding with the prop that it is found at. -/
def traced (source : Source) (lookup : TypeLookup) (sites : List PropSite) :
    List (PropSite × Diagnostic) :=
  sites.filterMap fun site => (source.siteDiagnostic? lookup site).toOption.join.map (site, ·)

theorem mem_traced_iff {sites : List PropSite} {site : PropSite} {finding : Diagnostic} :
    (site, finding) ∈ source.traced lookup sites ↔
      site ∈ sites ∧ source.propDiagnostic? lookup site.prop = .ok (some finding) := by
  have found_iff : ∀ other : PropSite,
      (source.siteDiagnostic? lookup other).toOption.join = some finding ↔
        source.propDiagnostic? lookup other.prop = .ok (some finding) := by
    intro other
    unfold siteDiagnostic?
    cases source.propDiagnostic? lookup other.prop <;> simp [Except.toOption]
  rw [traced, List.mem_filterMap]
  simp only [Option.map_eq_some_iff, Prod.mk.injEq]
  constructor
  · rintro ⟨_, isSite, _, isFound, rfl, rfl⟩
    exact ⟨isSite, (found_iff _).mp isFound⟩
  · rintro ⟨isSite, isFound⟩
    exact ⟨site, isSite, finding, (found_iff site).mpr isFound, rfl, rfl⟩

/-- Whether two lookups know the same of the value of a prop. -/
def agreesAt (source : Source) (first second : TypeLookup) (prop : Node) : Bool :=
  source.knownAt? first prop = source.knownAt? second prop

/-- Two lookups lead to the same findings, in the same order, at the props where they agree. -/
theorem filter_traced_eq (first second : TypeLookup) (sites : List PropSite) :
    ((source.traced first sites).filter fun entry => source.agreesAt first second entry.1.prop) =
      (source.traced second sites).filter fun entry =>
        source.agreesAt first second entry.1.prop := by
  rw [traced, traced, List.filter_filterMap, List.filter_filterMap]
  apply List.filterMap_congr
  intro site _
  unfold siteDiagnostic?
  by_cases same : source.knownAt? first site.prop = source.knownAt? second site.prop
  · rw [propDiagnostic?_congr same]
  · have hidden : ∀ found : Option Diagnostic, ((found.map (site, ·)).filter fun entry =>
        source.agreesAt first second entry.1.prop) = none := by
      intro found
      have differs : source.agreesAt first second site.prop = false := decide_eq_false same
      cases found <;> simp [differs]
    rw [hidden, hidden]

/-- What an analysis owes to its lookup, given the props that it comes to. -/
structure Isolated (source : Source) (sites : List PropSite) : Prop where
  /-- Every lookup leads to an answer: what is found at these props, in their order. -/
  answers : ∀ lookup, source.analyze lookup = .ok ((source.traced lookup sites).map Prod.snd)
  found_iff : ∀ lookup, ∀ site ∈ sites, ∀ finding, (site, finding) ∈ source.traced lookup sites ↔
    source.propDiagnostic? lookup site.prop = .ok (some finding)
  /-- A failure counts as an unknown type. -/
  silenced : ∀ lookup, source.analyze lookup.silenced = source.analyze lookup
  /-- What is found at a prop depends on the prop and on what is known of its own value. -/
  own : ∀ first second, ∀ prop, source.knownAt? first prop = source.knownAt? second prop →
    source.propDiagnostic? first prop = source.propDiagnostic? second prop
  /-- Where two lookups agree, the same is found in the same order. -/
  others : ∀ first second,
    ((source.traced first sites).filter fun entry => source.agreesAt first second entry.1.prop) =
      (source.traced second sites).filter fun entry => source.agreesAt first second entry.1.prop

/-- The analysis of a source whose nodes have texts comes to the same props whatever the lookup, never
fails, and differs for two lookups only at props of whose values these know different things. -/
theorem analyze_isolated (legible : source.Legible) :
    ∃ sites, source.visitedSites = .ok sites ∧ source.Isolated sites := by
  obtain ⟨sites, visits⟩ := legible.exists_visitedSites
  have answers : ∀ lookup,
      source.analyze lookup = .ok ((source.traced lookup sites).map Prod.snd) := by
    intro lookup
    refine analyze_eq_ok_iff.mpr ⟨sites, visits, gather_eq_ok_iff.mpr ⟨?_, ?_⟩⟩
    · intro site isSite
      obtain ⟨ofElement, inTree, _⟩ := exists_usage_of_mem_visitedSites visits isSite
      exact legible.exists_propDiagnostic? lookup (Node.mem_walk_of_mem_propSites inTree ofElement)
    · rw [traced, List.map_filterMap]
      apply List.filterMap_congr
      intro site _
      cases (source.siteDiagnostic? lookup site).toOption.join <;> rfl
  have sameTrace : ∀ lookup, source.traced lookup.silenced sites = source.traced lookup sites := by
    intro lookup
    apply List.filterMap_congr
    intro site _
    rw [siteDiagnostic?, siteDiagnostic?, propDiagnostic?_congr (knownAt?_silenced lookup site.prop)]
  refine ⟨sites, visits, answers, ?_, ?_, fun _ _ _ => propDiagnostic?_congr,
    fun first second => filter_traced_eq first second sites⟩
  · intro lookup site isSite finding
    rw [mem_traced_iff]
    exact and_iff_right isSite
  · intro lookup
    rw [answers, answers, sameTrace]

/-! ## An element in a prop of another -/

/-- A prop of one letter that is given an expression. -/
def braceProp (start stop : Nat) (value : Node) : Node :=
  let token (kind : String) (start stop : Nat) : Node := ⟨kind, start, stop, false, false, none, []⟩
  ⟨"jsx_attribute", start, stop, true, false, none,
    [⟨"property_identifier", start, start + 1, true, false, none, []⟩,
      token "=" (start + 1) (start + 2),
      ⟨"jsx_expression", start + 2, stop, true, false, none,
        [token "\x7b" (start + 2) (start + 3), value, token "\x7d" (stop - 1) stop]⟩]⟩

/-- An element of one letter without children. -/
def shortElement (start stop : Nat) (props : List Node) : Node :=
  let token (kind : String) (start stop : Nat) : Node := ⟨kind, start, stop, false, false, none, []⟩
  let tag : Node := ⟨"identifier", start + 1, start + 2, true, false, some "name", []⟩
  ⟨"jsx_self_closing_element", start, stop, true, false, none,
    token "<" start (start + 1) :: tag :: props ++ [token "/>" (stop - 2) stop]⟩

/-- A source with two marked imports, in which a prop of an element is given another element. -/
def nestedUse : Source :=
  let name (start : Nat) : Node := ⟨"identifier", start, start + 1, true, false, none, []⟩
  let inner := shortElement 90 101 [braceProp 93 98 (name 96)]
  let outer := shortElement 84 111 [braceProp 87 102 inner, braceProp 103 108 (name 106)]
  ⟨⟨.root, ["a.tsx"]⟩,
    Utf8.encode ("import A from \x27a\x27 with \x7b use: \x27client\x27 \x7d;\n" ++
      "import B from \x27b\x27 with \x7b use: \x27client\x27 \x7d;\n" ++
      "<A f=\x7b<B g=\x7bx\x7d />\x7d h=\x7by\x7d />;"), .tsx,
    ⟨"program", 0, 112, true, false, none,
      [defaultStatement 0 3, defaultStatement 42 3,
        ⟨"expression_statement", 84, 112, true, false, none,
          [outer, ⟨";", 111, 112, false, false, none, []⟩]⟩]⟩⟩

/-- A lookup that takes every node for an object of one type. -/
def objectLookup : TypeLookup := fun _ _ => .ok (some (TypeInfo.object "T" "T"))

/-- The same lookup, but for a failure at the nodes that begin at an offset. -/
def failingAt (offset : Nat) : TypeLookup := fun source node =>
  if node.start = offset then .error .lookupFailed else objectLookup source node

/-- A failure at the inner element hides the finding about the prop that holds it, and neither the one
behind it nor the one within. -/
theorem analyze_isolated_of_nested :
    nestedUse.Legible ∧ ∃ findings all : List Diagnostic,
      nestedUse.analyze (failingAt 90) = .ok findings ∧
      nestedUse.analyze objectLookup = .ok all ∧
      all.map Diagnostic.start = [87, 103, 93] ∧ findings.map Diagnostic.start = [103, 93] := by
  have legible : nestedUse.Legible := by decide +kernel
  obtain ⟨sites, visits, isolated⟩ := analyze_isolated legible
  have found : ∀ sites, nestedUse.visitedSites = .ok sites →
      ((nestedUse.traced objectLookup sites).map Prod.snd).map Diagnostic.start = [87, 103, 93] ∧
        ((nestedUse.traced (failingAt 90) sites).map Prod.snd).map Diagnostic.start = [103, 93] := by
    decide +kernel
  obtain ⟨ofAll, ofFindings⟩ := found sites visits
  exact ⟨legible, _, _, isolated.answers (failingAt 90), isolated.answers objectLookup, ofAll,
    ofFindings⟩

end Source

end ImportBoundary
