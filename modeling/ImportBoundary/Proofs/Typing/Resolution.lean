import ImportBoundary.Proofs.Collecting
import ImportBoundary.Proofs.Syntax.Places
import ImportBoundary.Typing.Scope

/-!
Contract: which declaration an identifier is resolved to.

Owns which names declarations bind, which declarations are visible at an identifier, what `choose`
picks from candidates in document order, and that the smallest of the scopes around an identifier lies
within all others.

Main statement: `declarationOf_innermost`. The smallest scope is found by comparing lengths in a flat
list; that it is the innermost one rests on the ranges of a well-formed tree, where two nodes around
the same identifier are never merely overlapping.
-/

namespace ImportBoundary

/-! ## Declarations -/

/-- A declaration of a variable, a function or a class binds its name, and a parameter its pattern, if
this is a single identifier. Where types are written, the name of a class is one of a type. -/
inductive Node.Declares (declaration target : Node) : Prop where
  | ofVariable (isKind : declaration.kind = "variable_declarator")
      (isName : declaration.child? "name" = some target) (isPlain : target.kind = "identifier")
  | ofFunction (isKind : declaration.kind = "function_declaration" ∨
        declaration.kind = "generator_function_declaration")
      (isName : declaration.child? "name" = some target) (isPlain : target.kind = "identifier")
  | ofClass (isKind : declaration.kind = "class_declaration" ∨
        declaration.kind = "abstract_class_declaration")
      (isName : declaration.child? "name" = some target)
      (isPlain : target.kind = "identifier" ∨ target.kind = "type_identifier")
  | ofParameter (isKind : declaration.kind = "required_parameter" ∨
        declaration.kind = "optional_parameter")
      (isPattern : declaration.child? "pattern" = some target)
      (isPlain : target.kind = "identifier")

theorem Node.Declares.mem_children {declaration target : Node}
    (declares : declaration.Declares target) : target ∈ declaration.children := by
  cases declares with
  | ofVariable _ isName _ => exact Node.mem_children_of_child? isName
  | ofFunction _ isName _ => exact Node.mem_children_of_child? isName
  | ofClass _ isName _ => exact Node.mem_children_of_child? isName
  | ofParameter _ isPattern _ => exact Node.mem_children_of_child? isPattern

/-- The name that is looked at is the one that the declaration binds. -/
theorem Place.bindingName?_eq_some_iff {place : Place} {target : Node} :
    place.bindingName? = some target ↔ place.node.Declares target := by
  constructor
  · intro binds
    unfold Place.bindingName? at binds
    dsimp only at binds
    split_ifs at binds with isValue isClass isParameter
    · obtain ⟨isName, isPlain⟩ := Option.filter_eq_some_iff.mp binds
      rcases (Bool.or_eq_true _ _).mp isValue with isVariable | isFunction
      · exact .ofVariable (eq_of_beq isVariable) isName (eq_of_beq isPlain)
      · exact .ofFunction (by simpa [functionDeclarationKinds] using isFunction) isName
          (eq_of_beq isPlain)
    · obtain ⟨isName, isPlain⟩ := Option.filter_eq_some_iff.mp binds
      exact .ofClass (by simpa [classDeclarationKinds] using isClass) isName
        (by simpa [or_comm] using isPlain)
    · obtain ⟨isPattern, isPlain⟩ := Option.filter_eq_some_iff.mp binds
      exact .ofParameter (by simpa [parameterKinds] using isParameter) isPattern (eq_of_beq isPlain)
  · intro declares
    unfold Place.bindingName?
    cases declares with
    | ofVariable isKind isName isPlain => simp [isKind, isName, isPlain]
    | ofFunction isKind isName isPlain =>
        rcases isKind with isKind | isKind <;>
          simp [isKind, functionDeclarationKinds, isName, isPlain]
    | ofClass isKind isName isPlain =>
        rcases isKind with isKind | isKind <;>
          simp [isKind, functionDeclarationKinds, classDeclarationKinds, isName, isPlain.symm]
    | ofParameter isKind isPattern isPlain =>
        rcases isKind with isKind | isKind <;>
          simp [isKind, functionDeclarationKinds, classDeclarationKinds, parameterKinds, isPattern,
            isPlain]

namespace Source

/-! ## Visible declarations -/

/-- A declaration is visible at an identifier if it binds the name of the identifier at another
position and its scope encloses the identifier. -/
structure Visible (source : Source) (identifier : Node) (place : Place) (scope : Node) : Prop where
  binds : ∃ target name, place.node.Declares target ∧ source.text target = .ok name ∧
    source.text identifier = .ok name ∧ target.start ≠ identifier.start
  isScope : place.scope? = some scope
  encloses : scope.encloses identifier = true

/-- The identifier and every name that a declaration of the source binds can be read as text. -/
structure NamesRead (source : Source) (identifier : Node) : Prop where
  identifier : ∃ name, source.text identifier = .ok name
  bound : ∀ place ∈ source.root.places, ∀ target, place.node.Declares target →
    ∃ name, source.text target = .ok name

variable {source : Source} {identifier scope : Node} {place : Place} {name : String}

private theorem exists_visible?_iff :
    (∃ found, source.visible? identifier name place = .ok found) ↔
      ∀ target, place.node.Declares target → ∃ bound, source.text target = .ok bound := by
  simp only [← Place.bindingName?_eq_some_iff]
  unfold visible?
  cases place.bindingName? with
  | none => simp
  | some target =>
      cases isBound : source.text target with
      | error failure => simp [isBound, error_bind]
      | ok bound =>
          simp only [ok_bind, Option.some.injEq, forall_eq', isBound]
          split <;> simp

private theorem visible?_eq_some_iff (isNamed : source.text identifier = .ok name)
    {found : Node × Place} :
    source.visible? identifier name place = .ok (some found) ↔
      found.2 = place ∧ source.Visible identifier place found.1 := by
  obtain ⟨scope, other⟩ := found
  constructor
  · intro isVisible
    unfold visible? at isVisible
    cases isTarget : place.bindingName? with
    | none => simp [isTarget] at isVisible
    | some target =>
        rw [isTarget] at isVisible
        obtain ⟨bound, isBound, answered⟩ := bind_eq_ok_iff.mp isVisible
        split at answered
        · cases answered
        · rename_i differs
          obtain ⟨same, elsewhere⟩ := not_or.mp differs
          obtain rfl : bound = name := Decidable.not_not.mp same
          obtain ⟨_, isScope, found⟩ := Option.map_eq_some_iff.mp (Except.ok.inj answered)
          obtain ⟨isScope, encloses⟩ := Option.filter_eq_some_iff.mp isScope
          cases found
          have declares := Place.bindingName?_eq_some_iff.mp isTarget
          exact ⟨rfl, ⟨target, bound, declares, isBound, isNamed, elsewhere⟩, isScope, encloses⟩
  · rintro ⟨rfl, ⟨target, bound, declares, isBound, alsoNamed, elsewhere⟩, isScope, encloses⟩
    obtain rfl : bound = name := Except.ok.inj (alsoNamed.symm.trans isNamed)
    rw [visible?, Place.bindingName?_eq_some_iff.mpr declares, isScope]
    simp [isBound, ok_bind, elsewhere, encloses]

/-- A place with its scope, if it is the place of a visible declaration. -/
def seen (source : Source) (identifier : Node) (name : String) (place : Place) :
    Option (Node × Place) :=
  (source.visible? identifier name place).toOption.join

private theorem seen_eq_some_iff (isNamed : source.text identifier = .ok name)
    {found : Node × Place} :
    source.seen identifier name place = some found ↔
      found.2 = place ∧ source.Visible identifier place found.1 := by
  rw [← visible?_eq_some_iff isNamed, seen]
  cases source.visible? identifier name place <;> simp [Except.toOption]

private theorem filterMap_seen_eq_nil_iff (isNamed : source.text identifier = .ok name)
    {places : List Place} :
    places.filterMap (source.seen identifier name) = [] ↔
      ∀ place ∈ places, ∀ scope, ¬ source.Visible identifier place scope := by
  rw [List.filterMap_eq_nil_iff]
  refine forall₂_congr fun place _ => ?_
  rw [Option.eq_none_iff_forall_ne_some, Prod.forall]
  simp [seen_eq_some_iff isNamed]

/-- A declaration is looked up if all names can be read, and then chosen from the visible ones. -/
private theorem declarationOf_eq_ok_iff {answer : Option Place} :
    source.declarationOf identifier = .ok answer ↔
      ∃ name, source.text identifier = .ok name ∧ source.NamesRead identifier ∧
        choose identifier (source.root.places.filterMap (source.seen identifier name)) = answer := by
  constructor
  · intro answered
    obtain ⟨name, isNamed, looked⟩ := bind_eq_ok_iff.mp answered
    obtain ⟨candidates, gathered, chosen⟩ := bind_eq_ok_iff.mp looked
    obtain ⟨answers, rfl⟩ := gather_eq_ok_iff.mp gathered
    refine ⟨name, isNamed, ⟨⟨name, isNamed⟩, ?_⟩, Except.ok.inj chosen⟩
    exact fun place member => exists_visible?_iff.mp (answers place member)
  · rintro ⟨name, isNamed, readable, rfl⟩
    refine bind_eq_ok_iff.mpr ⟨name, isNamed, bind_eq_ok_iff.mpr ⟨_, ?_, rfl⟩⟩
    refine gather_eq_ok_iff.mpr ⟨?_, rfl⟩
    exact fun place member => exists_visible?_iff.mpr (readable.bound place member)

/-! ## The choice among candidates -/

section Choice

variable {α : Type} {items : List α} {item : α} {accepted : α → Bool}

/-- The first accepted item stands before all others. -/
private theorem split_of_head?_filter (isFirst : (items.filter accepted).head? = some item) :
    ∃ before after, items = before ++ item :: after ∧ accepted item = true ∧
      ∀ other ∈ before, accepted other = false := by
  rw [List.head?_filter, List.find?_eq_some_iff_append] at isFirst
  obtain ⟨isAccepted, before, after, split, earlier⟩ := isFirst
  exact ⟨before, after, split, isAccepted, by simpa using earlier⟩

/-- The last accepted item stands behind all others. -/
private theorem split_of_getLast?_filter (isLast : (items.filter accepted).getLast? = some item) :
    ∃ before after, items = before ++ item :: after ∧ accepted item = true ∧
      ∀ other ∈ after, accepted other = false := by
  rw [List.getLast?_eq_head?_reverse, ← List.filter_reverse] at isLast
  obtain ⟨after, before, split, isAccepted, later⟩ := split_of_head?_filter isLast
  refine ⟨before.reverse, after.reverse, ?_, isAccepted, by simpa using later⟩
  simpa using congrArg List.reverse split

/-- An item found in the middle comes from the middle. -/
private theorem split_of_filterMap {β : Type} {rule : α → Option β} {found : β}
    {foundBefore foundAfter : List β}
    (split : items.filterMap rule = foundBefore ++ found :: foundAfter) :
    ∃ before item after, items = before ++ item :: after ∧ before.filterMap rule = foundBefore ∧
      rule item = some found ∧ after.filterMap rule = foundAfter := by
  obtain ⟨front, rest, rfl, isBefore, remaining⟩ := List.filterMap_eq_append_iff.mp split
  obtain ⟨passed, item, after, rfl, nothing, isFound, isAfter⟩ :=
    List.filterMap_eq_cons_iff.mp remaining
  refine ⟨front ++ passed, item, after, by simp, ?_, isFound, isAfter⟩
  rw [List.filterMap_append, isBefore, List.filterMap_eq_nil_iff.mpr nothing, List.append_nil]

end Choice

variable {candidates : List (Node × Place)}

private theorem smallest_of_min? {smallest : Nat}
    (isSmallest : (candidates.map fun candidate => candidate.1.extent).min? = some smallest) :
    (∃ candidate ∈ candidates, candidate.1.extent = smallest) ∧
      ∀ candidate ∈ candidates, smallest ≤ candidate.1.extent := by
  obtain ⟨attained, least⟩ := List.min?_eq_some_iff.mp isSmallest
  exact ⟨List.mem_map.mp attained, fun candidate member => least _ (List.mem_map_of_mem member)⟩

/-- Something is chosen unless there is nothing to choose from. -/
private theorem choose_eq_none_iff : choose identifier candidates = none ↔ candidates = [] := by
  constructor
  · intro nothing
    unfold choose at nothing
    split at nothing
    · rename_i noSmallest
      simpa using noSmallest
    · rename_i smallest isSmallest
      obtain ⟨⟨candidate, member, isInnermost⟩, _⟩ := smallest_of_min? isSmallest
      dsimp only at nothing
      split at nothing
      · cases nothing
      · rw [List.head?_eq_none_iff, List.map_eq_nil_iff, List.filter_eq_nil_iff] at nothing
        exact absurd (decide_eq_true isInnermost) (nothing candidate member)
  · rintro rfl
    rfl

/-- What is chosen has the smallest scope. No candidate with so small a scope that begins before the
identifier follows it, and it is the first one with so small a scope unless it begins before the
identifier. -/
private theorem split_of_choose (chosen : choose identifier candidates = some place) :
    ∃ scope before after, candidates = before ++ (scope, place) :: after ∧
      (∀ other ∈ candidates, scope.extent ≤ other.1.extent) ∧
      (∀ other ∈ after, other.1.extent = scope.extent →
        identifier.start ≤ other.2.node.start) ∧
      (identifier.start ≤ place.node.start →
        ∀ other ∈ before, other.1.extent ≠ scope.extent) := by
  unfold choose at chosen
  split at chosen
  · cases chosen
  rename_i smallest isSmallest
  obtain ⟨_, least⟩ := smallest_of_min? isSmallest
  dsimp only at chosen
  rw [List.filter_map, List.getLast?_map, List.filter_filter] at chosen
  split at chosen
  · rename_i latest isLatest
    obtain rfl := Option.some.inj chosen
    obtain ⟨⟨scope, place⟩, isLast, rfl⟩ := Option.map_eq_some_iff.mp isLatest
    obtain ⟨before, after, split, isAccepted, later⟩ := split_of_getLast?_filter isLast
    simp only [Function.comp, Bool.and_eq_true, decide_eq_true_iff] at isAccepted
    obtain ⟨begins, rfl⟩ := isAccepted
    refine ⟨scope, before, after, split, least, ?_, ?_⟩
    · intro other isLater same
      simpa [same] using later other isLater
    · intro beyond
      exact absurd begins (Nat.not_lt.mpr beyond)
  · rename_i noneBefore
    rw [List.head?_map] at chosen
    obtain ⟨⟨scope, place⟩, isFirst, rfl⟩ := Option.map_eq_some_iff.mp chosen
    obtain ⟨before, after, split, isAccepted, earlier⟩ := split_of_head?_filter isFirst
    obtain rfl := of_decide_eq_true isAccepted
    refine ⟨scope, before, after, split, least, ?_, ?_⟩
    · intro other isLater same
      have member : other ∈ candidates := by simp [split, isLater]
      simp only [Option.map_eq_none_iff, List.getLast?_eq_none_iff, List.filter_eq_nil_iff]
        at noneBefore
      simpa [same] using noneBefore other member
    · intro _ other isEarlier
      exact of_decide_eq_false (earlier other isEarlier)

/-- What an identifier is resolved to is a visible declaration of the source. -/
theorem visible_of_declarationOf (answered : source.declarationOf identifier = .ok (some place)) :
    place ∈ source.root.places ∧ ∃ scope, source.Visible identifier place scope := by
  obtain ⟨name, isNamed, _, chosen⟩ := declarationOf_eq_ok_iff.mp answered
  obtain ⟨scope, _, _, split, _⟩ := split_of_choose chosen
  have isCandidate : (scope, place) ∈ source.root.places.filterMap (source.seen identifier name) := by
    simp [split]
  obtain ⟨item, member, isFound⟩ := List.mem_filterMap.mp isCandidate
  obtain ⟨rfl, isVisible⟩ := (seen_eq_some_iff isNamed).mp isFound
  exact ⟨member, scope, isVisible⟩

/-- What an identifier without an answer is, nothing declares. -/
theorem not_visible_of_declarationOf (unresolved : source.declarationOf identifier = .ok none)
    (member : place ∈ source.root.places) : ¬ source.Visible identifier place scope := by
  obtain ⟨name, isNamed, _, nothing⟩ := declarationOf_eq_ok_iff.mp unresolved
  exact (filterMap_seen_eq_nil_iff isNamed).mp (choose_eq_none_iff.mp nothing) place member scope

/-- The one declaration that is visible at an identifier. -/
structure OnlyVisible (source : Source) (identifier : Node) (place : Place) : Prop where
  isPlace : place ∈ source.root.places
  isVisible : ∃ scope, source.Visible identifier place scope
  alone : ∀ other ∈ source.root.places, ∀ scope, source.Visible identifier other scope →
    other = place

theorem OnlyVisible.eq_of_declarationOf (only : source.OnlyVisible identifier place)
    {answer : Option Place} (answered : source.declarationOf identifier = .ok answer) :
    answer = some place := by
  cases answer with
  | none =>
      obtain ⟨scope, isVisible⟩ := only.isVisible
      exact absurd isVisible (not_visible_of_declarationOf answered only.isPlace)
  | some other =>
      obtain ⟨isOther, scope, isVisible⟩ := visible_of_declarationOf answered
      rw [only.alone other isOther scope isVisible]

/-- A place that is seen is the only visible declaration if a single place of the tree is seen. -/
theorem onlyVisible_of_seen (isNamed : source.text identifier = .ok name)
    (member : place ∈ source.root.places)
    (isSeen : (source.seen identifier name place).isSome = true)
    (alone : (source.root.places.filter fun other =>
      (source.seen identifier name other).isSome).length = 1) :
    source.OnlyVisible identifier place := by
  obtain ⟨found, isFound⟩ := Option.isSome_iff_exists.mp isSeen
  obtain ⟨rfl, isVisible⟩ := (seen_eq_some_iff isNamed).mp isFound
  refine ⟨member, ⟨found.1, isVisible⟩, fun other isOther scope alsoVisible => ?_⟩
  have alsoSeen : source.seen identifier name other = some (scope, other) :=
    (seen_eq_some_iff isNamed).mpr ⟨rfl, alsoVisible⟩
  obtain ⟨single, isSingle⟩ := List.length_eq_one_iff.mp alone
  have same : ∀ {candidate : Place}, candidate ∈ source.root.places →
      (source.seen identifier name candidate).isSome = true → candidate = single := by
    intro candidate isCandidate isSeen
    rw [← List.mem_singleton, ← isSingle]
    exact List.mem_filter.mpr ⟨isCandidate, isSeen⟩
  exact (same isOther (by rw [alsoSeen, Option.isSome_some])).trans (same member isSeen).symm

/-! ## The innermost scope -/

theorem Visible.mem_walk (isVisible : source.Visible identifier place scope)
    (member : place ∈ source.root.places) : scope ∈ source.root.walk := by
  have isScope := isVisible.isScope
  unfold Place.scope? at isScope
  split at isScope
  · exact Node.mem_walk_of_mem_above member (List.mem_of_find?_eq_some isScope)
  · exact Node.mem_walk_of_mem_above member (List.mem_of_find?_eq_some isScope)

/-- Of two scopes around one identifier the longer one encloses the other. -/
private theorem encloses_of_extent_le {root other : Node} (wellFormed : root.WellFormed)
    (nonempty : identifier.start < identifier.stop) (isScope : scope ∈ root.walk)
    (isOther : other ∈ root.walk) (encloses : scope.encloses identifier = true)
    (alsoEncloses : other.encloses identifier = true) (shorter : scope.extent ≤ other.extent) :
    other.encloses scope = true := by
  have related := wellFormed.nested_or_apart isScope isOther
  simp only [Node.encloses_iff, Node.Apart, Node.extent] at *
  omega

/-- A declaration of the scope is the one that an identifier is resolved to: its scope lies within the
scopes of all visible declarations. Among those with the same scope no later one begins before the
identifier, and if it does not do so itself, it is the first of them. -/
structure Innermost (source : Source) (identifier : Node) (place : Place) (scope : Node) : Prop where
  isVisible : source.Visible identifier place scope
  within : ∀ other ∈ source.root.places, ∀ otherScope,
    source.Visible identifier other otherScope → otherScope.encloses scope = true
  chosen : ∃ before after, source.root.places = before ++ place :: after ∧
    (∀ other ∈ after, ∀ otherScope, source.Visible identifier other otherScope →
      otherScope.start = scope.start → otherScope.stop = scope.stop →
        identifier.start ≤ other.node.start) ∧
    (identifier.start ≤ place.node.start →
      ∀ other ∈ before, ∀ otherScope, source.Visible identifier other otherScope →
        ¬ (otherScope.start = scope.start ∧ otherScope.stop = scope.stop))

private theorem innermost_of_declarationOf (wellFormed : source.root.WellFormed)
    (nonempty : identifier.start < identifier.stop)
    (answered : source.declarationOf identifier = .ok (some place)) :
    ∃ scope, source.Innermost identifier place scope := by
  obtain ⟨name, isNamed, _, chosen⟩ := declarationOf_eq_ok_iff.mp answered
  obtain ⟨scope, foundBefore, foundAfter, split, least, later, earlier⟩ := split_of_choose chosen
  obtain ⟨before, item, after, places, isBefore, isFound, isAfter⟩ := split_of_filterMap split
  obtain ⟨rfl, isVisible⟩ := (seen_eq_some_iff isNamed).mp isFound
  have member : place ∈ source.root.places := by simp [places]
  -- Each list of places is told by what is visible in it.
  have seenIn : ∀ {places : List Place} {other : Place} {otherScope : Node}, other ∈ places →
      source.Visible identifier other otherScope →
        (otherScope, other) ∈ places.filterMap (source.seen identifier name) := by
    intro places other otherScope isOther alsoVisible
    exact List.mem_filterMap.mpr
      ⟨other, isOther, (seen_eq_some_iff isNamed).mpr ⟨rfl, alsoVisible⟩⟩
  refine ⟨scope, isVisible, ?_, before, after, places, ?_, ?_⟩
  · intro other isOther otherScope alsoVisible
    exact encloses_of_extent_le wellFormed nonempty (isVisible.mem_walk member)
      (alsoVisible.mem_walk isOther) isVisible.encloses alsoVisible.encloses
      (least _ (seenIn isOther alsoVisible))
  · intro other isLater otherScope alsoVisible sameStart sameStop
    refine later (otherScope, other) (isAfter ▸ seenIn isLater alsoVisible) ?_
    rw [Node.extent, Node.extent, sameStart, sameStop]
  · rintro beyond other isEarlier otherScope alsoVisible ⟨sameStart, sameStop⟩
    refine earlier beyond (otherScope, other) (isBefore ▸ seenIn isEarlier alsoVisible) ?_
    rw [Node.extent, Node.extent, sameStart, sameStop]

/-- An identifier is resolved whenever all names can be read. It is resolved to nothing exactly if no
declaration is visible at it, and otherwise to a visible declaration with the innermost scope. -/
theorem declarationOf_innermost (wellFormed : source.root.WellFormed)
    (nonempty : identifier.start < identifier.stop) :
    ((∃ answer, source.declarationOf identifier = .ok answer) ↔ source.NamesRead identifier) ∧
      (source.NamesRead identifier →
        (source.declarationOf identifier = .ok none ↔
          ∀ place ∈ source.root.places, ∀ scope, ¬ source.Visible identifier place scope)) ∧
      ∀ place, source.declarationOf identifier = .ok (some place) →
        ∃ scope, source.Innermost identifier place scope := by
  refine ⟨?_, ?_, ?_⟩
  · constructor
    · rintro ⟨answer, answered⟩
      obtain ⟨_, _, readable, _⟩ := declarationOf_eq_ok_iff.mp answered
      exact readable
    · intro readable
      obtain ⟨name, isNamed⟩ := readable.identifier
      exact ⟨_, declarationOf_eq_ok_iff.mpr ⟨name, isNamed, readable, rfl⟩⟩
  · intro readable
    obtain ⟨name, isNamed⟩ := readable.identifier
    rw [declarationOf_eq_ok_iff, ← filterMap_seen_eq_nil_iff isNamed, ← choose_eq_none_iff]
    constructor
    · rintro ⟨other, alsoNamed, _, nothing⟩
      obtain rfl : other = name := Except.ok.inj (alsoNamed.symm.trans isNamed)
      exact nothing
    · intro nothing
      exact ⟨name, isNamed, readable, nothing⟩
  · intro place answered
    exact innermost_of_declarationOf wellFormed nonempty answered

/-- The declaration `var a;`. -/
def varDeclaration (start : Nat) : Node :=
  ⟨"variable_declaration", start, start + 6, true, false, none, [
    ⟨"var", start, start + 3, false, false, none, []⟩,
    ⟨"variable_declarator", start + 4, start + 5, true, false, none,
      [⟨"identifier", start + 4, start + 5, true, false, some "name", []⟩]⟩,
    ⟨";", start + 5, start + 6, false, false, none, []⟩]⟩

/-- A use of a variable between two declarations of it in a function. Its name is also that of a
parameter, of the function, and of a class around. -/
def nestedSource : Source :=
  ⟨⟨.root, ["a.ts"]⟩,
    Utf8.encode "class a \x7b\x7d \x7b function a(a: D) \x7b var a; a; var a; \x7d \x7d", .typescript,
    ⟨"program", 0, 52, true, false, none, [
      ⟨"class_declaration", 0, 10, true, false, none, [
        ⟨"class", 0, 5, false, false, none, []⟩,
        ⟨"type_identifier", 6, 7, true, false, some "name", []⟩,
        ⟨"class_body", 8, 10, true, false, some "body", [
          ⟨"\x7b", 8, 9, false, false, none, []⟩,
          ⟨"\x7d", 9, 10, false, false, none, []⟩]⟩]⟩,
      ⟨"statement_block", 11, 52, true, false, none, [
        ⟨"\x7b", 11, 12, false, false, none, []⟩,
        ⟨"function_declaration", 13, 50, true, false, none, [
          ⟨"function", 13, 21, false, false, none, []⟩,
          ⟨"identifier", 22, 23, true, false, some "name", []⟩,
          ⟨"formal_parameters", 23, 29, true, false, some "parameters", [
            ⟨"(", 23, 24, false, false, none, []⟩,
            ⟨"required_parameter", 24, 28, true, false, none, [
              ⟨"identifier", 24, 25, true, false, some "pattern", []⟩,
              ⟨"type_annotation", 25, 28, true, false, some "type", [
                ⟨":", 25, 26, false, false, none, []⟩,
                ⟨"type_identifier", 27, 28, true, false, none, []⟩]⟩]⟩,
            ⟨")", 28, 29, false, false, none, []⟩]⟩,
          ⟨"statement_block", 30, 50, true, false, some "body", [
            ⟨"\x7b", 30, 31, false, false, none, []⟩,
            varDeclaration 32,
            ⟨"expression_statement", 39, 41, true, false, none, [
              ⟨"identifier", 39, 40, true, false, none, []⟩,
              ⟨";", 40, 41, false, false, none, []⟩]⟩,
            varDeclaration 42,
            ⟨"\x7d", 49, 50, false, false, none, []⟩]⟩]⟩,
        ⟨"\x7d", 51, 52, false, false, none, []⟩]⟩]⟩⟩

/-- Declarations of every kind are visible. The one before the use is taken, whose scope is the
function: neither the one after it, nor the parameter, nor what is declared around the function. -/
theorem declarationOf_innermost_of_nested :
    let identifier : Node := ⟨"identifier", 39, 40, true, false, none, []⟩
    nestedSource.root.WellFormed ∧ identifier.start < identifier.stop ∧
      nestedSource.NamesRead identifier ∧ nestedSource.declarationOf identifier ≠ .ok none ∧
      (∀ kind ∈ ["class_declaration", "function_declaration", "required_parameter",
          "variable_declarator"], ∃ place ∈ nestedSource.root.places, place.node.kind = kind ∧
        ∃ scope, nestedSource.Visible identifier place scope) ∧
      ∃ place scope, nestedSource.declarationOf identifier = .ok (some place) ∧
        place.node.kind = "variable_declarator" ∧ place.node.start = 36 ∧
        scope.kind = "function_declaration" ∧ nestedSource.Innermost identifier place scope := by
  intro identifier
  have wellFormed : nestedSource.root.WellFormed := by decide +kernel
  have nonempty : identifier.start < identifier.stop := by decide
  have isOk : (nestedSource.declarationOf identifier).isOk = true := by decide +kernel
  have properties : ∀ answer, nestedSource.declarationOf identifier = .ok answer →
      answer.map (fun place =>
          (place.node.kind, place.node.start, place.scope?.map Node.kind)) =
        some ("variable_declarator", 36, some "function_declaration") := by
    decide +kernel
  have areSeen : ∀ kind ∈ ["class_declaration", "function_declaration", "required_parameter",
      "variable_declarator"], ∃ place ∈ nestedSource.root.places, place.node.kind = kind ∧
        (nestedSource.seen identifier "a" place).isSome = true := by
    decide +kernel
  obtain ⟨answer, answered⟩ := exists_of_isOk isOk
  obtain ⟨place, rfl, isPlace⟩ := Option.map_eq_some_iff.mp (properties answer answered)
  simp only [Prod.mk.injEq] at isPlace
  obtain ⟨isKind, start, scopeKind⟩ := isPlace
  obtain ⟨reads, _, resolves⟩ := declarationOf_innermost wellFormed nonempty
  obtain ⟨scope, innermost⟩ := resolves place answered
  rw [innermost.isVisible.isScope] at scopeKind
  refine ⟨wellFormed, nonempty, reads.mp ⟨_, answered⟩, ?_, ?_, place, scope, answered, isKind, start,
    Option.some.inj scopeKind, innermost⟩
  · rw [answered]
    simp
  · intro kind isKind
    obtain ⟨other, isOther, sameKind, isSeen⟩ := areSeen kind isKind
    obtain ⟨⟨otherScope, _⟩, found⟩ := Option.isSome_iff_exists.mp isSeen
    obtain ⟨rfl, isVisible⟩ := (seen_eq_some_iff (by decide +kernel)).mp found
    exact ⟨_, isOther, sameKind, otherScope, isVisible⟩

end Source

end ImportBoundary
