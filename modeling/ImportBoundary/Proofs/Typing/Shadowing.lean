import ImportBoundary.Proofs.Import.Placement
import ImportBoundary.Proofs.Typing.Parameters

/-!
Contract: a parameter hides the declarations around its function.

Owns the ways in which a function binds a name as a parameter, and which of them hide an outer
declaration of the name in the body.

Main statement: `declarationOf_within_function`. Only a typed parameter with a plain name counts as a
declaration. A parameter without parentheses, one that carries no type because the grammar has none,
and a name in a pattern do not, so an outer value of the same name stays visible in the body.
-/

namespace ImportBoundary.Source

/-- A function binds a name by a typed parameter. -/
structure BindsTyped (source : Source) (function : Node) (name : String)
    (list parameter target : Node) : Prop where
  isList : function.child? "parameters" = some list
  list_kind : list.kind = "formal_parameters"
  isParameter : parameter ∈ list.children
  isTyped : parameterKinds.contains parameter.kind = true
  isTarget : parameter.child? "pattern" = some target
  isPlain : target.kind = "identifier"
  isNamed : source.text target = .ok name

variable {source : Source} {function list parameter target body identifier : Node} {name : String}
  {above : List Node}

namespace BindsTyped

/-- The place of the parameter, below the place of the function. -/
theorem mem_places (binds : source.BindsTyped function name list parameter target)
    (isPlace : ⟨function, above⟩ ∈ source.root.places) :
    ⟨parameter, list :: function :: above⟩ ∈ source.root.places := by
  have listPlace : ⟨list, function :: above⟩ ∈ source.root.places :=
    Node.mem_places_of_child isPlace (Node.mem_children_of_child? binds.isList)
  exact Node.mem_places_of_child listPlace binds.isParameter

theorem declares (binds : source.BindsTyped function name list parameter target) :
    parameter.Declares target := by
  have isTyped := binds.isTyped
  have isKind : parameter.kind = "required_parameter" ∨ parameter.kind = "optional_parameter" := by
    simpa [parameterKinds] using isTyped
  exact .ofParameter isKind binds.isTarget binds.isPlain

/-- A parameter of a function is visible in the whole function. -/
theorem scope? (binds : source.BindsTyped function name list parameter target)
    (isFunction : function.isFunctionScope = true) :
    Place.scope? ⟨parameter, list :: function :: above⟩ = some function := by
  have isOwned : Place.owner? ⟨parameter, list :: function :: above⟩ = some (function, above) := by
    simp [Place.owner?, binds.list_kind, -List.contains_eq_mem, binds.isTyped]
  rw [Place.scope?_of_owner? isOwned, List.find?_cons, isFunction]

/-- The name of a parameter stands elsewhere than the names in the body: the parameter list and the
body are different parts of the function, and no name is empty. -/
theorem start_ne (binds : source.BindsTyped function name list parameter target)
    (wellFormed : function.WellFormed) (isBody : function.child? "body" = some body)
    (inBody : identifier ∈ body.walk) (isNamed : source.text identifier = .ok name)
    (nonempty : name ≠ "") : target.start ≠ identifier.start := by
  have isList := Node.mem_children_of_child? binds.isList
  have isPart := Node.mem_children_of_child? isBody
  have different : list ≠ body := by
    rintro rfl
    have asList := List.find?_some binds.isList
    have asBody := List.find?_some isBody
    rw [beq_iff_eq] at asList asBody
    rw [asList] at asBody
    exact absurd asBody (by decide)
  have apart := (wellFormed function (Node.mem_walk_self function)).apart_of_ne isList isPart different
  have inList : target ∈ list.walk :=
    Node.mem_walk_of_child binds.isParameter (Node.mem_walk_of_child
      (Node.mem_children_of_child? binds.isTarget) (Node.mem_walk_self target))
  have ofList := (wellFormed.child isList).enclosed inList
  have ofBody := (wellFormed.child isPart).enclosed inBody
  have targetWritten := start_lt_stop_of_text binds.isNamed nonempty
  have nameWritten := start_lt_stop_of_text isNamed nonempty
  unfold Node.Apart at apart
  omega

end BindsTyped

/-- In the body of a function that binds a name by a typed parameter, the name is resolved, and to
nothing whose scope reaches beyond the function. -/
theorem declarationOf_within_function (wellFormed : source.root.WellFormed)
    (inTree : function ∈ source.root.walk) (isFunction : function.isFunctionScope = true)
    (binds : source.BindsTyped function name list parameter target)
    (isBody : function.child? "body" = some body) (inBody : identifier ∈ body.walk)
    (isNamed : source.text identifier = .ok name) (nonempty : name ≠ "") :
    source.declarationOf identifier ≠ .ok none ∧
      ∀ place, source.declarationOf identifier = .ok (some place) →
        ∃ scope, place.scope? = some scope ∧ function.encloses scope = true := by
  obtain ⟨⟨function, above⟩, isPlace, rfl⟩ := Node.exists_place inTree
  have ofFunction : function.WellFormed :=
    fun inner within => wellFormed inner (Node.mem_walk_trans inTree within)
  have inFunction : identifier ∈ function.walk :=
    Node.mem_walk_of_child (Node.mem_children_of_child? isBody) inBody
  have isVisible : source.Visible identifier ⟨parameter, list :: function :: above⟩ function :=
    { binds := ⟨target, name, binds.declares, binds.isNamed, isNamed,
        binds.start_ne ofFunction isBody inBody isNamed nonempty⟩
      isScope := binds.scope? isFunction
      encloses := Node.encloses_iff.mpr (ofFunction.enclosed inFunction) }
  have isDeclared := binds.mem_places isPlace
  obtain ⟨reads, resolves, chosen⟩ :=
    declarationOf_innermost wellFormed (start_lt_stop_of_text isNamed nonempty)
  constructor
  · intro unresolved
    have nothing := (resolves (reads.mp ⟨none, unresolved⟩)).mp unresolved
    exact nothing _ isDeclared _ isVisible
  · intro place answered
    obtain ⟨scope, innermost⟩ := chosen place answered
    exact ⟨scope, innermost.isVisible.isScope, innermost.within _ isDeclared _ isVisible⟩

/-! ## Functions that answer their parameter -/

/-- The name that an arrow function with this parameter part answers. -/
def answeredName (parameter : Node) : Node :=
  ⟨"identifier", parameter.stop + 4, parameter.stop + 5, true, false, some "body", []⟩

def arrowOf (parameter : Node) : Node :=
  ⟨"arrow_function", parameter.start, parameter.stop + 5, true, false, none, [
    parameter,
    ⟨"=>", parameter.stop + 1, parameter.stop + 3, false, false, none, []⟩,
    answeredName parameter]⟩

/-- The declaration of a variable `b`, and behind it an arrow function that answers `b`. -/
def arrowSource (language : Language) (written : String) (parameter : Node) : Source :=
  ⟨⟨.root, ["a.tsx"]⟩, Utf8.encode ("const b = 1; " ++ written ++ " => b;"), language,
    ⟨"program", 0, parameter.stop + 6, true, false, none, [
      ⟨"lexical_declaration", 0, 12, true, false, none, [
        ⟨"const", 0, 5, false, false, some "kind", []⟩,
        ⟨"variable_declarator", 6, 11, true, false, none, [
          ⟨"identifier", 6, 7, true, false, some "name", []⟩,
          ⟨"=", 8, 9, false, false, none, []⟩,
          ⟨"number", 10, 11, true, false, some "value", []⟩]⟩,
        ⟨";", 11, 12, false, false, none, []⟩]⟩,
      ⟨"expression_statement", 13, parameter.stop + 6, true, false, none, [
        arrowOf parameter,
        ⟨";", parameter.stop + 5, parameter.stop + 6, false, false, none, []⟩]⟩]⟩⟩

private theorem arrowOf_mem_walk (language : Language) (written : String) (parameter : Node) :
    arrowOf parameter ∈ (arrowSource language written parameter).root.walk :=
  Node.mem_walk_of_child (.tail _ (.head _))
    (Node.mem_walk_of_child (.head _) (Node.mem_walk_self (arrowOf parameter)))

/-- Behind `const b = 1;`, the function `(b: D) => b` answers its parameter. -/
theorem declarationOf_within_function_of_arrow :
    let source := arrowSource .tsx "(b: D)" (parameterList 13)
    let function := arrowOf (parameterList 13)
    let identifier := answeredName (parameterList 13)
    source.root.WellFormed ∧ function ∈ source.root.walk ∧ function.isFunctionScope = true ∧
      (∃ list parameter target, source.BindsTyped function "b" list parameter target) ∧
      function.child? "body" = some identifier ∧ source.text identifier = .ok "b" ∧ "b" ≠ "" ∧
      source.declarationOf identifier ≠ .ok none ∧
      ∃ place, source.declarationOf identifier = .ok (some place) ∧
        ∃ scope, place.scope? = some scope ∧ function.encloses scope = true := by
  intro source function identifier
  have wellFormed : source.root.WellFormed := by decide +kernel
  have inTree : function ∈ source.root.walk := arrowOf_mem_walk _ _ _
  have isFunction : function.isFunctionScope = true := by decide
  have binds : source.BindsTyped function "b" (parameterList 13)
      ⟨"required_parameter", 14, 18, true, false, none, [
        ⟨"identifier", 14, 15, true, false, some "pattern", []⟩,
        ⟨"type_annotation", 15, 18, true, false, some "type", [
          ⟨":", 15, 16, false, false, none, []⟩,
          ⟨"type_identifier", 17, 18, true, false, none, []⟩]⟩]⟩
      ⟨"identifier", 14, 15, true, false, some "pattern", []⟩ :=
    { isList := rfl
      list_kind := rfl
      isParameter := .tail _ (.head _)
      isTyped := by decide
      isTarget := rfl
      isPlain := rfl
      isNamed := eq_ok_of_toOption (by decide +kernel) }
  have isNamed : source.text identifier = .ok "b" := eq_ok_of_toOption (by decide +kernel)
  have inBody : identifier ∈ identifier.walk := Node.mem_walk_self identifier
  obtain ⟨resolved, within⟩ := declarationOf_within_function wellFormed inTree isFunction binds rfl
    inBody isNamed (by decide)
  obtain ⟨answer, answered⟩ : ∃ answer, source.declarationOf identifier = .ok answer :=
    exists_of_isOk (by decide +kernel)
  cases answer with
  | none => exact absurd answered resolved
  | some place =>
      exact ⟨wellFormed, inTree, isFunction, ⟨_, _, _, binds⟩, rfl, isNamed, by decide, resolved,
        place, answered, within place answered⟩

/-! ## Parameters that hide nothing -/

/-- A function binds a name by a parameter that is no declaration of its own: the only parameter
without parentheses, a plain name in a parameter list, or a name in a pattern. -/
inductive BindsUntyped (source : Source) (function : Node) (name : String) : Prop where
  | single {target : Node} (isParameter : function.child? "parameter" = some target)
      (isNamed : source.text target = .ok name)
  | listed {list target : Node} (isList : function.child? "parameters" = some list)
      (isParameter : target ∈ list.children) (isPlain : target.kind = "identifier")
      (isNamed : source.text target = .ok name)
  | inPattern {list parameter pattern target : Node}
      (isList : function.child? "parameters" = some list) (isParameter : parameter ∈ list.children)
      (isPattern : parameter.child? "pattern" = some pattern) (within : target ∈ pattern.children)
      (isShort : target.kind = "shorthand_property_identifier_pattern")
      (isNamed : source.text target = .ok name)

/-- A name in the body of a function is resolved to a declaration that is visible around the
function as well. -/
structure Overlooks (source : Source) (function : Node) (name : String) (identifier : Node) :
    Prop where
  wellFormed : source.root.WellFormed
  inTree : function ∈ source.root.walk
  isFunction : function.isFunctionScope = true
  isNamed : source.text identifier = .ok name
  inBody : ∃ body, function.child? "body" = some body ∧ identifier ∈ body.walk
  reachesOut : ∃ place scope, source.declarationOf identifier = .ok (some place) ∧
    place.scope? = some scope ∧ scope.encloses function = true ∧ function.encloses scope = false

private theorem overlooks_arrowOf {language : Language} {written : String} {parameter : Node}
    (wellFormed : (arrowSource language written parameter).root.WellFormed)
    (isBody : (arrowOf parameter).child? "body" = some (answeredName parameter))
    (isNamed : ((arrowSource language written parameter).text
      (answeredName parameter)).toOption = some "b")
    (isOk : ((arrowSource language written parameter).declarationOf
      (answeredName parameter)).isOk = true)
    (reaches : ∀ answer, (arrowSource language written parameter).declarationOf
      (answeredName parameter) = .ok answer →
        (answer.bind Place.scope?).map (fun scope =>
          (scope.encloses (arrowOf parameter), (arrowOf parameter).encloses scope)) =
            some (true, false)) :
    (arrowSource language written parameter).Overlooks (arrowOf parameter) "b"
      (answeredName parameter) := by
  obtain ⟨answer, answered⟩ := exists_of_isOk isOk
  obtain ⟨scope, found, told⟩ := Option.map_eq_some_iff.mp (reaches answer answered)
  obtain ⟨place, rfl, isScope⟩ := Option.bind_eq_some_iff.mp found
  obtain ⟨around, beyond⟩ := Prod.mk.inj told
  exact
    { wellFormed := wellFormed
      inTree := arrowOf_mem_walk _ _ _
      isFunction := show functionScopeKinds.contains "arrow_function" = true by decide
      isNamed := eq_ok_of_toOption isNamed
      inBody := ⟨_, isBody, Node.mem_walk_self _⟩
      reachesOut := ⟨place, scope, answered, isScope, around, beyond⟩ }

/-- The parameter `b`. -/
def singleParameter : Node := ⟨"identifier", 13, 14, true, false, some "parameter", []⟩

/-- The parameter list `(b)` of a language without types. -/
def untypedList : Node :=
  ⟨"formal_parameters", 13, 16, true, false, some "parameters", [
    ⟨"(", 13, 14, false, false, none, []⟩,
    ⟨"identifier", 14, 15, true, false, none, []⟩,
    ⟨")", 15, 16, false, false, none, []⟩]⟩

/-- The parameter list `({ b })`. -/
def patternList : Node :=
  ⟨"formal_parameters", 13, 20, true, false, some "parameters", [
    ⟨"(", 13, 14, false, false, none, []⟩,
    ⟨"required_parameter", 14, 19, true, false, none, [
      ⟨"object_pattern", 14, 19, true, false, some "pattern", [
        ⟨"\x7b", 14, 15, false, false, none, []⟩,
        ⟨"shorthand_property_identifier_pattern", 16, 17, true, false, none, []⟩,
        ⟨"\x7d", 18, 19, false, false, none, []⟩]⟩]⟩,
    ⟨")", 19, 20, false, false, none, []⟩]⟩

/-- In `b => b`, in `(b) => b` of a language without types, and in `({ b }) => b`, the name is
resolved to the variable `b` around the function. -/
theorem parameter_hides_nothing :
    let single := arrowSource .tsx "b" singleParameter
    let listed := arrowSource .javascript "(b)" untypedList
    let inPattern := arrowSource .tsx "(\x7b b \x7d)" patternList
    (single.BindsUntyped (arrowOf singleParameter) "b" ∧
        single.Overlooks (arrowOf singleParameter) "b" (answeredName singleParameter)) ∧
      (listed.BindsUntyped (arrowOf untypedList) "b" ∧
        listed.Overlooks (arrowOf untypedList) "b" (answeredName untypedList)) ∧
      inPattern.BindsUntyped (arrowOf patternList) "b" ∧
        inPattern.Overlooks (arrowOf patternList) "b" (answeredName patternList) := by
  intro single listed inPattern
  refine ⟨⟨?_, ?_⟩, ⟨?_, ?_⟩, ?_, ?_⟩
  · exact .single rfl (eq_ok_of_toOption (by decide +kernel))
  · exact overlooks_arrowOf (by decide +kernel) rfl (by decide +kernel) (by decide +kernel)
      (by decide +kernel)
  · exact .listed rfl (.tail _ (.head _)) rfl (eq_ok_of_toOption (by decide +kernel))
  · exact overlooks_arrowOf (by decide +kernel) rfl (by decide +kernel) (by decide +kernel)
      (by decide +kernel)
  · exact .inPattern rfl (.tail _ (.head _)) rfl (.tail _ (.head _)) rfl
      (eq_ok_of_toOption (by decide +kernel))
  · exact overlooks_arrowOf (by decide +kernel) rfl (by decide +kernel) (by decide +kernel)
      (by decide +kernel)

end ImportBoundary.Source
