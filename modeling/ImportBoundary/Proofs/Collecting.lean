import ImportBoundary.Syntax.Source
import Mathlib.Data.List.Forall2

/-!
Contract: answers that may fail, one after the other.

Owns when a sequence of two answers succeeds, and what `mapM` and `gather` find when they succeed:
every found value comes from one of the items, and what relates two items in order relates what is
found at them. Also owns what `filterM` keeps, and where a search ends.
-/

namespace ImportBoundary

variable {ε α β : Type}

/-- A sequence of two answers succeeds exactly when both do. -/
theorem bind_eq_ok_iff {answer : Except ε α} {next : α → Except ε β} {result : β} :
    answer >>= next = .ok result ↔ ∃ value, answer = .ok value ∧ next value = .ok result := by
  cases answer with
  | ok value =>
      constructor
      · intro succeeded
        exact ⟨value, rfl, succeeded⟩
      · rintro ⟨other, same, succeeded⟩
        cases same
        exact succeeded
  | error failure =>
      constructor
      · intro succeeded
        cases succeeded
      · rintro ⟨_, failed, _⟩
        cases failed

theorem ok_bind (value : α) (next : α → Except ε β) : (Except.ok value >>= next) = next value :=
  rfl

theorem error_bind (failure : ε) (next : α → Except ε β) :
    (Except.error failure >>= next) = .error failure :=
  rfl

theorem map_eq_ok_iff {answer : Except ε α} {change : α → β} {result : β} :
    answer.map change = .ok result ↔ ∃ value, answer = .ok value ∧ change value = result := by
  cases answer with
  | ok value =>
      show Except.ok (change value) = .ok result ↔ _
      simp
  | error failure =>
      show Except.error failure = .ok result ↔ _
      simp

theorem eq_ok_of_toOption {answer : Except ε α} {value : α}
    (answered : answer.toOption = some value) : answer = .ok value := by
  cases answer with
  | ok other =>
      cases answered
      rfl
  | error failure => cases answered

theorem exists_of_isOk {answer : Except ε α} (isOk : answer.isOk = true) :
    ∃ value, answer = .ok value := by
  cases answer with
  | ok value => exact ⟨value, rfl⟩
  | error failure => cases isOk

/-- What is said of the value of an answer can be decided where the answer can be computed. -/
instance decidableForallOk (answer : Except ε α) (property : α → Prop) [DecidablePred property] :
    Decidable (∀ value, answer = .ok value → property value) :=
  match answer with
  | .ok value => decidable_of_iff (property value)
      ⟨fun holds _ same => Except.ok.inj same ▸ holds, fun holds => holds value rfl⟩
  | .error _ => isTrue fun _ differs => nomatch differs

/-- A sequence of two answers succeeds when the first does, and the second on whatever it answers. -/
theorem exists_bind {answer : Except ε α} {next : α → Except ε β}
    (first : ∃ value, answer = .ok value) (second : ∀ value, ∃ result, next value = .ok result) :
    ∃ result, answer >>= next = .ok result := by
  obtain ⟨value, rfl⟩ := first
  exact second value

theorem exists_foldlM {rule : β → α → Except ε β} {items : List α}
    (answers : ∀ item ∈ items, ∀ state, ∃ next, rule state item = .ok next) (state : β) :
    ∃ result, items.foldlM rule state = .ok result := by
  induction items generalizing state with
  | nil => exact ⟨state, rfl⟩
  | cons head tail inductionHypothesis =>
      rw [List.foldlM_cons]
      apply exists_bind (answers head List.mem_cons_self state)
      exact inductionHypothesis fun item member => answers item (List.mem_cons_of_mem head member)

section MapM

variable {rule : α → Except ε β}

theorem mapM_cons_eq_ok_iff {head : α} {tail : List α} {found : List β} :
    (head :: tail).mapM rule = .ok found ↔
      ∃ first rest, rule head = .ok first ∧ tail.mapM rule = .ok rest ∧ found = first :: rest := by
  rw [List.mapM_cons, bind_eq_ok_iff]
  constructor
  · rintro ⟨first, ruled, remaining⟩
    obtain ⟨rest, areRuled, result⟩ := bind_eq_ok_iff.mp remaining
    cases result
    exact ⟨first, rest, ruled, areRuled, rfl⟩
  · rintro ⟨first, rest, ruled, areRuled, rfl⟩
    exact ⟨first, ruled, bind_eq_ok_iff.mpr ⟨rest, areRuled, rfl⟩⟩

/-- What is found belongs to the items one by one. -/
theorem forall₂_of_mapM {items : List α} {found : List β} (areRuled : items.mapM rule = .ok found) :
    List.Forall₂ (fun item value => rule item = .ok value) items found := by
  induction items generalizing found with
  | nil =>
      cases areRuled
      exact List.Forall₂.nil
  | cons head tail inductionHypothesis =>
      obtain ⟨first, rest, ruled, remaining, rfl⟩ := mapM_cons_eq_ok_iff.mp areRuled
      exact List.Forall₂.cons ruled (inductionHypothesis remaining)

theorem exists_mem_of_forall₂ {related : α → β → Prop} {items : List α} {found : List β}
    (areRelated : List.Forall₂ related items found) {value : β} (member : value ∈ found) :
    ∃ item ∈ items, related item value := by
  induction areRelated with
  | nil => cases member
  | @cons item _ _ _ isRelated _ inductionHypothesis =>
      rcases List.mem_cons.mp member with rfl | later
      · exact ⟨item, List.mem_cons_self, isRelated⟩
      · obtain ⟨other, isItem, alsoRelated⟩ := inductionHypothesis later
        exact ⟨other, List.mem_cons_of_mem item isItem, alsoRelated⟩

/-- What relates two items in order relates what belongs to them. -/
theorem pairwise_of_forall₂ {related : α → β → Prop} {ofItems : α → α → Prop}
    {ofFound : β → β → Prop} {items : List α} {found : List β}
    (areRelated : List.Forall₂ related items found) (ordered : items.Pairwise ofItems)
    (carried : ∀ left right leftFound rightFound, ofItems left right → related left leftFound →
      related right rightFound → ofFound leftFound rightFound) : found.Pairwise ofFound := by
  induction areRelated with
  | nil => exact List.Pairwise.nil
  | @cons item value _ _ isRelated remaining inductionHypothesis =>
      obtain ⟨headOrdered, tailOrdered⟩ := List.pairwise_cons.mp ordered
      refine List.pairwise_cons.mpr ⟨?_, inductionHypothesis tailOrdered⟩
      intro other member
      obtain ⟨later, isItem, alsoRelated⟩ := exists_mem_of_forall₂ remaining member
      exact carried item later value other (headOrdered later isItem) isRelated alsoRelated

theorem exists_mapM {items : List α} (answers : ∀ item ∈ items, ∃ value, rule item = .ok value) :
    ∃ found, items.mapM rule = .ok found := by
  induction items with
  | nil => exact ⟨[], rfl⟩
  | cons head tail inductionHypothesis =>
      obtain ⟨first, ruled⟩ := answers head List.mem_cons_self
      obtain ⟨rest, remaining⟩ := inductionHypothesis fun item member =>
        answers item (List.mem_cons_of_mem head member)
      exact ⟨first :: rest, mapM_cons_eq_ok_iff.mpr ⟨first, rest, ruled, remaining, rfl⟩⟩

theorem mapM_eq_ok_map {items : List α} {value : α → β}
    (ruled : ∀ item ∈ items, rule item = .ok (value item)) :
    items.mapM rule = .ok (items.map value) := by
  induction items with
  | nil => rfl
  | cons head tail inductionHypothesis =>
      obtain ⟨first, rest⟩ := List.forall_mem_cons.mp ruled
      exact mapM_cons_eq_ok_iff.mpr ⟨_, _, first, inductionHypothesis rest, List.map_cons⟩

/-- What fails for a list fails for one of its items. -/
theorem exists_of_mapM_error {items : List α} {failure : ε}
    (failed : items.mapM rule = .error failure) : ∃ item ∈ items, rule item = .error failure := by
  induction items with
  | nil => cases failed
  | cons head tail inductionHypothesis =>
      rw [List.mapM_cons] at failed
      cases ruled : rule head with
      | error headFailure =>
          rw [ruled] at failed
          cases failed
          exact ⟨head, List.mem_cons_self, ruled⟩
      | ok first =>
          rw [ruled, ok_bind] at failed
          cases remaining : tail.mapM rule with
          | ok rest =>
              rw [remaining] at failed
              cases failed
          | error tailFailure =>
              rw [remaining] at failed
              cases failed
              obtain ⟨item, isItem, isFailure⟩ := inductionHypothesis remaining
              exact ⟨item, List.mem_cons_of_mem head isItem, isFailure⟩

theorem exists_mem_of_mapM {items : List α} {found : List β} (areRuled : items.mapM rule = .ok found)
    {item : α} (isItem : item ∈ items) : ∃ value ∈ found, rule item = .ok value := by
  obtain ⟨value, member, ruled⟩ := exists_mem_of_forall₂ (forall₂_of_mapM areRuled).flip isItem
  exact ⟨value, member, ruled⟩

/-- What is in one of the lists that are found is found at one of the items. -/
theorem mem_flatten_of_mapM_iff {γ : Type} {answer : α → Except ε (List γ)} {items : List α}
    {found : List (List γ)} (areRuled : items.mapM answer = .ok found) {value : γ} :
    value ∈ found.flatten ↔ ∃ item ∈ items, ∃ list, answer item = .ok list ∧ value ∈ list := by
  rw [List.mem_flatten]
  constructor
  · rintro ⟨list, isFound, member⟩
    obtain ⟨item, isItem, answered⟩ := exists_mem_of_forall₂ (forall₂_of_mapM areRuled) isFound
    exact ⟨item, isItem, list, answered, member⟩
  · rintro ⟨item, isItem, list, answered, member⟩
    obtain ⟨other, isFound, alsoAnswered⟩ := exists_mem_of_mapM areRuled isItem
    cases answered.symm.trans alsoAnswered
    exact ⟨list, isFound, member⟩

end MapM

section Gather

variable {rule : α → Except ε (Option β)}

theorem gather_cons_eq_ok_iff {head : α} {tail : List α} {found : List β} :
    gather rule (head :: tail) = .ok found ↔
      ∃ first rest, rule head = .ok first ∧ gather rule tail = .ok rest ∧
        found = first.toList ++ rest := by
  rw [gather, bind_eq_ok_iff]
  constructor
  · rintro ⟨first, ruled, remaining⟩
    obtain ⟨rest, gathered, joined⟩ := bind_eq_ok_iff.mp remaining
    cases joined
    exact ⟨first, rest, ruled, gathered, rfl⟩
  · rintro ⟨first, rest, ruled, gathered, rfl⟩
    exact ⟨first, ruled, bind_eq_ok_iff.mpr ⟨rest, gathered, rfl⟩⟩

theorem gather_congr {other : α → Except ε (Option β)} {items : List α}
    (same : ∀ item ∈ items, rule item = other item) : gather rule items = gather other items := by
  induction items with
  | nil => rfl
  | cons head tail inductionHypothesis =>
      rw [gather, gather, same head List.mem_cons_self,
        inductionHypothesis fun item member => same item (List.mem_cons_of_mem head member)]

/-- A rule that answers at every item finds something. -/
theorem exists_gather {items : List α} (answers : ∀ item ∈ items, ∃ found, rule item = .ok found) :
    ∃ found, gather rule items = .ok found := by
  induction items with
  | nil => exact ⟨[], rfl⟩
  | cons head tail inductionHypothesis =>
      obtain ⟨first, ruled⟩ := answers head List.mem_cons_self
      obtain ⟨rest, gathered⟩ := inductionHypothesis fun item member =>
        answers item (List.mem_cons_of_mem head member)
      exact ⟨_, gather_cons_eq_ok_iff.mpr ⟨first, rest, ruled, gathered, rfl⟩⟩

/-- What is found is found at one of the items. -/
theorem exists_mem_of_mem_gather {items : List α} {found : List β}
    (gathered : gather rule items = .ok found) {value : β} (member : value ∈ found) :
    ∃ item ∈ items, rule item = .ok (some value) := by
  induction items generalizing found with
  | nil =>
      cases gathered
      cases member
  | cons head tail inductionHypothesis =>
      obtain ⟨first, rest, ruled, tailGathered, rfl⟩ := gather_cons_eq_ok_iff.mp gathered
      rcases List.mem_append.mp member with atHead | later
      · rw [Option.mem_toList.mp atHead] at ruled
        exact ⟨head, List.mem_cons_self, ruled⟩
      · obtain ⟨item, inTail, ruledItem⟩ := inductionHypothesis tailGathered later
        exact ⟨item, List.mem_cons_of_mem head inTail, ruledItem⟩

/-- A rule finds something exactly when it answers at every item, and then what it finds at each. -/
theorem gather_eq_ok_iff {items : List α} {found : List β} :
    gather rule items = .ok found ↔
      (∀ item ∈ items, ∃ value, rule item = .ok value) ∧
        found = items.filterMap fun item => (rule item).toOption.join := by
  induction items generalizing found with
  | nil => simp [gather, eq_comm]
  | cons head tail inductionHypothesis =>
      rw [gather_cons_eq_ok_iff, List.forall_mem_cons, and_assoc]
      constructor
      · rintro ⟨first, rest, ruled, gathered, rfl⟩
        obtain ⟨answers, isRest⟩ := inductionHypothesis.mp gathered
        refine ⟨⟨first, ruled⟩, answers, ?_⟩
        cases first <;> simp [ruled, isRest, Except.toOption]
      · rintro ⟨⟨first, ruled⟩, answers, rfl⟩
        refine ⟨first, _, ruled, inductionHypothesis.mpr ⟨answers, rfl⟩, ?_⟩
        cases first <;> simp [ruled, Except.toOption]

theorem mem_gather_iff {items : List α} {found : List β} (gathered : gather rule items = .ok found)
    {value : β} : value ∈ found ↔ ∃ item ∈ items, rule item = .ok (some value) := by
  constructor
  · exact exists_mem_of_mem_gather gathered
  · rintro ⟨item, isItem, ruled⟩
    rw [(gather_eq_ok_iff.mp gathered).2]
    exact List.mem_filterMap.mpr ⟨item, isItem, by rw [ruled]; rfl⟩

theorem gather_append_eq_ok_iff {left right : List α} {found : List β} :
    gather rule (left ++ right) = .ok found ↔
      ∃ first second, gather rule left = .ok first ∧ gather rule right = .ok second ∧
        found = first ++ second := by
  simp only [gather_eq_ok_iff, List.forall_mem_append, List.filterMap_append]
  constructor
  · rintro ⟨⟨answersLeft, answersRight⟩, rfl⟩
    exact ⟨_, _, ⟨answersLeft, rfl⟩, ⟨answersRight, rfl⟩, rfl⟩
  · rintro ⟨_, _, ⟨answersLeft, rfl⟩, ⟨answersRight, rfl⟩, rfl⟩
    exact ⟨⟨answersLeft, answersRight⟩, rfl⟩

/-- What is found before a value is found at the items before the one that has it. -/
theorem exists_split_of_gather {items : List α} {before after : List β} {value : β}
    (gathered : gather rule items = .ok (before ++ value :: after)) :
    ∃ earlier item later, items = earlier ++ item :: later ∧ rule item = .ok (some value) ∧
      gather rule earlier = .ok before := by
  induction items generalizing before with
  | nil => cases before <;> cases gathered
  | cons head tail inductionHypothesis =>
      obtain ⟨first, rest, ruled, remaining, joined⟩ := gather_cons_eq_ok_iff.mp gathered
      cases first with
      | none =>
          change before ++ value :: after = rest at joined
          subst joined
          obtain ⟨earlier, item, later, rfl, ruledItem, ofEarlier⟩ := inductionHypothesis remaining
          exact ⟨head :: earlier, item, later, rfl, ruledItem,
            gather_cons_eq_ok_iff.mpr ⟨none, before, ruled, ofEarlier, rfl⟩⟩
      | some found =>
          cases before with
          | nil =>
              cases joined
              exact ⟨[], head, tail, rfl, ruled, rfl⟩
          | cons other before =>
              cases joined
              obtain ⟨earlier, item, later, rfl, ruledItem, ofEarlier⟩ :=
                inductionHypothesis remaining
              exact ⟨head :: earlier, item, later, rfl, ruledItem,
                gather_cons_eq_ok_iff.mpr ⟨some found, before, ruled, ofEarlier, rfl⟩⟩

/-- Items at which nothing is found can be left out. -/
theorem gather_filter {keep : α → Bool} {items : List α}
    (nothing : ∀ item ∈ items, keep item = false → rule item = .ok none) :
    gather rule (items.filter keep) = gather rule items := by
  induction items with
  | nil => rfl
  | cons head tail inductionHypothesis =>
      have remaining := inductionHypothesis fun item member =>
        nothing item (List.mem_cons_of_mem head member)
      cases kept : keep head with
      | true => rw [List.filter_cons_of_pos kept, gather, gather, remaining]
      | false =>
          rw [List.filter_cons_of_neg (by rw [kept]; exact Bool.false_ne_true), remaining, gather,
            nothing head List.mem_cons_self kept]
          cases gather rule tail <;> rfl

/-- A rule on what a change makes of the items is a rule on the items. -/
theorem gather_map {γ : Type} {change : γ → α} (items : List γ) :
    gather rule (items.map change) = gather (fun item => rule (change item)) items := by
  induction items with
  | nil => rfl
  | cons head tail inductionHypothesis =>
      rw [List.map_cons, gather, gather, inductionHypothesis]

/-- What is found belongs one by one to the items at which something is found. -/
theorem exists_kept_of_gather {items : List α} {found : List β}
    (gathered : gather rule items = .ok found) :
    ∃ kept, kept.Sublist items ∧
      List.Forall₂ (fun item value => rule item = .ok (some value)) kept found := by
  induction items generalizing found with
  | nil =>
      cases gathered
      exact ⟨[], List.Sublist.refl _, List.Forall₂.nil⟩
  | cons head tail inductionHypothesis =>
      obtain ⟨first, rest, ruled, tailGathered, rfl⟩ := gather_cons_eq_ok_iff.mp gathered
      obtain ⟨kept, isSublist, areRuled⟩ := inductionHypothesis tailGathered
      cases first with
      | none => exact ⟨kept, isSublist.cons head, areRuled⟩
      | some value => exact ⟨head :: kept, isSublist.cons_cons head, areRuled.cons ruled⟩

/-- Lists that are read and searched one after the other are searched as one list. -/
theorem mapM_gather_eq_ok_iff {γ : Type} {answer : γ → Except ε (List β)}
    {read : γ → Except ε (List α)}
    (answers : ∀ item found, answer item = .ok found ↔
      ∃ list, read item = .ok list ∧ gather rule list = .ok found)
    {items : List γ} {flat : List β} :
    (∃ found, items.mapM answer = .ok found ∧ found.flatten = flat) ↔
      ∃ lists, items.mapM read = .ok lists ∧ gather rule lists.flatten = .ok flat := by
  induction items generalizing flat with
  | nil =>
      constructor
      · rintro ⟨_, areRuled, rfl⟩
        cases areRuled
        exact ⟨[], rfl, rfl⟩
      · rintro ⟨_, areRead, searched⟩
        cases areRead
        cases searched
        exact ⟨[], rfl, rfl⟩
  | cons head tail inductionHypothesis =>
      constructor
      · rintro ⟨_, areRuled, rfl⟩
        obtain ⟨first, rest, ruled, remaining, rfl⟩ := mapM_cons_eq_ok_iff.mp areRuled
        obtain ⟨list, isRead, searched⟩ := (answers head first).mp ruled
        obtain ⟨lists, areRead, restSearched⟩ := inductionHypothesis.mp ⟨rest, remaining, rfl⟩
        exact ⟨list :: lists, mapM_cons_eq_ok_iff.mpr ⟨list, lists, isRead, areRead, rfl⟩,
          gather_append_eq_ok_iff.mpr ⟨first, rest.flatten, searched, restSearched, rfl⟩⟩
      · rintro ⟨_, areRead, searched⟩
        obtain ⟨list, lists, isRead, remaining, rfl⟩ := mapM_cons_eq_ok_iff.mp areRead
        obtain ⟨first, second, headSearched, tailSearched, rfl⟩ :=
          gather_append_eq_ok_iff.mp searched
        obtain ⟨rest, areRuled, rfl⟩ := inductionHypothesis.mpr ⟨lists, remaining, tailSearched⟩
        have ruled := (answers head first).mpr ⟨list, isRead, headSearched⟩
        exact ⟨first :: rest, mapM_cons_eq_ok_iff.mpr ⟨first, rest, ruled, areRuled, rfl⟩, rfl⟩

/-- What is found at related items by two rules is related one by one. -/
theorem forall₂_of_gather {γ δ : Type} {otherRule : γ → Except ε (Option δ)} {related : α → γ → Prop}
    {further : β → δ → Prop} {items : List α} {others : List γ} {found : List β}
    {otherFound : List δ} (areRelated : List.Forall₂ related items others)
    (rulesAgree : ∀ item ∈ items, ∀ other ∈ others, related item other →
      ∀ first otherFirst, rule item = .ok first → otherRule other = .ok otherFirst →
        Option.Rel further first otherFirst)
    (gathered : gather rule items = .ok found)
    (otherGathered : gather otherRule others = .ok otherFound) :
    List.Forall₂ further found otherFound := by
  induction areRelated generalizing found otherFound with
  | nil =>
      cases gathered
      cases otherGathered
      exact .nil
  | cons isRelated _ inductionHypothesis =>
      obtain ⟨first, rest, ruled, remaining, rfl⟩ := gather_cons_eq_ok_iff.mp gathered
      obtain ⟨otherFirst, otherRest, otherRuled, otherRemaining, rfl⟩ :=
        gather_cons_eq_ok_iff.mp otherGathered
      have restRelated := inductionHypothesis (fun item member other alsoMember =>
        rulesAgree item (List.mem_cons_of_mem _ member) other (List.mem_cons_of_mem _ alsoMember))
        remaining otherRemaining
      cases rulesAgree _ List.mem_cons_self _ List.mem_cons_self isRelated _ _ ruled otherRuled with
      | some firstRelated => exact .cons firstRelated restRelated
      | none => exact restRelated

/-- What relates two items in order relates what is found at them. -/
theorem pairwise_of_gather {items : List α} {found : List β} {ofItems : α → α → Prop}
    {ofFound : β → β → Prop} (gathered : gather rule items = .ok found)
    (ordered : items.Pairwise ofItems)
    (related : ∀ left right leftFound rightFound, ofItems left right →
      rule left = .ok (some leftFound) → rule right = .ok (some rightFound) →
        ofFound leftFound rightFound) : found.Pairwise ofFound := by
  obtain ⟨kept, isSublist, areRuled⟩ := exists_kept_of_gather gathered
  exact pairwise_of_forall₂ areRuled (ordered.sublist isSublist) related

end Gather

section FilterM

variable {rule : α → Except ε Bool}

private theorem filterAuxM_eq_ok_iff {items later kept : List α} :
    items.filterAuxM rule later = .ok kept ↔
      (∀ item ∈ items, ∃ answer, rule item = .ok answer) ∧
        kept = (items.filter fun item => (rule item).toOption = some true).reverse ++ later := by
  induction items generalizing later with
  | nil =>
      show Except.ok later = .ok kept ↔ _
      simp [eq_comm]
  | cons head tail inductionHypothesis =>
      rw [List.filterAuxM, bind_eq_ok_iff, List.forall_mem_cons, and_assoc]
      constructor
      · rintro ⟨answer, ruled, remaining⟩
        obtain ⟨answers, isKept⟩ := inductionHypothesis.mp remaining
        refine ⟨⟨answer, ruled⟩, answers, ?_⟩
        cases answer <;> simp [ruled, isKept, Except.toOption]
      · rintro ⟨⟨answer, ruled⟩, answers, rfl⟩
        refine ⟨answer, ruled, inductionHypothesis.mpr ⟨answers, ?_⟩⟩
        cases answer <;> simp [ruled, Except.toOption]

/-- A rule keeps something exactly when it answers at every item, and then the items it accepts. -/
theorem filterM_eq_ok_iff {items kept : List α} :
    items.filterM rule = .ok kept ↔
      (∀ item ∈ items, ∃ answer, rule item = .ok answer) ∧
        kept = items.filter fun item => (rule item).toOption = some true := by
  rw [List.filterM, bind_eq_ok_iff]
  constructor
  · rintro ⟨found, filtered, reversed⟩
    obtain ⟨answers, rfl⟩ := filterAuxM_eq_ok_iff.mp filtered
    cases reversed
    exact ⟨answers, by rw [List.append_nil, List.reverse_reverse]⟩
  · rintro ⟨answers, rfl⟩
    refine ⟨_, filterAuxM_eq_ok_iff.mpr ⟨answers, rfl⟩, ?_⟩
    rw [List.append_nil, List.reverse_reverse]
    rfl

theorem mem_filterM_iff {items kept : List α} (filtered : items.filterM rule = .ok kept) {item : α} :
    item ∈ kept ↔ item ∈ items ∧ rule item = .ok true := by
  rw [(filterM_eq_ok_iff.mp filtered).2, List.mem_filter, decide_eq_true_iff]
  refine and_congr_right fun _ => ⟨eq_ok_of_toOption, fun accepted => ?_⟩
  rw [accepted]
  rfl

end FilterM

/-! ## Searches -/

/-- A search ends at an item that the test fails at, at the first item that it accepts, or at the end of
the list. All items before have been refused. -/
theorem findM?_cases (accepts : α → Except ε Bool) (items : List α) :
    (∃ item ∈ items, ∃ failure, accepts item = .error failure ∧
        items.findM? accepts = .error failure) ∨
      (∃ (index : Nat) (item : α), items[index]? = some item ∧
        items.findM? accepts = .ok (some item) ∧
        accepts item = .ok true ∧ ∀ earlier < index, ∀ other, items[earlier]? = some other →
          accepts other = .ok false) ∨
      (items.findM? accepts = .ok none ∧ ∀ item ∈ items, accepts item = .ok false) := by
  induction items with
  | nil => exact .inr (.inr ⟨rfl, fun _ member => absurd member List.not_mem_nil⟩)
  | cons head tail inductionHypothesis =>
      rw [List.findM?]
      cases answer : accepts head with
      | error failure => exact .inl ⟨head, List.mem_cons_self, failure, answer, rfl⟩
      | ok accepted =>
          rw [ok_bind]
          cases accepted with
          | true =>
              exact .inr (.inl ⟨0, head, rfl, rfl, answer, fun _ before => absurd before (by omega)⟩)
          | false =>
              rcases inductionHypothesis with ⟨item, member, failure, fails, found⟩ |
                ⟨index, item, isItem, found, accepted, refused⟩ | ⟨found, refused⟩
              · exact .inl ⟨item, List.mem_cons_of_mem head member, failure, fails, found⟩
              · refine .inr (.inl ⟨index + 1, item, isItem, found, accepted, ?_⟩)
                intro earlier before other isOther
                cases earlier with
                | zero =>
                    cases isOther
                    exact answer
                | succ earlier => exact refused earlier (by omega) other isOther
              · refine .inr (.inr ⟨found, List.forall_mem_cons.mpr ⟨answer, refused⟩⟩)

/-! ## Items without repetitions -/

theorem nodup_eraseDups [BEq α] [LawfulBEq α] : ∀ items : List α, items.eraseDups.Nodup
  | [] => List.nodup_nil
  | head :: tail => by
      rw [List.eraseDups_cons]
      refine List.nodup_cons.mpr ⟨?_, nodup_eraseDups _⟩
      rw [List.mem_eraseDups]
      intro isLater
      simpa using (List.mem_filter.mp isLater).2
termination_by items => items.length
decreasing_by exact Nat.lt_succ_of_le (List.length_filter_le _ tail)

theorem eraseDups_sublist [BEq α] : ∀ items : List α, items.eraseDups.Sublist items
  | [] => List.Sublist.refl []
  | head :: tail => by
      rw [List.eraseDups_cons]
      exact ((eraseDups_sublist _).trans List.filter_sublist).cons_cons head
termination_by items => items.length
decreasing_by exact Nat.lt_succ_of_le (List.length_filter_le _ tail)

end ImportBoundary
