import QueryShingles.Proofs.ShingledTerms

/-!
Where the terms of a query come from after any number of passes. What a pass joins stands in two
neighbouring places, so before each pass it was at most one place farther away, and nothing gets
over a gap or into another field.
-/

set_option autoImplicit false

namespace QueryShingles

namespace Query

def Connected (query : Query) (i j : Nat) : Prop :=
  ∀ m, min i j ≤ m → m ≤ max i j → (query.placeAt? m).isSome = true

def Supplies (query : Query) (reach i : Nat) (field : Option String) (value : String) : Prop :=
  ∃ j, j ≤ i + reach ∧ i ≤ j + reach ∧ query.Connected i j ∧
    ∃ word ∈ query.termsAt j, word.field = field ∧ word.value = value

/-- The value is put together from at least so many values, each of a term of the field within reach. -/
def Composes (query : Query) (least reach i : Nat) (field : Option String) (value : String) : Prop :=
  ∃ parts : List String, least ≤ parts.length ∧ parts.length ≤ 2 ^ reach ∧ value = String.join parts ∧
    ∀ part ∈ parts, query.Supplies reach i field part

structure Carries (query : Query) (reach i : Nat) (word : Term) : Prop where
  field : ∃ own ∈ query.termsAt i, own.field = word.field
  value : query.Composes 1 reach i word.field word.value

structure Derives (query : Query) (reach i : Nat) (word : Term) : Prop where
  generated : word.generated = true
  field : ∃ own ∈ query.termsAt i, own.field = word.field
  value : query.Composes 2 reach i word.field word.value

end Query

theorem terms_at_there (query : Query) (i : Nat) (word : Term) (member : word ∈ query.termsAt i) :
    (query.placeAt? i).isSome = true := by
  obtain ⟨place, found, _⟩ := terms_at_place query i word member
  exact Option.isSome_iff_exists.mpr ⟨place, found⟩

theorem supplies_own (query : Query) (reach i : Nat) (word : Term) (member : word ∈ query.termsAt i) :
    query.Supplies reach i word.field word.value := by
  refine ⟨i, Nat.le_add_right _ _, Nat.le_add_right _ _, ?_, word, member, rfl, rfl⟩
  intro m fromLeft toRight
  have here : m = i := by omega
  rw [here]
  exact terms_at_there query i word member

theorem supplies_there (query : Query) (reach i : Nat) (field : Option String) (value : String)
    (supplies : query.Supplies reach i field value) : (query.placeAt? i).isSome = true := by
  obtain ⟨j, _, _, connected, _⟩ := supplies
  exact connected i (Nat.min_le_left _ _) (Nat.le_max_left _ _)

theorem supplies_farther (query : Query) (reach i j : Nat) (field : Option String) (value : String)
    (ahead : j ≤ i + 1) (behind : i ≤ j + 1) (there : (query.placeAt? i).isSome = true)
    (supplies : query.Supplies reach j field value) : query.Supplies (reach + 1) i field value := by
  obtain ⟨m, below, above, connected, supply⟩ := supplies
  refine ⟨m, by omega, by omega, ?_, supply⟩
  intro n fromLeft toRight
  by_cases here : n = i
  · rw [here]
    exact there
  · apply connected n <;> omega

theorem composes_own (query : Query) (reach i : Nat) (word : Term) (member : word ∈ query.termsAt i) :
    query.Composes 1 reach i word.field word.value := by
  refine ⟨[word.value], Nat.le_refl _, Nat.one_le_two_pow, by simp [String.join], ?_⟩
  intro part isPart
  rw [List.mem_singleton.mp isPart]
  exact supplies_own query reach i word member

theorem composes_longer (query : Query) (least reach i : Nat) (field : Option String) (value : String)
    (composes : query.Composes least reach i field value) : query.Composes least (reach + 1) i field value := by
  obtain ⟨parts, many, few, joined, supplied⟩ := composes
  refine ⟨parts, many, Nat.le_trans few (Nat.pow_le_pow_right (by decide) (Nat.le_succ _)), joined, ?_⟩
  intro part isPart
  have supplies := supplied part isPart
  exact supplies_farther query reach i i field part (Nat.le_succ _) (Nat.le_succ _)
    (supplies_there query reach i field part supplies) supplies

theorem composes_glued (query : Query) (reach i j : Nat) (field : Option String) (left right : String)
    (ends : j = i ∨ j + 1 = i) (there : (query.placeAt? i).isSome = true)
    (first : query.Composes 1 reach j field left) (second : query.Composes 1 reach (j + 1) field right) :
    query.Composes 2 (reach + 1) i field (left ++ right) := by
  obtain ⟨lefts, manyLeft, fewLeft, joinedLeft, suppliedLeft⟩ := first
  obtain ⟨rights, manyRight, fewRight, joinedRight, suppliedRight⟩ := second
  refine ⟨lefts ++ rights, ?_, ?_, ?_, ?_⟩
  · rw [List.length_append]
    omega
  · rw [List.length_append, Nat.pow_succ]
    omega
  · rw [String.join_append, joinedLeft, joinedRight]
  · intro part member
    rcases List.mem_append.mp member with isLeft | isRight
    · exact supplies_farther query reach i j field part (by omega) (by omega) there (suppliedLeft part isLeft)
    · exact supplies_farther query reach i (j + 1) field part (by omega) (by omega) there (suppliedRight part isRight)

theorem derives_longer (query : Query) (reach i : Nat) (word : Term) (derives : query.Derives reach i word) :
    query.Derives (reach + 1) i word :=
  ⟨derives.generated, derives.field, composes_longer query 2 reach i _ _ derives.value⟩

def Query.Holds (query grown : Query) (reach : Nat) : Prop :=
  ∀ i, ∀ word ∈ grown.termsAt i, word ∈ query.termsAt i ∨ query.Derives reach i word

theorem holds_carries (query grown : Query) (reach i : Nat) (word : Term) (holds : query.Holds grown reach)
    (member : word ∈ grown.termsAt i) : query.Carries reach i word := by
  rcases holds i word member with own | derives
  · exact ⟨⟨word, own, rfl⟩, composes_own query reach i word own⟩
  · obtain ⟨parts, many, rest⟩ := derives.value
    exact ⟨derives.field, parts, Nat.le_of_succ_le many, rest⟩

theorem holds_typed (query grown : Query) (reach i : Nat) (word : Term) (holds : query.Holds grown reach)
    (member : word ∈ grown.termsAt i) (typed : word.generated = false) : word ∈ query.termsAt i := by
  rcases holds i word member with own | derives
  · exact own
  · exact absurd derives.generated (by simp [typed])

theorem glued_derives (query grown : Query) (accepted : Term → Prop) (reach i : Nat) (word : Term)
    (places : ∀ j, grown.placeAt? j = query.placeAt? j) (holds : query.Holds grown reach)
    (generated : word.generated = true) (glued : grown.Glues accepted i word) : query.Derives (reach + 1) i word := by
  obtain ⟨j, ends, left, fromLeft, right, fromRight, _, _, leftField, rightField, value⟩ := glued
  have carriesLeft := holds_carries query grown reach j left holds fromLeft
  have carriesRight := holds_carries query grown reach (j + 1) right holds fromRight
  have atLeft := terms_at_there grown j left fromLeft
  have atRight := terms_at_there grown (j + 1) right fromRight
  rw [places] at atLeft atRight
  have first := carriesLeft.value
  have second := carriesRight.value
  rw [leftField] at first
  rw [rightField] at second
  have here : (query.placeAt? i).isSome = true ∧ ∃ own ∈ query.termsAt i, own.field = word.field := by
    rcases ends with isLeft | isRight
    · subst isLeft
      obtain ⟨own, member, same⟩ := carriesLeft.field
      exact ⟨atLeft, own, member, same.trans leftField⟩
    · subst isRight
      obtain ⟨own, member, same⟩ := carriesRight.field
      exact ⟨atRight, own, member, same.trans rightField⟩
  refine ⟨generated, here.2, ?_⟩
  rw [value]
  exact composes_glued query reach i j _ _ _ ends here.1 first second

theorem glued_from_typed (query grown : Query) (reach i : Nat) (word : Term) (holds : query.Holds grown reach)
    (glued : grown.Glues (fun source => (Shingling.mk false).isSource source = true) i word) :
    query.Glues (fun source => source.generated = false) i word := by
  obtain ⟨j, ends, left, fromLeft, right, fromRight, typedLeft, typedRight, rest⟩ := glued
  have typed : ∀ source : Term, (Shingling.mk false).isSource source = true → source.generated = false := by
    intro source accepted
    simpa [Shingling.isSource] using accepted
  have oldLeft := holds_typed query grown reach j left holds fromLeft (typed left typedLeft)
  have oldRight := holds_typed query grown reach (j + 1) right holds fromRight (typed right typedRight)
  exact ⟨j, ends, left, oldLeft, right, oldRight, typed left typedLeft, typed right typedRight, rest⟩

theorem passes_derive (query : Query) (linked : query.Linked) (accepts : List Bool) (i : Nat) :
    ∃ added, (query.passes accepts).termsAt i = query.termsAt i ++ added ∧
      ∀ word ∈ added, query.Derives accepts.length i word ∧
        ((∀ accept ∈ accepts, accept = false) → query.Glues (fun source => source.generated = false) i word) := by
  -- For all places at once: a new term of a place comes from its neighbours.
  induction accepts using List.reverseRecOn generalizing i with
  | nil => exact ⟨[], (List.append_nil _).symm, by simp⟩
  | append_singleton accepts accept ih =>
      have places : ∀ j, (query.passes accepts).placeAt? j = query.placeAt? j := by
        intro j
        rw [Query.placeAt?, passes_places query linked accepts]
        rfl
      have holds : query.Holds (query.passes accepts) accepts.length := by
        intro j word member
        obtain ⟨added, terms, derived⟩ := ih j
        rw [terms] at member
        exact (List.mem_append.mp member).imp_right fun new => (derived word new).1
      obtain ⟨added, terms, derived⟩ := ih i
      obtain ⟨more, grown, glued⟩ := run_terms_at ⟨accept⟩ _ (passes_linked query linked accepts) i
      rw [passes_next, grown, terms, List.append_assoc, List.length_append]
      refine ⟨added ++ more, rfl, ?_⟩
      intro word member
      rcases List.mem_append.mp member with earlier | last
      · obtain ⟨derives, user⟩ := derived word earlier
        exact ⟨derives_longer query _ i word derives, fun typed => user fun accept listed =>
          typed accept (List.mem_append_left _ listed)⟩
      · obtain ⟨generated, made⟩ := glued word last
        refine ⟨glued_derives query _ _ _ i word places holds generated made, ?_⟩
        intro typed
        have refused : accept = false := typed accept (by simp)
        subst refused
        exact glued_from_typed query _ _ i word holds made

theorem passes_fields (query : Query) (linked : query.Linked) (accepts : List Bool) (place : DisjunctionMaxId)
    (field : Option String) :
    (∃ word ∈ (query.passes accepts).termsOf place, word.field = field) ↔
      ∃ word ∈ query.termsOf place, word.field = field := by
  induction accepts using List.reverseRecOn with
  | nil => exact Iff.rfl
  | append_singleton accepts accept ih =>
      rw [passes_next, run_fields ⟨accept⟩ _ (passes_linked query linked accepts) place field, ih]

/-- Passes leave the places where they are and put their terms behind what is there. Each new term derives from terms
of the query at first, and is made of two that the user typed side by side if no pass takes generated ones. No group
gets a new field. -/
theorem shingle_provenance (query : Query) (reachable : query.Reachable) (accepts : List Bool) :
    Shingling.places (query.passes accepts) = Shingling.places query ∧
    (∀ i, ∃ added, (query.passes accepts).termsAt i = query.termsAt i ++ added ∧
      ∀ word ∈ added, query.Derives accepts.length i word ∧
        ((∀ accept ∈ accepts, accept = false) → query.Glues (fun source => source.generated = false) i word)) ∧
    ∀ place field, (∃ word ∈ (query.passes accepts).termsOf place, word.field = field) ↔
      ∃ word ∈ query.termsOf place, word.field = field := by
  have linked := reachable_linked query reachable
  exact ⟨passes_places query linked accepts, passes_derive query linked accepts, passes_fields query linked accepts⟩

theorem shingle_provenance_three_words :
    ∃ query : Query, Query.Reachable query ∧ query.termsAt 2 = [⟨⟨5⟩, none, "c", false⟩] ∧
      (query.passes [false]).termsAt 2 = query.termsAt 2 ++ [⟨⟨5⟩, none, "b" ++ "c", true⟩] ∧
      query.Glues (fun source => source.generated = false) 2 ⟨⟨5⟩, none, "b" ++ "c", true⟩ ∧
      ⟨⟨5⟩, none, "a" ++ "b" ++ "c", true⟩ ∈ (query.passes [false, true]).termsAt 2 ∧
      query.Derives 2 2 ⟨⟨5⟩, none, "a" ++ "b" ++ "c", true⟩ := by
  have reachable : Query.Reachable _ := ⟨_, .load ⟨false,
    [.disjunctionMax .should false [.term none "a" false],
     .disjunctionMax .should false [.term none "b" false],
     .disjunctionMax .should false [.term none "c" false]]⟩ _ rfl⟩
  obtain ⟨added, terms, derived⟩ := (shingle_provenance _ reachable [false]).2.1 2
  obtain ⟨addedTwice, termsTwice, derivedTwice⟩ := (shingle_provenance _ reachable [false, true]).2.1 2
  have once : added = [⟨⟨5⟩, none, "b" ++ "c", true⟩] := List.append_cancel_left (terms.symm.trans rfl)
  have twice : addedTwice =
      [⟨⟨5⟩, none, "b" ++ "c", true⟩, ⟨⟨5⟩, none, "b" ++ "c", true⟩, ⟨⟨5⟩, none, "b" ++ ("b" ++ "c"), true⟩,
       ⟨⟨5⟩, none, "a" ++ "b" ++ "c", true⟩, ⟨⟨5⟩, none, "a" ++ "b" ++ ("b" ++ "c"), true⟩,
       ⟨⟨5⟩, none, "b" ++ "c" ++ "c", true⟩, ⟨⟨5⟩, none, "b" ++ "c" ++ ("b" ++ "c"), true⟩] :=
    List.append_cancel_left (termsTwice.symm.trans (by decide +kernel))
  have typed : ∀ accept ∈ [false], accept = false := by decide
  have listed : ⟨⟨5⟩, none, "a" ++ "b" ++ "c", true⟩ ∈ addedTwice := by simp [twice]
  have glued := (derived ⟨⟨5⟩, none, "b" ++ "c", true⟩ (by simp [once])).2 typed
  have derives := (derivedTwice ⟨⟨5⟩, none, "a" ++ "b" ++ "c", true⟩ listed).1
  rw [once] at terms
  refine ⟨_, reachable, rfl, terms, glued, ?_, derives⟩
  rw [termsTwice]
  exact List.mem_append_right _ listed

end QueryShingles
