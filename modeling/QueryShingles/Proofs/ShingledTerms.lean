import QueryShingles.Proofs.Passes

/-!
A pass over a query, seen on the terms of its groups: each new one is glued from two terms of
neighbouring places, and stands in one of them.
-/

set_option autoImplicit false

namespace QueryShingles

namespace Query

def placeAt? (query : Query) (i : Nat) : Option DisjunctionMaxId := (Shingling.places query)[i]?.join

def termsAt (query : Query) (i : Nat) : List Term := (query.placeAt? i).elim [] query.termsOf

/-- The term is glued from two terms of neighbouring places, of which the one at `i` is one. -/
def Glues (query : Query) (accepted : Term → Prop) (i : Nat) (word : Term) : Prop :=
  ∃ j, (j = i ∨ j + 1 = i) ∧ ∃ left ∈ query.termsAt j, ∃ right ∈ query.termsAt (j + 1),
    accepted left ∧ accepted right ∧ left.field = word.field ∧ right.field = word.field ∧
      word.value = left.value ++ right.value

end Query

theorem place_at_clause (query : Query) (i : Nat) : query.placeAt? i = query.clauses[i]?.bind query.place? := by
  rw [Query.placeAt?, Shingling.places, List.getElem?_map]
  cases query.clauses[i]? <;> rfl

theorem place_at_listed (query : Query) (i : Nat) (place : DisjunctionMaxId)
    (found : query.placeAt? i = some place) : query.clauses[i]? = some place.index := by
  rw [place_at_clause] at found
  obtain ⟨id, listed, isPlace⟩ := Option.bind_eq_some_iff.mp found
  obtain ⟨group, _, same⟩ := Option.map_eq_some_iff.mp isPlace
  rw [listed, ← same]

theorem place_at_once (query : Query) (linked : query.Linked) (i j : Nat) (place : DisjunctionMaxId)
    (first : query.placeAt? i = some place) (second : query.placeAt? j = some place) : i = j := by
  have here := place_at_listed query i place first
  have there := place_at_listed query j place second
  obtain ⟨bound, _⟩ := List.getElem?_eq_some_iff.mp here
  exact (List.getElem?_inj bound (linked_distinct query linked Query.root.index)).mp (here.trans there.symm)

theorem terms_at_place (query : Query) (i : Nat) (word : Term) (member : word ∈ query.termsAt i) :
    ∃ place, query.placeAt? i = some place ∧ word ∈ query.termsOf place := by
  cases found : query.placeAt? i with
  | none => simp [Query.termsAt, found] at member
  | some place => exact ⟨place, rfl, by simpa [Query.termsAt, found] using member⟩

theorem terms_at_found (query : Query) (i : Nat) (place : DisjunctionMaxId) (found : query.placeAt? i = some place) :
    query.termsAt i = query.termsOf place := by
  rw [Query.termsAt, found]
  rfl

def Shingle.word (place : DisjunctionMaxId) (shingle : Shingle) : Term := ⟨place, shingle.field, shingle.value, true⟩

def Shingle.words (place : DisjunctionMaxId) (shingle : Shingle) : List Term :=
  (if shingle.left = place then [shingle.word place] else []) ++
    (if shingle.right = place then [shingle.word place] else [])

theorem attach_term_at (query : Query) (parent id : ClauseId) (node : Clause) (bound : id < query.size) :
    (query.attach parent node).term? id = query.term? id := by
  rw [Query.term?, Query.term?, attach_old query parent id node bound]
  by_cases same : parent = id
  · rw [if_pos same]
    cases query.clause? id with
    | none => rfl
    | some old => cases old <;> rfl
  · rw [if_neg same]

theorem attach_terms_of (query : Query) (linked : query.Linked) (place other : DisjunctionMaxId)
    (field : Option String) (value : String) (generated : Bool) (there : query.DisjunctionMaxAt place.index) :
    (query.attachTerm place field value generated).1.termsOf other =
      query.termsOf other ++ if place = other then [⟨place, field, value, generated⟩] else [] := by
  obtain ⟨group, found⟩ := there
  have old : (query.childIds other.index).filterMap (query.attachTerm place field value generated).1.term? =
      query.termsOf other := by
    refine List.filterMap_congr ?_
    intro child listed
    exact attach_term_at query place.index child _ (linked_child query linked other.index child listed).2.1
  have new : (query.attachTerm place field value generated).1.term? query.size =
      some ⟨place, field, value, generated⟩ := by
    rw [Query.term?, Query.attachTerm, attach_new query place.index _ (clause_bound query place.index _ found)]
    rfl
  rw [Query.termsOf, show (query.attachTerm place field value generated).1.childIds other.index = _ from
    attach_child_ids query place.index other.index _ _ found rfl rfl]
  by_cases same : place = other
  · rw [if_pos same, if_pos (congrArg _ same.symm), List.filterMap_append, old, List.filterMap_cons, new]
    rfl
  · have apart : other.index ≠ place.index := by
      intro equal
      cases place
      cases other
      exact same (congrArg _ equal.symm)
    rw [if_neg same, if_neg apart, old, List.append_nil]

theorem add_shingles_terms (query : Query) (linked : query.Linked) (place : DisjunctionMaxId)
    (shingles : List Shingle) (there : ∀ shingle ∈ shingles,
      query.DisjunctionMaxAt shingle.left.index ∧ query.DisjunctionMaxAt shingle.right.index) :
    (shingles.foldl Shingling.addShingle query).termsOf place =
      query.termsOf place ++ shingles.flatMap (Shingle.words place) := by
  induction shingles generalizing query with
  | nil => exact (List.append_nil _).symm
  | cons shingle rest ih =>
      obtain ⟨left, right⟩ := there shingle List.mem_cons_self
      have grows := add_shingle_grows query shingle left right
      have first := attach_term_grows query shingle.left shingle.field shingle.value true left
      have head : (Shingling.addShingle query shingle).termsOf place = query.termsOf place ++ shingle.words place := by
        rw [Shingling.addShingle, attach_terms_of _ (grows_linked _ _ linked first) shingle.right place _ _ _
          (grows_disjunction_max _ _ first _ right), attach_terms_of query linked shingle.left place _ _ _ left,
          List.append_assoc, Shingle.words, Shingle.word]
        by_cases isLeft : shingle.left = place <;> by_cases isRight : shingle.right = place <;> simp [isLeft, isRight]
      have later : ∀ other ∈ rest, (Shingling.addShingle query shingle).DisjunctionMaxAt other.left.index ∧
          (Shingling.addShingle query shingle).DisjunctionMaxAt other.right.index := by
        intro other member
        obtain ⟨left, right⟩ := there other (List.mem_cons_of_mem _ member)
        exact ⟨grows_disjunction_max _ _ grows _ left, grows_disjunction_max _ _ grows _ right⟩
      rw [List.foldl_cons, ih _ (grows_linked _ _ linked grows) later, head, List.append_assoc, List.flatMap_cons]

theorem shingle_sources (shingling : Shingling) (query : Query) (linked : query.Linked) (shingle : Shingle)
    (member : shingle ∈ shingling.shingles query) :
    ∃ j, query.placeAt? j = some shingle.left ∧ query.placeAt? (j + 1) = some shingle.right ∧
      ∃ left ∈ shingling.sources query shingle.left, ∃ right ∈ shingling.sources query shingle.right,
        left.field = shingle.field ∧ right.field = shingle.field ∧ shingle.value = left.value ++ right.value := by
  obtain ⟨⟨first, second⟩, pair, member⟩ := List.mem_flatMap.mp member
  obtain ⟨j, atPair⟩ := List.mem_iff_getElem?.mp pair
  obtain ⟨atFirst, atSecond⟩ := List.getElem?_zip_eq_some.mp atPair
  rw [List.getElem?_tail] at atSecond
  cases first with
  | none => simp [Shingling.shinglesBetween] at member
  | some left =>
      cases second with
      | none => simp [Shingling.shinglesBetween] at member
      | some right =>
          obtain ⟨isLeft, isRight⟩ := shingles_of_ends shingling query linked left right shingle member
          obtain ⟨l, fromLeft, member⟩ := List.mem_flatMap.mp member
          obtain ⟨r, fromRight, same⟩ := List.mem_map.mp member
          obtain ⟨fromRight, sameField⟩ := List.mem_filter.mp fromRight
          have fields : l.field = r.field := of_decide_eq_true sameField
          rw [isLeft, isRight]
          refine ⟨j, ?_, ?_, l, fromLeft, r, fromRight, ?_, ?_, ?_⟩
          · exact congrArg Option.join atFirst
          · exact congrArg Option.join atSecond
          · rw [← same]
          · rw [← same, fields]
          · rw [← same]

theorem words_member (place : DisjunctionMaxId) (shingle : Shingle) (word : Term) (member : word ∈ shingle.words place) :
    word = shingle.word place ∧ (shingle.left = place ∨ shingle.right = place) := by
  rcases List.mem_append.mp member with first | second
  · by_cases same : shingle.left = place
    · exact ⟨by simpa [same] using first, .inl same⟩
    · simp [same] at first
  · by_cases same : shingle.right = place
    · exact ⟨by simpa [same] using second, .inr same⟩
    · simp [same] at second

theorem word_glued (shingling : Shingling) (query : Query) (linked : query.Linked) (place : DisjunctionMaxId)
    (word : Term) (member : word ∈ (shingling.shingles query).flatMap (Shingle.words place)) :
    word.generated = true ∧ ∃ i, query.placeAt? i = some place ∧
      query.Glues (fun source => shingling.isSource source = true) i word := by
  obtain ⟨shingle, listed, member⟩ := List.mem_flatMap.mp member
  obtain ⟨j, atLeft, atRight, left, fromLeft, right, fromRight, glued⟩ :=
    shingle_sources shingling query linked shingle listed
  obtain ⟨leftThere, leftAccepted⟩ := List.mem_filter.mp fromLeft
  obtain ⟨rightThere, rightAccepted⟩ := List.mem_filter.mp fromRight
  rw [← terms_at_found query j shingle.left atLeft] at leftThere
  rw [← terms_at_found query (j + 1) shingle.right atRight] at rightThere
  obtain ⟨same, ends⟩ := words_member place shingle word member
  have atPlace : ∃ i, (j = i ∨ j + 1 = i) ∧ query.placeAt? i = some place := by
    rcases ends with isLeft | isRight
    · exact ⟨j, .inl rfl, isLeft ▸ atLeft⟩
    · exact ⟨j + 1, .inr rfl, isRight ▸ atRight⟩
  obtain ⟨i, ends, atPlace⟩ := atPlace
  subst same
  exact ⟨rfl, i, atPlace, j, ends, left, leftThere, right, rightThere, leftAccepted, rightAccepted, glued⟩

theorem run_terms (shingling : Shingling) (query : Query) (linked : query.Linked) (place : DisjunctionMaxId) :
    (shingling.run query).termsOf place =
      query.termsOf place ++ (shingling.shingles query).flatMap (Shingle.words place) := by
  rw [run_all]
  exact add_shingles_terms query linked place _ (shingles_there shingling query linked)

theorem run_terms_at (shingling : Shingling) (query : Query) (linked : query.Linked) (i : Nat) :
    ∃ added, (shingling.run query).termsAt i = query.termsAt i ++ added ∧
      ∀ word ∈ added, word.generated = true ∧ query.Glues (fun source => shingling.isSource source = true) i word := by
  have same : (shingling.run query).placeAt? i = query.placeAt? i := by
    rw [Query.placeAt?, run_places shingling query linked]
    rfl
  cases found : query.placeAt? i with
  | none =>
      refine ⟨[], ?_, by simp⟩
      rw [Query.termsAt, Query.termsAt, same, found]
      rfl
  | some place =>
      rw [terms_at_found query i place found, terms_at_found _ i place (same.trans found)]
      refine ⟨_, run_terms shingling query linked place, ?_⟩
      intro word member
      obtain ⟨generated, j, atPlace, glued⟩ := word_glued shingling query linked place word member
      rw [place_at_once query linked i j place found atPlace]
      exact ⟨generated, glued⟩

theorem run_fields (shingling : Shingling) (query : Query) (linked : query.Linked) (place : DisjunctionMaxId)
    (field : Option String) :
    (∃ word ∈ (shingling.run query).termsOf place, word.field = field) ↔
      ∃ word ∈ query.termsOf place, word.field = field := by
  rw [run_terms shingling query linked place]
  constructor
  · rintro ⟨word, member, named⟩
    rcases List.mem_append.mp member with old | new
    · exact ⟨word, old, named⟩
    · obtain ⟨_, i, atPlace, j, ends, left, fromLeft, right, fromRight, _, _, leftField, rightField, _⟩ :=
        word_glued shingling query linked place word new
      rcases ends with isLeft | isRight
      · rw [isLeft, terms_at_found query i place atPlace] at fromLeft
        exact ⟨left, fromLeft, leftField.trans named⟩
      · rw [isRight, terms_at_found query i place atPlace] at fromRight
        exact ⟨right, fromRight, rightField.trans named⟩
  · rintro ⟨word, member, named⟩
    exact ⟨word, List.mem_append_left _ member, named⟩

end QueryShingles
