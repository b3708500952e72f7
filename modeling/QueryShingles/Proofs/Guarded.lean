import QueryShingles.Proofs.Growth
import QueryShingles.Proofs.Results

/-!
The operations that look every position up as the kind of node that it is taken for. On linked queries no such
lookup fails, and what comes out is what the operations without lookups make.
-/

set_option autoImplicit false

namespace QueryShingles

theorem clause_ok (query : Query) (id : ClauseId) (node : Clause) (found : query.clause? id = some node) :
    query.clause id = .ok node := by
  simp [Query.clause, found]

theorem boolean_ok (query : Query) (id : BooleanId) (group : BooleanQuery)
    (found : query.clause? id.index = some (.boolean group)) : query.boolean id = .ok group := by
  simp [Query.boolean, found]

theorem disjunction_max_ok (query : Query) (id : DisjunctionMaxId) (group : DisjunctionMaxQuery)
    (found : query.clause? id.index = some (.disjunctionMax group)) : query.disjunctionMax id = .ok group := by
  simp [Query.disjunctionMax, found]

theorem terms_ok (query : Query) (id : DisjunctionMaxId) (there : query.DisjunctionMaxAt id.index) :
    query.terms id = .ok (query.termsOf id) := by
  obtain ⟨group, found⟩ := there
  simp [Query.terms, disjunction_max_ok query id group found, Except.map]

theorem add_disjunction_max_ok (query : Query) (parent : BooleanId) (occur : Occur) (generated : Bool)
    (there : query.BooleanAt parent.index) :
    query.addDisjunctionMax parent occur generated = .ok (query.attachDisjunctionMax parent occur generated) := by
  obtain ⟨group, found⟩ := grows_boolean _ _ (attach_disjunction_max_grows query parent occur generated there) _ there
  simp [Query.addDisjunctionMax, boolean_ok _ parent group found, Except.map]

theorem add_boolean_ok (query : Query) (parent : BooleanId) (occur : Occur) (generated : Bool)
    (there : query.BooleanAt parent.index) :
    query.addBoolean parent occur generated = .ok (query.attachBoolean parent occur generated) := by
  obtain ⟨group, found⟩ := grows_boolean _ _ (attach_boolean_grows query parent occur generated there) _ there
  simp [Query.addBoolean, boolean_ok _ parent group found, Except.map]

theorem add_alternative_ok (query : Query) (parent : DisjunctionMaxId) (generated : Bool)
    (there : query.DisjunctionMaxAt parent.index) :
    query.addAlternative parent generated = .ok (query.attachAlternative parent generated) := by
  obtain ⟨group, found⟩ := grows_disjunction_max _ _ (attach_alternative_grows query parent generated there) _ there
  simp [Query.addAlternative, disjunction_max_ok _ parent group found, Except.map]

theorem add_term_ok (query : Query) (parent : DisjunctionMaxId) (field : Option String) (value : String)
    (generated : Bool) (there : query.DisjunctionMaxAt parent.index) :
    query.addTerm parent field value generated = .ok (query.attachTerm parent field value generated) := by
  obtain ⟨group, found⟩ := grows_disjunction_max _ _
    (attach_term_grows query parent field value generated there) _ there
  simp [Query.addTerm, disjunction_max_ok _ parent group found, Except.map]

theorem add_token_ok (query : Query) (linked : query.Linked) (field : Option String) (value : String)
    (generated : Bool) : query.addTokenGuarded field value generated = .ok (query.addToken field value generated) := by
  have atRoot := root_boolean query linked
  have place := add_disjunction_max_ok query Query.root .should generated atRoot
  have word := add_term_ok _ (query.attachDisjunctionMax Query.root .should generated).2 field value generated
    (attach_disjunction_max_there query Query.root .should generated atRoot)
  rw [Query.addTokenGuarded, place, ok_bind, word]
  rfl

mutual
theorem load_clause_guarded (parent : BooleanId) (query : Query) (clause : ClauseDocument)
    (there : query.BooleanAt parent.index) :
    query.loadClause parent clause = (query.addClause parent clause).mapError .structure := by
  cases clause with
  | boolean occur generated clauses =>
      rw [Query.loadClause, Query.addClause, add_boolean_ok query parent occur generated there]
      exact load_clauses_guarded _ _ clauses (attach_boolean_there query parent occur generated there)
  | disjunctionMax occur generated clauses =>
      by_cases empty : clauses.isEmpty
      · simp [Query.loadClause, Query.addClause, empty]
      · rw [Query.loadClause, Query.addClause, if_neg empty, if_neg empty,
          add_disjunction_max_ok query parent occur generated there]
        exact load_alternatives_guarded _ _ clauses
          (attach_disjunction_max_there query parent occur generated there)
  | term field value generated => rfl
theorem load_clauses_guarded (parent : BooleanId) (query : Query) (clauses : List ClauseDocument)
    (there : query.BooleanAt parent.index) :
    query.loadClauses parent clauses = (query.addClauses parent clauses).mapError .structure := by
  cases clauses with
  | nil => rfl
  | cons clause rest =>
      rw [Query.loadClauses, Query.addClauses, load_clause_guarded parent query clause there]
      cases first : query.addClause parent clause with
      | error fault => rfl
      | ok next =>
          exact load_clauses_guarded parent next rest
            (grows_boolean query next (add_clause_grows parent query next clause there first) _ there)
theorem load_alternative_guarded (parent : DisjunctionMaxId) (query : Query) (clause : ClauseDocument)
    (there : query.DisjunctionMaxAt parent.index) :
    query.loadAlternative parent clause = (query.addAlternativeTree parent clause).mapError .structure := by
  cases clause with
  | boolean occur generated clauses =>
      rw [Query.loadAlternative, Query.addAlternativeTree, add_alternative_ok query parent generated there]
      exact load_clauses_guarded _ _ clauses (attach_alternative_there query parent generated there)
  | disjunctionMax occur generated clauses => rfl
  | term field value generated =>
      rw [Query.loadAlternative, Query.addAlternativeTree, add_term_ok query parent field value generated there]
      rfl
theorem load_alternatives_guarded (parent : DisjunctionMaxId) (query : Query) (clauses : List ClauseDocument)
    (there : query.DisjunctionMaxAt parent.index) :
    query.loadAlternatives parent clauses = (query.addAlternatives parent clauses).mapError .structure := by
  cases clauses with
  | nil => rfl
  | cons clause rest =>
      rw [Query.loadAlternatives, Query.addAlternatives, load_alternative_guarded parent query clause there]
      cases first : query.addAlternativeTree parent clause with
      | error fault => rfl
      | ok next =>
          exact load_alternatives_guarded parent next rest
            (grows_disjunction_max query next (add_alternative_tree_grows parent query next clause there first) _ there)
end

theorem to_query_guarded (document : Document) :
    document.toQueryGuarded = document.toQuery.mapError .structure :=
  load_clauses_guarded _ _ document.clauses (root_boolean _ (new_linked document.generated))

theorem root_clauses (query : Query) (group : BooleanQuery) (atRoot : query.clause? 0 = some (.boolean group)) :
    query.clauses = group.clauses :=
  child_ids_found query 0 _ atRoot

theorem places_ok (query : Query) (root : query.BooleanAt 0) (present : ∀ id ∈ query.clauses, id < query.size) :
    Shingling.placesGuarded query = .ok (Shingling.places query) := by
  obtain ⟨group, atRoot⟩ := root
  have listed := root_clauses query group atRoot
  rw [Shingling.placesGuarded, boolean_ok query Query.root _ atRoot, ok_bind, Shingling.places, listed]
  apply map_m_ok
  intro id member
  rw [← listed] at member
  obtain ⟨node, found⟩ := clause_present query id (present id member)
  rw [clause_ok query id node found]
  simp [Query.disjunctionMax?, found]

theorem shingles_of_ok (shingling : Shingling) (query : Query) (left right : DisjunctionMaxId)
    (atLeft : query.DisjunctionMaxAt left.index) (atRight : query.DisjunctionMaxAt right.index) :
    shingling.shinglesOfGuarded query left right = .ok (shingling.shinglesOf query left right) := by
  simp only [Shingling.shinglesOfGuarded, terms_ok query left atLeft, terms_ok query right atRight, ok_bind,
    List.mapM_pure]
  rfl

theorem add_shingles_ok (query : Query) (shingles : List Shingle)
    (there : ∀ shingle ∈ shingles,
      query.DisjunctionMaxAt shingle.left.index ∧ query.DisjunctionMaxAt shingle.right.index) :
    shingles.foldlM Shingling.addShingleGuarded query = .ok (shingles.foldl Shingling.addShingle query) := by
  induction shingles generalizing query with
  | nil => rfl
  | cons shingle rest ih =>
      obtain ⟨left, right⟩ := there shingle (by simp)
      have first := attach_term_grows query shingle.left shingle.field shingle.value true left
      have head := add_shingle_grows query shingle left right
      have added : Shingling.addShingleGuarded query shingle = .ok (Shingling.addShingle query shingle) := by
        simp only [Shingling.addShingleGuarded, ok_bind,
          add_term_ok query shingle.left shingle.field shingle.value true left,
          add_term_ok _ shingle.right shingle.field shingle.value true (grows_disjunction_max _ _ first _ right)]
        rfl
      rw [List.foldlM_cons, added, ok_bind, List.foldl_cons]
      refine ih _ ?_
      intro other member
      have atOther := there other (by simp [member])
      exact ⟨grows_disjunction_max _ _ head _ atOther.1, grows_disjunction_max _ _ head _ atOther.2⟩

theorem run_guarded_there (shingling : Shingling) (query : Query) (root : query.BooleanAt 0)
    (present : ∀ id ∈ query.clauses, id < query.size)
    (there : ∀ shingle ∈ shingling.shingles query,
      query.DisjunctionMaxAt shingle.left.index ∧ query.DisjunctionMaxAt shingle.right.index) :
    shingling.runGuarded query = .ok (shingling.run query) := by
  have places := places_ok query root present
  obtain ⟨group, atRoot⟩ := root
  rw [Shingling.runGuarded, boolean_ok query Query.root _ atRoot, ok_bind, Shingling.run,
    root_clauses query group atRoot]
  by_cases short : group.clauses.length < 2
  · rw [if_pos short, if_pos short, pure_is_ok]
  · have between : ∀ pair ∈ (Shingling.places query).zip (Shingling.places query).tail,
        shingling.shinglesBetweenGuarded query pair.1 pair.2 =
          .ok (shingling.shinglesBetween query pair.1 pair.2) := by
      rintro ⟨first, second⟩ member
      have inPlaces := List.of_mem_zip member
      cases first with
      | none => rfl
      | some left =>
          cases second with
          | none => rfl
          | some right =>
              exact shingles_of_ok shingling query left right (place_there query left inPlaces.1).2
                (place_there query right (List.mem_of_mem_tail inPlaces.2)).2
    have collected := map_m_ok _ _ _ between
    simp only [if_neg short, places, ok_bind, collected]
    exact add_shingles_ok query (shingling.shingles query) there

theorem run_guarded (shingling : Shingling) (query : Query) (linked : query.Linked) :
    shingling.runGuarded query = .ok (shingling.run query) :=
  run_guarded_there shingling query (root_boolean query linked)
    (fun id listed => (linked_child query linked 0 id listed).2.1) (shingles_there shingling query linked)

end QueryShingles
