import QueryShingles.Proofs.Linked
import QueryShingles.Shingle.Basic

/-!
Everything that is done to a query makes it grow: single additions, a document that is loaded under
one of its groups, and a pass of the shingles all come down to nodes attached where they are
admitted.
-/

set_option autoImplicit false

namespace QueryShingles

inductive Query.Grows (query : Query) : Query → Prop where
  | refl : Grows query query
  | attach (grown : Query) (parent : ClauseId) (node group : Clause) (grows : Grows query grown)
      (present : grown.clause? parent = some group) (admits : group.Admits node)
      (up : node.parent = some parent) (childless : node.children = []) :
      Grows query (grown.attach parent node)

def Query.BooleanAt (query : Query) (id : ClauseId) : Prop :=
  ∃ group, query.clause? id = some (.boolean group)

def Query.DisjunctionMaxAt (query : Query) (id : ClauseId) : Prop :=
  ∃ group, query.clause? id = some (.disjunctionMax group)

theorem grows_trans (a b c : Query) (first : a.Grows b) (second : b.Grows c) : a.Grows c := by
  induction second with
  | refl => exact first
  | attach grown parent node group _ present admits up childless ih =>
      exact .attach grown parent node group ih present admits up childless

theorem grows_linked (query grown : Query) (linked : query.Linked) (grows : query.Grows grown) :
    grown.Linked := by
  induction grows with
  | refl => exact linked
  | attach grown parent node group _ present admits up childless ih =>
      exact attach_linked grown parent node group ih present admits up childless

theorem grows_size (query grown : Query) (grows : query.Grows grown) : query.size ≤ grown.size := by
  induction grows with
  | refl => exact Nat.le_refl _
  | attach grown parent node _ _ _ _ _ _ ih =>
      rw [attach_size]
      exact Nat.le_succ_of_le ih

theorem grows_keeps (query grown : Query) (grows : query.Grows grown) (id : ClauseId) (node : Clause)
    (found : query.clause? id = some node) : ∃ kept, grown.clause? id = some kept ∧ kept.bare = node.bare := by
  induction grows with
  | refl => exact ⟨node, found, rfl⟩
  | attach grown parent new _ _ _ _ _ _ ih =>
      obtain ⟨old, read, same⟩ := ih
      obtain ⟨kept, keptRead, keptSame⟩ := attach_keeps_found grown parent id new old read
      exact ⟨kept, keptRead, keptSame.trans same⟩

theorem grows_boolean (query grown : Query) (grows : query.Grows grown) (id : ClauseId)
    (there : query.BooleanAt id) : grown.BooleanAt id := by
  obtain ⟨group, found⟩ := there
  obtain ⟨kept, read, same⟩ := grows_keeps query grown grows id _ found
  cases kept with
  | boolean kept => exact ⟨kept, read⟩
  | disjunctionMax kept => simp [Clause.bare] at same
  | term word => simp [Clause.bare] at same

theorem grows_disjunction_max (query grown : Query) (grows : query.Grows grown) (id : ClauseId)
    (there : query.DisjunctionMaxAt id) : grown.DisjunctionMaxAt id := by
  obtain ⟨group, found⟩ := there
  obtain ⟨kept, read, same⟩ := grows_keeps query grown grows id _ found
  cases kept with
  | boolean kept => simp [Clause.bare] at same
  | disjunctionMax kept => exact ⟨kept, read⟩
  | term word => simp [Clause.bare] at same

theorem root_boolean (query : Query) (linked : query.Linked) : query.BooleanAt 0 := by
  obtain ⟨generated, clauses, found⟩ := linked.root
  exact ⟨_, found⟩

theorem attach_disjunction_max_grows (query : Query) (parent : BooleanId) (occur : Occur) (generated : Bool)
    (there : query.BooleanAt parent.index) :
    query.Grows (query.attachDisjunctionMax parent occur generated).1 := by
  obtain ⟨group, found⟩ := there
  exact .attach query parent.index _ (.boolean group) .refl found trivial rfl rfl

theorem attach_disjunction_max_there (query : Query) (parent : BooleanId) (occur : Occur) (generated : Bool)
    (there : query.BooleanAt parent.index) :
    (query.attachDisjunctionMax parent occur generated).1.DisjunctionMaxAt query.size := by
  obtain ⟨group, found⟩ := there
  exact ⟨_, attach_new query parent.index _ (clause_bound query parent.index _ found)⟩

theorem attach_boolean_grows (query : Query) (parent : BooleanId) (occur : Occur) (generated : Bool)
    (there : query.BooleanAt parent.index) : query.Grows (query.attachBoolean parent occur generated).1 := by
  obtain ⟨group, found⟩ := there
  exact .attach query parent.index _ (.boolean group) .refl found trivial rfl rfl

theorem attach_boolean_there (query : Query) (parent : BooleanId) (occur : Occur) (generated : Bool)
    (there : query.BooleanAt parent.index) :
    (query.attachBoolean parent occur generated).1.BooleanAt query.size := by
  obtain ⟨group, found⟩ := there
  exact ⟨_, attach_new query parent.index _ (clause_bound query parent.index _ found)⟩

theorem attach_alternative_grows (query : Query) (parent : DisjunctionMaxId) (generated : Bool)
    (there : query.DisjunctionMaxAt parent.index) : query.Grows (query.attachAlternative parent generated).1 := by
  obtain ⟨group, found⟩ := there
  exact .attach query parent.index _ (.disjunctionMax group) .refl found rfl rfl rfl

theorem attach_alternative_there (query : Query) (parent : DisjunctionMaxId) (generated : Bool)
    (there : query.DisjunctionMaxAt parent.index) :
    (query.attachAlternative parent generated).1.BooleanAt query.size := by
  obtain ⟨group, found⟩ := there
  exact ⟨_, attach_new query parent.index _ (clause_bound query parent.index _ found)⟩

theorem attach_term_grows (query : Query) (parent : DisjunctionMaxId) (field : Option String) (value : String)
    (generated : Bool) (there : query.DisjunctionMaxAt parent.index) :
    query.Grows (query.attachTerm parent field value generated).1 := by
  obtain ⟨group, found⟩ := there
  exact .attach query parent.index _ (.disjunctionMax group) .refl found trivial rfl rfl

theorem add_token_grows (query : Query) (linked : query.Linked) (field : Option String) (value : String)
    (generated : Bool) : query.Grows (query.addToken field value generated).1 :=
  grows_trans _ _ _ (attach_disjunction_max_grows query Query.root .should generated (root_boolean query linked))
    (attach_term_grows _ _ field value generated
      (attach_disjunction_max_there query Query.root .should generated (root_boolean query linked)))

mutual
theorem add_clause_grows (parent : BooleanId) (query grown : Query) (clause : ClauseDocument)
    (there : query.BooleanAt parent.index) (added : query.addClause parent clause = .ok grown) :
    query.Grows grown := by
  cases clause with
  | boolean occur generated clauses =>
      exact grows_trans _ _ _ (attach_boolean_grows query parent occur generated there)
        (add_clauses_grows _ _ grown clauses (attach_boolean_there query parent occur generated there) added)
  | disjunctionMax occur generated clauses =>
      by_cases empty : clauses.isEmpty
      · simp [Query.addClause, empty] at added
      · simp only [Query.addClause, if_neg empty] at added
        exact grows_trans _ _ _ (attach_disjunction_max_grows query parent occur generated there)
          (add_alternatives_grows _ _ grown clauses
            (attach_disjunction_max_there query parent occur generated there) added)
  | term field value generated => simp [Query.addClause] at added
theorem add_clauses_grows (parent : BooleanId) (query grown : Query) (clauses : List ClauseDocument)
    (there : query.BooleanAt parent.index) (added : query.addClauses parent clauses = .ok grown) :
    query.Grows grown := by
  cases clauses with
  | nil =>
      cases added
      exact .refl
  | cons clause rest =>
      cases first : query.addClause parent clause with
      | error fault => simp [Query.addClauses, first] at added
      | ok next =>
          simp only [Query.addClauses, first] at added
          have head := add_clause_grows parent query next clause there first
          exact grows_trans _ _ _ head
            (add_clauses_grows parent next grown rest (grows_boolean query next head _ there) added)
theorem add_alternative_tree_grows (parent : DisjunctionMaxId) (query grown : Query) (clause : ClauseDocument)
    (there : query.DisjunctionMaxAt parent.index)
    (added : query.addAlternativeTree parent clause = .ok grown) : query.Grows grown := by
  cases clause with
  | boolean occur generated clauses =>
      exact grows_trans _ _ _ (attach_alternative_grows query parent generated there)
        (add_clauses_grows _ _ grown clauses (attach_alternative_there query parent generated there) added)
  | disjunctionMax occur generated clauses => simp [Query.addAlternativeTree] at added
  | term field value generated =>
      cases added
      exact attach_term_grows query parent field value generated there
theorem add_alternatives_grows (parent : DisjunctionMaxId) (query grown : Query) (clauses : List ClauseDocument)
    (there : query.DisjunctionMaxAt parent.index)
    (added : query.addAlternatives parent clauses = .ok grown) : query.Grows grown := by
  cases clauses with
  | nil =>
      cases added
      exact .refl
  | cons clause rest =>
      cases first : query.addAlternativeTree parent clause with
      | error fault => simp [Query.addAlternatives, first] at added
      | ok next =>
          simp only [Query.addAlternatives, first] at added
          have head := add_alternative_tree_grows parent query next clause there first
          exact grows_trans _ _ _ head
            (add_alternatives_grows parent next grown rest (grows_disjunction_max query next head _ there) added)
end

theorem loaded_linked (document : Document) (query : Query) (loaded : document.toQuery = .ok query) :
    query.Linked :=
  grows_linked _ query (new_linked document.generated)
    (add_clauses_grows _ _ query document.clauses (root_boolean _ (new_linked document.generated)) loaded)

theorem terms_of_parent (query : Query) (linked : query.Linked) (place : DisjunctionMaxId) (word : Term)
    (member : word ∈ query.termsOf place) : word.parent = place := by
  obtain ⟨id, listed, isTerm⟩ := List.mem_filterMap.mp member
  have named := (linked.listed place.index id).mp listed
  cases found : query.clause? id with
  | none => simp [Query.term?, found] at isTerm
  | some node =>
      cases node with
      | term other =>
          simp only [Query.term?, found, Option.bind_eq_bind, Option.bind_some, Clause.asTerm?,
            Option.some.injEq] at isTerm
          subst isTerm
          rw [parent_of_found query id _ found] at named
          cases place
          cases other with
          | mk parent field value generated =>
              cases parent
              simpa [Clause.parent] using named
      | boolean group => simp [Query.term?, found, Clause.asTerm?] at isTerm
      | disjunctionMax group => simp [Query.term?, found, Clause.asTerm?] at isTerm

theorem sources_parent (shingling : Shingling) (query : Query) (linked : query.Linked) (place : DisjunctionMaxId)
    (word : Term) (member : word ∈ shingling.sources query place) : word.parent = place :=
  terms_of_parent query linked place word (List.mem_filter.mp member).1

theorem shingles_of_ends (shingling : Shingling) (query : Query) (linked : query.Linked)
    (left right : DisjunctionMaxId) (shingle : Shingle)
    (member : shingle ∈ shingling.shinglesOf query left right) :
    shingle.left = left ∧ shingle.right = right := by
  obtain ⟨l, isLeft, member⟩ := List.mem_flatMap.mp member
  obtain ⟨r, isRight, same⟩ := List.mem_map.mp member
  subst same
  exact ⟨sources_parent shingling query linked left l isLeft,
    sources_parent shingling query linked right r (List.mem_filter.mp isRight).1⟩

def Query.PlaceAt (query : Query) (id : ClauseId) : Prop :=
  id ∈ query.clauses ∧ query.DisjunctionMaxAt id

theorem place_there (query : Query) (place : DisjunctionMaxId) (member : some place ∈ Shingling.places query) :
    query.PlaceAt place.index := by
  obtain ⟨id, listed, same⟩ := List.mem_map.mp member
  obtain ⟨group, read, named⟩ := Option.map_eq_some_iff.mp same
  subst named
  refine ⟨listed, ?_⟩
  cases found : query.clause? id with
  | none => simp [Query.disjunctionMax?, found] at read
  | some node =>
      cases node with
      | disjunctionMax other => exact ⟨other, found⟩
      | boolean other => simp [Query.disjunctionMax?, found, Clause.asDisjunctionMax?] at read
      | term word => simp [Query.disjunctionMax?, found, Clause.asDisjunctionMax?] at read

theorem shingles_placed (shingling : Shingling) (query : Query) (linked : query.Linked) (shingle : Shingle)
    (member : shingle ∈ shingling.shingles query) :
    query.PlaceAt shingle.left.index ∧ query.PlaceAt shingle.right.index := by
  obtain ⟨⟨first, second⟩, pair, member⟩ := List.mem_flatMap.mp member
  have inPlaces := List.of_mem_zip pair
  cases first with
  | none => simp [Shingling.shinglesBetween] at member
  | some left =>
      cases second with
      | none => simp [Shingling.shinglesBetween] at member
      | some right =>
          obtain ⟨atLeft, atRight⟩ := shingles_of_ends shingling query linked left right shingle member
          rw [atLeft, atRight]
          exact ⟨place_there query left inPlaces.1, place_there query right (List.mem_of_mem_tail inPlaces.2)⟩

theorem shingles_there (shingling : Shingling) (query : Query) (linked : query.Linked) (shingle : Shingle)
    (member : shingle ∈ shingling.shingles query) :
    query.DisjunctionMaxAt shingle.left.index ∧ query.DisjunctionMaxAt shingle.right.index := by
  obtain ⟨left, right⟩ := shingles_placed shingling query linked shingle member
  exact ⟨left.2, right.2⟩

theorem add_shingle_grows (query : Query) (shingle : Shingle)
    (left : query.DisjunctionMaxAt shingle.left.index) (right : query.DisjunctionMaxAt shingle.right.index) :
    query.Grows (Shingling.addShingle query shingle) := by
  have first := attach_term_grows query shingle.left shingle.field shingle.value true left
  exact grows_trans _ _ _ first (attach_term_grows _ shingle.right shingle.field shingle.value true
    (grows_disjunction_max _ _ first _ right))

theorem add_shingles_grow (query : Query) (shingles : List Shingle)
    (there : ∀ shingle ∈ shingles,
      query.DisjunctionMaxAt shingle.left.index ∧ query.DisjunctionMaxAt shingle.right.index) :
    query.Grows (shingles.foldl Shingling.addShingle query) := by
  induction shingles generalizing query with
  | nil => exact .refl
  | cons shingle rest ih =>
      have atHead := there shingle (by simp)
      have head := add_shingle_grows query shingle atHead.1 atHead.2
      refine grows_trans _ _ _ head (ih _ ?_)
      intro other member
      have atOther := there other (by simp [member])
      exact ⟨grows_disjunction_max _ _ head _ atOther.1, grows_disjunction_max _ _ head _ atOther.2⟩

theorem run_grows (shingling : Shingling) (query : Query) (linked : query.Linked) :
    query.Grows (shingling.run query) := by
  by_cases short : query.clauses.length < 2
  · rw [Shingling.run, if_pos short]
    exact .refl
  · rw [Shingling.run, if_neg short]
    exact add_shingles_grow query _ (shingles_there shingling query linked)

theorem run_linked (shingling : Shingling) (query : Query) (linked : query.Linked) : (shingling.run query).Linked :=
  grows_linked query _ linked (run_grows shingling query linked)

end QueryShingles
