import QueryShingles.Proofs.Gating
import QueryShingles.Proofs.ShingledTerms

/-!
When a pass does nothing. It does as soon as two neighbouring places have a source of one field each, and
never otherwise. What leaves a query as it is leaves it so for any pass that takes no more sources.
-/

set_option autoImplicit false

namespace QueryShingles

namespace Query

def SourceAt (query : Query) (accept : Bool) (id : ClauseId) (field : Option String) : Prop :=
  ∃ group child word, query.clause? id = some (.disjunctionMax group) ∧ child ∈ group.clauses ∧
    query.clause? child = some (.term word) ∧ (word.generated = true → accept = true) ∧ word.field = field

/-- Two neighbouring clauses of the root have a source of one field each. -/
def Matched (query : Query) (accept : Bool) : Prop :=
  ∃ (i : Nat) (left right : ClauseId) (field : Option String),
    query.clauses[i]? = some left ∧ query.clauses[i + 1]? = some right ∧
      query.SourceAt accept left field ∧ query.SourceAt accept right field

end Query

theorem term_found_iff (query : Query) (id : ClauseId) (word : Term) :
    query.term? id = some word ↔ query.clause? id = some (.term word) := by
  rw [Query.term?]
  cases query.clause? id with
  | none => simp
  | some node => cases node <;> simp [Clause.asTerm?]

theorem place_found_iff (query : Query) (id : ClauseId) :
    query.place? id = some ⟨id⟩ ↔ query.DisjunctionMaxAt id := by
  rw [Query.place?, Query.disjunctionMax?, Query.DisjunctionMaxAt]
  cases query.clause? id with
  | none => simp
  | some node => cases node <;> simp [Clause.asDisjunctionMax?]

theorem is_source_iff (accept : Bool) (word : Term) :
    (Shingling.mk accept).isSource word = true ↔ (word.generated = true → accept = true) := by
  cases generated : word.generated <;> simp [Shingling.isSource, generated]

theorem source_at_iff (query : Query) (accept : Bool) (id : ClauseId) (field : Option String) :
    query.SourceAt accept id field ↔
      query.place? id = some ⟨id⟩ ∧ ∃ word ∈ (Shingling.mk accept).sources query ⟨id⟩, word.field = field := by
  rw [place_found_iff]
  constructor
  · intro standing
    obtain ⟨group, child, word, found, listed, read, accepted, named⟩ := standing
    refine ⟨⟨group, found⟩, word, List.mem_filter.mpr ⟨?_, (is_source_iff accept word).mpr accepted⟩, named⟩
    refine List.mem_filterMap.mpr ⟨child, ?_, (term_found_iff query child word).mpr read⟩
    rw [child_ids_found query id _ found]
    exact listed
  · intro among
    obtain ⟨⟨group, found⟩, word, member, named⟩ := among
    obtain ⟨inside, accepted⟩ := List.mem_filter.mp member
    obtain ⟨child, listed, read⟩ := List.mem_filterMap.mp inside
    rw [child_ids_found query id _ found] at listed
    exact ⟨group, child, word, found, listed, (term_found_iff query child word).mp read,
      (is_source_iff accept word).mp accepted, named⟩

theorem matched_places (query : Query) (i : Nat) (left right : ClauseId)
    (atLeft : query.clauses[i]? = some left) (atRight : query.clauses[i + 1]? = some right) :
    (query.place? left, query.place? right) ∈ (Shingling.places query).zip (Shingling.places query).tail := by
  refine List.mem_iff_getElem?.mpr ⟨i, List.getElem?_zip_eq_some.mpr ⟨?_, ?_⟩⟩
  · rw [Shingling.places, List.getElem?_map, atLeft]
    rfl
  · rw [List.getElem?_tail, Shingling.places, List.getElem?_map, atRight]
    rfl

theorem matched_shingle (query : Query) (accept : Bool) (matched : query.Matched accept) :
    ∃ shingle, shingle ∈ (Shingling.mk accept).shingles query := by
  obtain ⟨i, left, right, field, atLeft, atRight, fromLeft, fromRight⟩ := matched
  obtain ⟨leftPlace, l, leftSource, leftField⟩ := (source_at_iff query accept left field).mp fromLeft
  obtain ⟨rightPlace, r, rightSource, rightField⟩ := (source_at_iff query accept right field).mp fromRight
  have pair := matched_places query i left right atLeft atRight
  rw [leftPlace, rightPlace] at pair
  have same : l.sameField r = true := decide_eq_true (leftField.trans rightField.symm)
  exact ⟨_, List.mem_flatMap.mpr ⟨_, pair, List.mem_flatMap.mpr ⟨l, leftSource,
    List.mem_map.mpr ⟨r, List.mem_filter.mpr ⟨rightSource, same⟩, rfl⟩⟩⟩⟩

theorem shingle_matched (query : Query) (linked : query.Linked) (accept : Bool) (shingle : Shingle)
    (member : shingle ∈ (Shingling.mk accept).shingles query) : query.Matched accept := by
  obtain ⟨i, atLeft, atRight, l, leftSource, r, rightSource, leftField, rightField, _⟩ :=
    shingle_sources ⟨accept⟩ query linked shingle member
  have left := place_at_listed query i shingle.left atLeft
  have right := place_at_listed query (i + 1) shingle.right atRight
  rw [place_at_clause, left] at atLeft
  rw [place_at_clause, right] at atRight
  exact ⟨i, shingle.left.index, shingle.right.index, shingle.field, left, right,
    (source_at_iff query accept _ _).mpr ⟨atLeft, l, leftSource, leftField⟩,
    (source_at_iff query accept _ _).mpr ⟨atRight, r, rightSource, rightField⟩⟩

theorem shingles_empty_iff (query : Query) (linked : query.Linked) (accept : Bool) :
    (Shingling.mk accept).shingles query = [] ↔ ¬ query.Matched accept := by
  constructor
  · intro empty matched
    obtain ⟨shingle, member⟩ := matched_shingle query accept matched
    rw [empty] at member
    cases member
  · intro unmatched
    apply List.eq_nil_iff_forall_not_mem.mpr
    intro shingle member
    exact unmatched (shingle_matched query linked accept shingle member)

theorem run_same_iff (shingling : Shingling) (query : Query) :
    shingling.run query = query ↔ shingling.shingles query = [] := by
  rw [run_all]
  constructor
  · intro same
    have size := add_shingles_size query (shingling.shingles query)
    rw [same] at size
    exact List.eq_nil_of_length_eq_zero (by omega)
  · intro empty
    rw [empty]
    rfl

theorem run_same_gated (less more : Shingling) (gate : less.acceptGenerated = true → more.acceptGenerated = true)
    (query : Query) (same : more.run query = query) : less.run query = query := by
  rw [run_same_iff] at same ⊢
  have fewer := shingles_gated less more gate query
  rw [same] at fewer
  exact List.sublist_nil.mp fewer

theorem passes_same (query : Query) (accept : Bool) (same : (Shingling.mk accept).run query = query)
    (accepts : List Bool) (gated : ∀ other ∈ accepts, other = true → accept = true) : query.passes accepts = query := by
  -- All passes but the last leave the query as it is, so the last one meets it as the first did.
  induction accepts using List.reverseRecOn with
  | nil => rfl
  | append_singleton accepts other ih =>
      obtain ⟨earlier, last⟩ := List.forall_mem_append.mp gated
      rw [passes_next, ih earlier]
      exact run_same_gated ⟨other⟩ ⟨accept⟩ (last other List.mem_cons_self) query same

/-- A pass leaves a query as it is if and only if no two neighbouring clauses are disjunction max groups with a
source of one field each. What one pass leaves as it is no run of passes changes that takes generated terms only if
that pass did. -/
theorem run_same_iff_unmatched (query : Query) (reachable : query.Reachable) (accept : Bool) :
    ((Shingling.mk accept).run query = query ↔ ¬ query.Matched accept) ∧
    ((Shingling.mk accept).run query = query → ∀ accepts : List Bool,
      (∀ other ∈ accepts, other = true → accept = true) → query.passes accepts = query) := by
  refine ⟨?_, passes_same query accept⟩
  rw [run_same_iff]
  exact shingles_empty_iff query (reachable_linked query reachable) accept

theorem run_same_iff_unmatched_three_clauses :
    let query : Query := ⟨#[.boolean ⟨none, .should, false, [1, 3, 6, 7]⟩,
      .disjunctionMax ⟨⟨0⟩, .should, false, [2]⟩, .term ⟨⟨1⟩, none, "a", false⟩,
      .disjunctionMax ⟨⟨0⟩, .should, false, [4, 5]⟩, .term ⟨⟨3⟩, none, "b", true⟩, .term ⟨⟨3⟩, some "f", "c", false⟩,
      .boolean ⟨some 0, .must, false, []⟩,
      .disjunctionMax ⟨⟨0⟩, .should, false, [8]⟩, .term ⟨⟨7⟩, some "f", "d", false⟩]⟩
    query.Reachable ∧ (Shingling.mk false).run query = query ∧ ¬ query.Matched false ∧
      query.passes [false, false, false] = query ∧ query.Matched true ∧ (Shingling.mk true).run query ≠ query := by
  intro query
  have reachable : query.Reachable := ⟨_, .load ⟨false,
    [.disjunctionMax .should false [.term none "a" false],
     .disjunctionMax .should false [.term none "b" true, .term (some "f") "c" false],
     .boolean .must false [], .disjunctionMax .should false [.term (some "f") "d" false]]⟩ query rfl⟩
  have same : (Shingling.mk false).run query = query := by decide +kernel
  have changed : (Shingling.mk true).run query ≠ query := by decide +kernel
  obtain ⟨unmatched, stays⟩ := run_same_iff_unmatched query reachable false
  have matched : query.Matched true := by
    by_contra none
    exact changed ((run_same_iff_unmatched query reachable true).1.mpr none)
  exact ⟨reachable, same, unmatched.mp same, stays same [false, false, false] (by decide), matched, changed⟩

end QueryShingles
