import Mathlib.Data.List.Basic
import QueryShingles.Proofs.Guarded
import QueryShingles.Proofs.ShingledTerms

/-!
Where the nodes of a pass come to stand. A shingle becomes two nodes behind all others, the first under
its left place and the second under its right one. Of the nodes that were there only places change, and
of a place only its list of children, which goes on with the new nodes that name it.
-/

set_option autoImplicit false

namespace QueryShingles

namespace Shingling

/-- The shingles of two places, meant for these places whatever their terms name as parents. -/
def madeBetween (shingling : Shingling) (query : Query) :
    Option DisjunctionMaxId → Option DisjunctionMaxId → List Shingle
  | some left, some right =>
      (shingling.sources query left).flatMap fun l =>
        ((shingling.sources query right).filter fun r => l.field = r.field).map fun r =>
          ⟨left, right, l.field, l.value ++ r.value⟩
  | _, _ => []

def made (shingling : Shingling) (query : Query) : List Shingle :=
  (List.range query.clauses.length).flatMap (seam (shingling.madeBetween query) (places query))

end Shingling

structure Query.Shingled (query : Query) (shingles : List Shingle) (grown : Query) : Prop where
  size : grown.size = query.size + 2 * shingles.length
  kept : ∀ id node, query.clause? id = some node →
    ∃ kept, grown.clause? id = some kept ∧ kept.bare = node.bare
  untouched : ∀ id < query.size, ¬ query.PlaceAt id → grown.clause? id = query.clause? id
  clauses : grown.clauses = query.clauses
  left : ∀ k shingle, shingles[k]? = some shingle →
    grown.clause? (query.size + 2 * k) = some (.term ⟨shingle.left, shingle.field, shingle.value, true⟩)
  right : ∀ k shingle, shingles[k]? = some shingle →
    grown.clause? (query.size + 2 * k + 1) = some (.term ⟨shingle.right, shingle.field, shingle.value, true⟩)
  listed : ∀ id, grown.childIds id = query.childIds id ++
    (List.range' query.size (2 * shingles.length)).filter fun child => grown.parentOf? child = some id

theorem bare_parent (a b : Clause) (same : a.bare = b.bare) : a.parent = b.parent := by
  cases a <;> cases b <;> simp_all [Clause.bare, Clause.parent]

theorem linked_child_ids (query : Query) (linked : query.Linked) (id : ClauseId) :
    query.childIds id = (List.range query.size).filter fun child => query.parentOf? child = some id := by
  have members : ∀ child, child ∈ query.childIds id ↔
      child ∈ (List.range query.size).filter fun child => query.parentOf? child = some id := by
    intro child
    rw [List.mem_filter, List.mem_range, decide_eq_true_eq, linked.listed id child]
    exact ⟨fun named => ⟨parent_of_bound query child id named, named⟩, fun both => both.2⟩
  -- Both lists go up, so they are equal once they have the same members.
  have ascending : ((List.range query.size).filter fun child => query.parentOf? child = some id).Pairwise (· < ·) :=
    List.pairwise_lt_range.filter _
  have same := (List.perm_ext_iff_of_nodup (linked_distinct query linked id) (ascending.imp Nat.ne_of_lt)).mpr members
  refine same.eq_of_pairwise ?_ (linked.ascending id) ascending
  intro a b _ _ before behind
  exact absurd before (Nat.lt_asymm behind)

theorem grows_parent_of (query grown : Query) (grows : query.Grows grown) (id : ClauseId) (bound : id < query.size) :
    grown.parentOf? id = query.parentOf? id := by
  obtain ⟨node, found⟩ := clause_present query id bound
  obtain ⟨kept, read, bare⟩ := grows_keeps query grown grows id node found
  rw [parent_of_found grown id kept read, parent_of_found query id node found, bare_parent kept node bare]

theorem grows_child_ids (query grown : Query) (linked : query.Linked) (grows : query.Grows grown) (added : Nat)
    (size : grown.size = query.size + added) (id : ClauseId) :
    grown.childIds id = query.childIds id ++
      (List.range' query.size added).filter fun child => grown.parentOf? child = some id := by
  have old : (List.range query.size).filter (fun child => grown.parentOf? child = some id) = query.childIds id := by
    rw [linked_child_ids query linked id]
    refine List.filter_congr ?_
    intro child member
    rw [grows_parent_of query grown grows child (List.mem_range.mp member)]
  have split : List.range grown.size = List.range query.size ++ List.range' query.size added := by
    have parts := List.range'_append_1 (s := 0) (m := query.size) (n := added)
    rw [Nat.zero_add] at parts
    rw [size, List.range_eq_range', List.range_eq_range', parts]
  rw [linked_child_ids grown (grows_linked query grown linked grows) id, split, List.filter_append, old]

theorem grows_term (query grown : Query) (grows : query.Grows grown) (id : ClauseId) (word : Term)
    (found : query.clause? id = some (.term word)) : grown.clause? id = some (.term word) := by
  obtain ⟨kept, read, bare⟩ := grows_keeps query grown grows id _ found
  cases kept with
  | boolean group => cases bare
  | disjunctionMax group => cases bare
  | term other =>
      cases bare
      exact read

theorem made_between (shingling : Shingling) (query : Query) (linked : query.Linked)
    (left right : Option DisjunctionMaxId) :
    shingling.shinglesBetween query left right = shingling.madeBetween query left right := by
  cases left with
  | none => rfl
  | some left =>
      cases right with
      | none => rfl
      | some right =>
          refine List.flatMap_congr fun l fromLeft => List.map_congr_left fun r chosen => ?_
          rw [sources_parent shingling query linked left l fromLeft,
            sources_parent shingling query linked right r (List.mem_filter.mp chosen).1]

theorem shingles_made (shingling : Shingling) (query : Query) (linked : query.Linked) :
    shingling.shingles query = shingling.made query := by
  have pairs := zip_seams (shingling.madeBetween query) (Shingling.places query)
  rw [show (Shingling.places query).length = query.clauses.length from List.length_map _] at pairs
  rw [Shingling.made, ← pairs]
  exact List.flatMap_congr fun pair _ => made_between shingling query linked pair.1 pair.2

theorem add_shingle_nodes (query : Query) (shingle : Shingle) (left : query.DisjunctionMaxAt shingle.left.index)
    (right : query.DisjunctionMaxAt shingle.right.index) :
    (Shingling.addShingle query shingle).clause? query.size =
      some (.term ⟨shingle.left, shingle.field, shingle.value, true⟩) ∧
    (Shingling.addShingle query shingle).clause? (query.size + 1) =
      some (.term ⟨shingle.right, shingle.field, shingle.value, true⟩) := by
  have first := attach_term_grows query shingle.left shingle.field shingle.value true left
  have rightLater := grows_disjunction_max _ _ first _ right
  obtain ⟨leftGroup, atLeft⟩ := left
  obtain ⟨rightGroup, atRight⟩ := rightLater
  constructor
  · exact grows_term _ _ (attach_term_grows _ shingle.right shingle.field shingle.value true ⟨rightGroup, atRight⟩)
      query.size _ (attach_new query shingle.left.index _ (clause_bound query _ _ atLeft))
  · have new := attach_new _ shingle.right.index (.term ⟨shingle.right, shingle.field, shingle.value, true⟩)
      (clause_bound _ _ _ atRight)
    rw [Query.attachTerm, attach_size] at new
    exact new

/-- By induction on the shingles, for any query: those behind the first are added to a larger one, in which the nodes
of the first no longer change. -/
theorem add_shingles_nodes (query : Query) (shingles : List Shingle)
    (there : ∀ shingle ∈ shingles,
      query.DisjunctionMaxAt shingle.left.index ∧ query.DisjunctionMaxAt shingle.right.index)
    (k : Nat) (shingle : Shingle) (found : shingles[k]? = some shingle) :
    (shingles.foldl Shingling.addShingle query).clause? (query.size + 2 * k) =
      some (.term ⟨shingle.left, shingle.field, shingle.value, true⟩) ∧
    (shingles.foldl Shingling.addShingle query).clause? (query.size + 2 * k + 1) =
      some (.term ⟨shingle.right, shingle.field, shingle.value, true⟩) := by
  induction shingles generalizing query k with
  | nil => cases found
  | cons first rest ih =>
      obtain ⟨left, right⟩ := there first List.mem_cons_self
      have head := add_shingle_grows query first left right
      have later : ∀ other ∈ rest, (Shingling.addShingle query first).DisjunctionMaxAt other.left.index ∧
          (Shingling.addShingle query first).DisjunctionMaxAt other.right.index := by
        intro other member
        obtain ⟨left, right⟩ := there other (List.mem_cons_of_mem _ member)
        exact ⟨grows_disjunction_max _ _ head _ left, grows_disjunction_max _ _ head _ right⟩
      rw [List.foldl_cons]
      cases k with
      | zero =>
          cases found
          have tail := add_shingles_grow _ rest later
          obtain ⟨atLeft, atRight⟩ := add_shingle_nodes query shingle left right
          exact ⟨grows_term _ _ tail _ _ atLeft, grows_term _ _ tail _ _ atRight⟩
      | succ k =>
          have behind := ih _ later k found
          have size : (Shingling.addShingle query first).size = query.size + 2 := add_shingles_size query [first]
          have shift : query.size + 2 + 2 * k = query.size + 2 * (k + 1) := by omega
          rw [size, shift] at behind
          exact behind

theorem add_shingle_other (query : Query) (shingle : Shingle) (id : ClauseId) (bound : id < query.size)
    (notLeft : id ≠ shingle.left.index) (notRight : id ≠ shingle.right.index) :
    (Shingling.addShingle query shingle).clause? id = query.clause? id := by
  have later : id < (query.attachTerm shingle.left shingle.field shingle.value true).1.size := by
    rw [Query.attachTerm, attach_size]
    exact Nat.lt_succ_of_lt bound
  exact (attach_other _ shingle.right.index id _ later notRight).trans
    (attach_other query shingle.left.index id _ bound notLeft)

theorem add_shingles_other (query : Query) (shingles : List Shingle) (id : ClauseId) (bound : id < query.size)
    (elsewhere : ∀ shingle ∈ shingles, id ≠ shingle.left.index ∧ id ≠ shingle.right.index) :
    (shingles.foldl Shingling.addShingle query).clause? id = query.clause? id := by
  induction shingles generalizing query with
  | nil => rfl
  | cons shingle rest ih =>
      obtain ⟨notLeft, notRight⟩ := elsewhere shingle List.mem_cons_self
      have larger : id < (Shingling.addShingle query shingle).size := by
        rw [show (Shingling.addShingle query shingle).size = _ from add_shingles_size query [shingle]]
        exact Nat.lt_add_right _ bound
      rw [List.foldl_cons, ih _ larger fun other member => elsewhere other (List.mem_cons_of_mem _ member)]
      exact add_shingle_other query shingle id bound notLeft notRight

theorem run_shingled (shingling : Shingling) (query : Query) (linked : query.Linked) :
    query.Shingled (shingling.made query) (shingling.run query) := by
  have grows := run_grows shingling query linked
  have there := shingles_there shingling query linked
  have placed := shingles_placed shingling query linked
  have clauses := run_clauses shingling query linked
  rw [run_all, shingles_made shingling query linked] at grows clauses ⊢
  rw [shingles_made shingling query linked] at there placed
  have size := add_shingles_size query (shingling.made query)
  refine ⟨size, grows_keeps query _ grows, ?_, clauses, ?_, ?_, grows_child_ids query _ linked grows _ size⟩
  · intro id bound notPlace
    refine add_shingles_other query _ id bound ?_
    intro shingle member
    obtain ⟨left, right⟩ := placed shingle member
    exact ⟨fun same => notPlace (same ▸ left), fun same => notPlace (same ▸ right)⟩
  · intro k shingle found
    exact (add_shingles_nodes query _ there k shingle found).1
  · intro k shingle found
    exact (add_shingles_nodes query _ there k shingle found).2

/-- A pass never looks for a node that is not there. It adds the shingles of all neighbouring places to the user
query and leaves the boosts and the filters as they are. -/
theorem shingles_placed_behind (expanded : ExpandedQuery) (shingling : Shingling)
    (reachable : expanded.userQuery.Reachable) :
    let after := expanded.shingled shingling
    shingling.runGuarded expanded.userQuery = .ok after.userQuery ∧
      after.boostUp = expanded.boostUp ∧ after.boostDown = expanded.boostDown ∧ after.filters = expanded.filters ∧
      expanded.userQuery.Shingled (shingling.made expanded.userQuery) after.userQuery := by
  have linked := reachable_linked _ reachable
  exact ⟨run_guarded shingling _ linked, rfl, rfl, rfl, run_shingled shingling _ linked⟩

theorem shingles_placed_behind_two_shingles :
    let query : Query := ⟨#[.boolean ⟨none, .should, false, [1, 6]⟩, .disjunctionMax ⟨⟨0⟩, .should, false, [2, 3]⟩,
      .term ⟨⟨1⟩, none, "a", false⟩, .boolean ⟨some 1, .should, false, [4]⟩,
      .disjunctionMax ⟨⟨3⟩, .should, false, [5]⟩, .term ⟨⟨4⟩, none, "x", false⟩,
      .disjunctionMax ⟨⟨0⟩, .must, false, [7, 8, 9]⟩, .term ⟨⟨6⟩, some "f", "c", false⟩,
      .term ⟨⟨6⟩, none, "b", false⟩, .term ⟨⟨6⟩, none, "d", true⟩]⟩
    let after := (ExpandedQuery.mk query [] [] [Query.new true]).shingled ⟨true⟩
    query.Reachable ∧ after.filters = [Query.new true] ∧ after.userQuery.size = 14 ∧
      after.userQuery.clause? 12 = some (.term ⟨⟨1⟩, none, "a" ++ "d", true⟩) ∧
      after.userQuery.clause? 13 = some (.term ⟨⟨6⟩, none, "a" ++ "d", true⟩) ∧
      after.userQuery.childIds 1 = [2, 3, 10, 12] ∧ after.userQuery.childIds 6 = [7, 8, 9, 11, 13] ∧
      after.userQuery.clause? 4 = query.clause? 4 := by
  intro query after
  have reachable : query.Reachable := ⟨_, .load ⟨false,
    [.disjunctionMax .should false
      [.term none "a" false, .boolean .must false [.disjunctionMax .should false [.term none "x" false]]],
     .disjunctionMax .must false [.term (some "f") "c" false, .term none "b" false, .term none "d" true]]⟩ query rfl⟩
  obtain ⟨_, _, _, filters, placed⟩ :=
    shingles_placed_behind (ExpandedQuery.mk query [] [] [Query.new true]) ⟨true⟩ reachable
  have made : Shingling.made ⟨true⟩ query =
      [⟨⟨1⟩, ⟨6⟩, none, "a" ++ "b"⟩, ⟨⟨1⟩, ⟨6⟩, none, "a" ++ "d"⟩] := by decide +kernel
  rw [made] at placed
  refine ⟨reachable, filters, placed.size, placed.left 1 _ rfl, placed.right 1 _ rfl, ?_, ?_, ?_⟩
  · exact (placed.listed 1).trans (by decide +kernel)
  · exact (placed.listed 6).trans (by decide +kernel)
  · exact placed.untouched 4 (by decide) fun place => absurd place.1 (by decide)

end QueryShingles
