import QueryShingles.Proofs.Reloading
import QueryShingles.Proofs.Spots

/-!
What loading a document leaves of it. Only the occurrence of boolean groups among alternatives is lost;
each clause becomes the node at its own number, under the node of what it stands in.
-/

set_option autoImplicit false

namespace QueryShingles

open ClauseDocument

def Spot.node (spot : Spot) : Clause :=
  match spot.clause with
  | .boolean occur generated clauses =>
      .boolean ⟨some spot.parent, if spot.alternative then .should else occur, generated,
        positions (spot.index + 1) clauses⟩
  | .disjunctionMax occur generated clauses =>
      .disjunctionMax ⟨⟨spot.parent⟩, occur, generated, positions (spot.index + 1) clauses⟩
  | .term field value generated => .term ⟨⟨spot.parent⟩, field, value, generated⟩

theorem spot_node_parent (spot : Spot) : spot.node.parent = some spot.parent := by
  obtain ⟨index, parent, alternative, clause⟩ := spot
  cases clause <;> rfl

mutual
theorem settle_count (alternative : Bool) (clause : ClauseDocument) :
    (clause.settle alternative).count = clause.count := by
  cases clause with
  | boolean occur generated clauses => rw [settle, count, count, settle_all_count]
  | disjunctionMax occur generated clauses => rw [settle, count, count, settle_all_count]
  | term field value generated => rfl
theorem settle_all_count (alternative : Bool) (clauses : List ClauseDocument) :
    countAll (settleAll alternative clauses) = countAll clauses := by
  cases clauses with
  | nil => rfl
  | cons clause rest => rw [settleAll, countAll, countAll, settle_count, settle_all_count]
end

theorem settle_positions (alternative : Bool) (start : ClauseId) (clauses : List ClauseDocument) :
    positions start (settleAll alternative clauses) = positions start clauses := by
  induction clauses generalizing start with
  | nil => rfl
  | cons clause rest ih => rw [settleAll, positions, positions, settle_count, ih]

mutual
theorem nodes_spots (parent index : ClauseId) (alternative : Bool) (clause : ClauseDocument) :
    (clause.settle alternative).nodes parent index = (clause.spots parent index alternative).map Spot.node := by
  cases clause with
  | boolean occur generated clauses =>
      rw [settle, nodes, spots, List.map_cons, nodes_all_spots, settle_positions]
      rfl
  | disjunctionMax occur generated clauses =>
      rw [settle, nodes, spots, List.map_cons, nodes_all_spots, settle_positions]
      rfl
  | term field value generated => rfl
theorem nodes_all_spots (parent index : ClauseId) (alternative : Bool) (clauses : List ClauseDocument) :
    nodesAll parent index (settleAll alternative clauses) = (spotsAll parent index alternative clauses).map Spot.node := by
  cases clauses with
  | nil => rfl
  | cons clause rest =>
      rw [settleAll, nodesAll, spotsAll, List.map_append, settle_count, nodes_spots, nodes_all_spots]
end

theorem loaded_size (document : Document) (query : Query) (loaded : document.toQuery = .ok query) :
    query.size = 1 + countAll document.clauses := by
  have same := ((to_query_iff document query).mp loaded).2
  rw [same, Document.numbered, Query.size, List.size_toArray, List.length_cons, nodes_all_length, Document.settle,
    settle_all_count, Nat.add_comm]

theorem loaded_spot (document : Document) (query : Query) (loaded : document.toQuery = .ok query) (spot : Spot)
    (member : spot ∈ document.spots) : query.clause? spot.index = some spot.node := by
  have same := ((to_query_iff document query).mp loaded).2
  obtain ⟨k, found⟩ := List.mem_iff_getElem?.mp member
  -- The spot at `k` is number `k + 1`, and its node is the one behind the root and `k` others.
  have number : spot.index = k + 1 := by
    have listed : (document.spots.map Spot.index)[k]? = some spot.index := by rw [List.getElem?_map, found]; rfl
    rw [document_spots_indices] at listed
    obtain ⟨bound, here⟩ := List.getElem?_eq_some_iff.mp listed
    rw [← here, List.getElem_range', Nat.one_mul, Nat.add_comm]
  rw [number, same, Document.numbered, Query.clause?, List.getElem?_toArray, List.getElem?_cons_succ, Document.settle,
    nodes_all_spots, List.getElem?_map]
  exact congrArg (Option.map Spot.node) found

mutual
theorem spots_view (query : Query) (linked : query.Linked) (parent index : ClauseId) (alternative : Bool)
    (clause : ClauseDocument)
    (there : ∀ spot ∈ clause.spots parent index alternative, query.clause? spot.index = some spot.node) :
    query.view index = some (clause.settle alternative) := by
  cases clause with
  | boolean occur generated clauses =>
      obtain ⟨here, deeper⟩ := List.forall_mem_cons.mp there
      have views := spots_all_views query linked index (index + 1) false clauses deeper
      rw [view_found query linked index _ here, Query.contents, child_ids_found query index _ here]
      exact congrArg (fun clauses => some (ClauseDocument.boolean _ generated clauses)) (filter_map_views _ _ _ views)
  | disjunctionMax occur generated clauses =>
      obtain ⟨here, deeper⟩ := List.forall_mem_cons.mp there
      have views := spots_all_views query linked index (index + 1) true clauses deeper
      rw [view_found query linked index _ here, Query.contents, child_ids_found query index _ here]
      exact congrArg (fun clauses => some (ClauseDocument.disjunctionMax occur generated clauses))
        (filter_map_views _ _ _ views)
  | term field value generated =>
      have here := there _ List.mem_cons_self
      exact view_found query linked index _ here
theorem spots_all_views (query : Query) (linked : query.Linked) (parent index : ClauseId) (alternative : Bool)
    (clauses : List ClauseDocument)
    (there : ∀ spot ∈ spotsAll parent index alternative clauses, query.clause? spot.index = some spot.node) :
    (positions index clauses).map query.view = (settleAll alternative clauses).map some := by
  cases clauses with
  | nil => rfl
  | cons clause rest =>
      obtain ⟨first, later⟩ := List.forall_mem_append.mp there
      rw [positions, settleAll, List.map_cons, List.map_cons, spots_view query linked parent index alternative clause first,
        spots_all_views query linked parent _ alternative rest later]
end

/-- A loaded query shows its document with the boolean groups among alternatives settled, and nothing else changed.
The clauses are its nodes in reading order, and settling again changes nothing. -/
theorem loaded_in_place (document : Document) (query : Query) (loaded : document.toQuery = .ok query) :
    query.toDocument = document.settle ∧
    query.size = 1 + countAll document.clauses ∧
    document.spots.map Spot.index = List.range' 1 (countAll document.clauses) ∧
    (∀ spot ∈ document.spots,
      query.parentOf? spot.index = some spot.parent ∧
      query.view spot.index = some (spot.clause.settle spot.alternative) ∧
      ((spot.parent = 0 ∧ spot.alternative = false ∧ spot.clause ∈ document.clauses) ∨
        ∃ outer ∈ document.spots, outer.Holds spot)) ∧
    document.settle.settle = document.settle ∧ query.toDocument.toQuery = .ok query := by
  refine ⟨to_query_document document query loaded, loaded_size document query loaded, document_spots_indices document,
    ?_, document_settle_settle document, loaded_again document query loaded⟩
  intro spot member
  have found := loaded_spot document query loaded spot member
  refine ⟨?_, ?_, document_spots_up document spot member⟩
  · rw [parent_of_found query spot.index _ found, spot_node_parent]
  · apply spots_view query (loaded_linked document query loaded) spot.parent
    intro other inside
    exact loaded_spot document query loaded other (spots_all_within 0 1 false document.clauses spot member inside)

theorem loaded_in_place_nested :
    let document : Document := ⟨true,
      [.boolean .mustNot true [],
       .disjunctionMax .must false
        [.term (some "f") "a" true, .boolean .must false [.disjunctionMax .should false [.term none "b" false]]]]⟩
    ∃ query : Query, document.toQuery = .ok query ∧ query.size = 7 ∧
      query.parentOf? 4 = some 2 ∧
      query.view 4 = some (.boolean .should false [.disjunctionMax .should false [.term none "b" false]]) ∧
      query.toDocument.toQuery = .ok query := by
  intro document
  obtain ⟨query, loaded⟩ := (to_query_ok_iff document).mpr rfl
  obtain ⟨_, size, _, places, _, again⟩ := loaded_in_place document query loaded
  obtain ⟨up, shown, _⟩ := places ⟨4, 2, true,
    .boolean .must false [.disjunctionMax .should false [.term none "b" false]]⟩
    (by simp [document, Document.spots, spotsAll, spots, count, countAll])
  exact ⟨query, loaded, size, up, shown, again⟩

end QueryShingles
