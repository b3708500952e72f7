import Mathlib.Algebra.Ring.Nat
import Mathlib.Data.List.Induction
import QueryShingles.Proofs.ShingledDocument

/-!
Passes in a row over one query. The clauses of the root stay what they are, and every shingle of a
seam is two nodes more.
-/

set_option autoImplicit false

namespace QueryShingles

theorem run_all (shingling : Shingling) (query : Query) :
    shingling.run query = (shingling.shingles query).foldl Shingling.addShingle query := by
  by_cases short : query.clauses.length < 2
  · have alone : (Shingling.places query).zip (Shingling.places query).tail = [] := by
      apply List.length_eq_zero_iff.mp
      rw [List.length_zip, List.length_tail, Shingling.places, List.length_map]
      omega
    rw [Shingling.run, if_pos short, Shingling.shingles, alone]
    rfl
  · rw [Shingling.run, if_neg short]

theorem run_clauses (shingling : Shingling) (query : Query) (linked : query.Linked) :
    (shingling.run query).clauses = query.clauses := by
  rw [run_all]
  exact (add_shingles_contents query linked _ (shingles_placed shingling query linked)).1

theorem bare_place (a b : Clause) (id : ClauseId) (same : a.bare = b.bare) :
    (a.asDisjunctionMax?.map fun _ => DisjunctionMaxId.mk id) = b.asDisjunctionMax?.map fun _ => ⟨id⟩ := by
  cases a <;> cases b <;> simp_all [Clause.bare, Clause.asDisjunctionMax?]

theorem grows_places (query grown : Query) (linked : query.Linked) (grows : query.Grows grown)
    (kept : grown.clauses = query.clauses) : Shingling.places grown = Shingling.places query := by
  have each : ∀ id ∈ query.clauses, grown.place? id = query.place? id := by
    intro id listed
    obtain ⟨node, found⟩ := clause_present query id (linked_child query linked _ id listed).2.1
    obtain ⟨other, read, bare⟩ := grows_keeps query grown grows id node found
    rw [place_found grown id other read, place_found query id node found]
    exact bare_place other node id bare
  calc Shingling.places grown = query.clauses.map grown.place? := congrArg (List.map grown.place?) kept
    _ = query.clauses.map query.place? := List.map_congr_left each

theorem run_places (shingling : Shingling) (query : Query) (linked : query.Linked) :
    Shingling.places (shingling.run query) = Shingling.places query :=
  grows_places query _ linked (run_grows shingling query linked) (run_clauses shingling query linked)

theorem add_shingles_size (query : Query) (shingles : List Shingle) :
    (shingles.foldl Shingling.addShingle query).size = query.size + 2 * shingles.length := by
  induction shingles generalizing query with
  | nil => rfl
  | cons shingle rest ih =>
      have here : (Shingling.addShingle query shingle).size = query.size + 2 := by
        simp [Shingling.addShingle, Query.attachTerm]
      rw [List.foldl_cons, ih, here, List.length_cons]
      omega

theorem clauses_length (query : Query) (linked : query.Linked) :
    query.toDocument.clauses.length = query.clauses.length := by
  apply List.filterMap_length_eq_length.mpr
  intro id listed
  obtain ⟨document, shown⟩ := view_present query linked _ id listed
  exact Option.isSome_iff_exists.mpr ⟨document, shown⟩

theorem shingles_documents (shingling : Shingling) (query : Query) (linked : query.Linked) :
    (shingling.shingles query).map Shingle.document =
      (List.range query.toDocument.clauses.length).flatMap
        (seam (ClauseDocument.shingles shingling) query.toDocument.clauses) := by
  rw [Shingling.shingles, places_pairs, List.flatMap_map, List.map_flatMap, clauses_length query linked]
  have pairs := zip_seams (shingling.joined query) query.clauses
  exact pairs.trans (List.flatMap_congr fun i _ => joined_seam shingling query linked i)

theorem run_size (shingling : Shingling) (query : Query) (linked : query.Linked) :
    (shingling.run query).size = query.size + 2 * ((List.range query.toDocument.clauses.length).map fun i =>
      (seam (ClauseDocument.shingles shingling) query.toDocument.clauses i).length).sum := by
  rw [run_all, add_shingles_size, ← List.length_flatMap, ← shingles_documents shingling query linked, List.length_map]

/-- Passes over one query, which is neither written nor read in between. -/
def Query.passes (query : Query) (accepts : List Bool) : Query :=
  (accepts.foldl (fun expanded accept => expanded.shingled ⟨accept⟩) (ExpandedQuery.new query)).userQuery

theorem passes_next (query : Query) (accepts : List Bool) (accept : Bool) :
    query.passes (accepts ++ [accept]) = (Shingling.mk accept).run (query.passes accepts) := by
  rw [Query.passes, List.foldl_append]
  rfl

theorem passes_grow (query : Query) (linked : query.Linked) (accepts : List Bool) :
    query.Grows (query.passes accepts) := by
  induction accepts using List.reverseRecOn with
  | nil => exact .refl
  | append_singleton accepts accept ih =>
      rw [passes_next]
      exact grows_trans _ _ _ ih (run_grows ⟨accept⟩ _ (grows_linked query _ linked ih))

theorem passes_linked (query : Query) (linked : query.Linked) (accepts : List Bool) : (query.passes accepts).Linked :=
  grows_linked query _ linked (passes_grow query linked accepts)

theorem passes_next_document (query : Query) (linked : query.Linked) (accepts : List Bool) (accept : Bool) :
    (query.passes (accepts ++ [accept])).toDocument = (query.passes accepts).toDocument.shingled ⟨accept⟩ := by
  rw [passes_next, run_document ⟨accept⟩ _ (passes_linked query linked accepts)]

theorem passes_clauses (query : Query) (linked : query.Linked) (accepts : List Bool) :
    (query.passes accepts).clauses = query.clauses := by
  induction accepts using List.reverseRecOn with
  | nil => rfl
  | append_singleton accepts accept ih =>
      rw [passes_next, run_clauses ⟨accept⟩ _ (passes_linked query linked accepts), ih]

theorem passes_places (query : Query) (linked : query.Linked) (accepts : List Bool) :
    Shingling.places (query.passes accepts) = Shingling.places query :=
  grows_places query _ linked (passes_grow query linked accepts) (passes_clauses query linked accepts)

end QueryShingles
