import QueryShingles.Proofs.Passes

/-!
What the user typed is joined the same way in every pass. Passes only add generated terms, so the
sources of a pass that takes no generated ones are those that the query began with.
-/

set_option autoImplicit false

namespace QueryShingles

def ClauseDocument.GeneratedTerm (clause : ClauseDocument) : Prop :=
  ∃ field value, clause = .term field value true

namespace Document

def userSeam (document : Document) (i : Nat) : List ClauseDocument :=
  seam (ClauseDocument.shingles ⟨false⟩) document.clauses i

def userShingles (document : Document) : Nat → List ClauseDocument
  | 0 => document.userSeam 0
  | i + 1 => document.userSeam i ++ document.userSeam (i + 1)

def userCount (document : Document) : Nat :=
  ((List.range document.clauses.length).map fun i => (document.userSeam i).length).sum

end Document

theorem user_shingles_generated (document : Document) (i : Nat) (clause : ClauseDocument)
    (member : clause ∈ document.userShingles i) : clause.GeneratedTerm := by
  cases i with
  | zero => exact seam_is_terms ⟨false⟩ document.clauses 0 clause member
  | succ i => exact seams_are_terms ⟨false⟩ document.clauses (i + 1) clause member

theorem shingled_get (shingling : Shingling) (document : Document) (i : Nat) :
    (document.shingled shingling).clauses[i]? = document.clauses[i]?.map (ClauseDocument.extend
      (seamBefore (ClauseDocument.shingles shingling) document.clauses i ++
        seam (ClauseDocument.shingles shingling) document.clauses i)) := by
  rw [Document.shingled, List.getElem?_mapIdx]

theorem user_sources_extend (more : List ClauseDocument) (clause : ClauseDocument)
    (generated : ∀ added ∈ more, added.GeneratedTerm) :
    (clause.extend more).sources ⟨false⟩ = clause.sources ⟨false⟩ := by
  cases clause with
  | boolean occur flag clauses => rfl
  | term field value flag => rfl
  | disjunctionMax occur flag clauses =>
      have nothing : more.filterMap (ClauseDocument.source? ⟨false⟩) = [] := by
        apply List.filterMap_eq_nil_iff.mpr
        intro added member
        obtain ⟨field, value, same⟩ := generated added member
        rw [same]
        rfl
      rw [ClauseDocument.extend, ClauseDocument.sources, List.filterMap_append, nothing, List.append_nil]
      rfl

theorem user_seam_shingled (shingling : Shingling) (document : Document) (i : Nat) :
    (document.shingled shingling).userSeam i = document.userSeam i := by
  have sources := fun i clause => user_sources_extend _ clause (seams_are_terms shingling document.clauses i)
  rw [Document.userSeam, Document.userSeam, seam, seam, shingled_get, shingled_get]
  cases document.clauses[i]? with
  | none => rfl
  | some left =>
      cases document.clauses[i + 1]? with
      | none => rfl
      | some right => simp only [Option.map_some, ClauseDocument.shingles, sources]

theorem passes_user_seam (query : Query) (linked : query.Linked) (accepts : List Bool) (i : Nat) :
    (query.passes accepts).toDocument.userSeam i = query.toDocument.userSeam i := by
  induction accepts using List.reverseRecOn with
  | nil => rfl
  | append_singleton accepts accept ih =>
      rw [passes_next_document query linked, user_seam_shingled, ih]

theorem passes_user_shingles (query : Query) (linked : query.Linked) (accepts : List Bool) (i : Nat) :
    (query.passes accepts).toDocument.userShingles i = query.toDocument.userShingles i := by
  cases i <;> simp only [Document.userShingles, passes_user_seam query linked]

theorem passes_keep (query : Query) (linked : query.Linked) (accepts : List Bool) (i : Nat) (occur : Occur)
    (generated : Bool) (clauses : List ClauseDocument)
    (place : query.toDocument.clauses[i]? = some (.disjunctionMax occur generated clauses)) :
    ∃ added, (query.passes accepts).toDocument.clauses[i]? =
      some (.disjunctionMax occur generated (clauses ++ added)) := by
  induction accepts using List.reverseRecOn with
  | nil => exact ⟨[], by rw [List.append_nil]; exact place⟩
  | append_singleton accepts accept ih =>
      obtain ⟨added, found⟩ := ih
      rw [passes_next_document query linked, shingled_get, found]
      exact ⟨_, congrArg some (congrArg _ (List.append_assoc _ _ _))⟩

theorem user_pass_adds (query : Query) (linked : query.Linked) (before : List Bool) (i : Nat) (occur : Occur)
    (generated : Bool) (clauses : List ClauseDocument)
    (place : (query.passes before).toDocument.clauses[i]? = some (.disjunctionMax occur generated clauses)) :
    (query.passes (before ++ [false])).toDocument.clauses[i]? =
      some (.disjunctionMax occur generated (clauses ++ query.toDocument.userShingles i)) := by
  rw [passes_next_document query linked, shingled_get, place, ← passes_user_shingles query linked before i]
  cases i <;> rfl

theorem user_pass_size (query : Query) (linked : query.Linked) (before : List Bool) :
    (query.passes (before ++ [false])).size = (query.passes before).size + 2 * query.toDocument.userCount := by
  have length : (query.passes before).toDocument.clauses.length = query.toDocument.clauses.length := by
    rw [clauses_length _ (passes_linked query linked before), passes_clauses query linked, clauses_length query linked]
  rw [passes_next, run_size ⟨false⟩ _ (passes_linked query linked before), length]
  have seams : ∀ i, seam (ClauseDocument.shingles ⟨false⟩) (query.passes before).toDocument.clauses i =
      query.toDocument.userSeam i := passes_user_seam query linked before
  simp only [seams]
  rfl

theorem user_passes_add (query : Query) (linked : query.Linked) (count : Nat) (i : Nat) (occur : Occur)
    (generated : Bool) (clauses : List ClauseDocument)
    (place : query.toDocument.clauses[i]? = some (.disjunctionMax occur generated clauses)) :
    (query.passes (List.replicate count false)).toDocument.clauses[i]? = some (.disjunctionMax occur generated
      (clauses ++ (List.replicate count (query.toDocument.userShingles i)).flatten)) := by
  induction count with
  | zero =>
      rw [List.replicate_zero, List.replicate_zero, List.flatten_nil, List.append_nil]
      exact place
  | succ count ih =>
      rw [List.replicate_succ', List.replicate_succ', List.flatten_append, List.flatten_singleton, ← List.append_assoc]
      exact user_pass_adds query linked _ i occur generated _ ih

theorem user_passes_size (query : Query) (linked : query.Linked) (count : Nat) :
    (query.passes (List.replicate count false)).size = query.size + count * (2 * query.toDocument.userCount) := by
  induction count with
  | zero => rw [Nat.zero_mul]; rfl
  | succ count ih =>
      rw [List.replicate_succ', user_pass_size query linked, ih, Nat.succ_mul count, Nat.add_assoc]

/-- A pass that takes no generated terms adds what it would have added to the query at first, whatever the passes in
front of it were. Several such passes add it as many times. -/
theorem user_shingles_stay (query : Query) (reachable : query.Reachable) :
    (∀ i, ∀ shingle ∈ query.toDocument.userShingles i, shingle.GeneratedTerm) ∧
    (∀ (i : Nat) (occur : Occur) (generated : Bool) (clauses : List ClauseDocument),
      query.toDocument.clauses[i]? = some (.disjunctionMax occur generated clauses) →
      (∀ before : List Bool, ∃ added,
        (query.passes before).toDocument.clauses[i]? =
          some (.disjunctionMax occur generated (clauses ++ added)) ∧
        (query.passes (before ++ [false])).toDocument.clauses[i]? =
          some (.disjunctionMax occur generated (clauses ++ added ++ query.toDocument.userShingles i))) ∧
      ∀ count : Nat, (query.passes (List.replicate count false)).toDocument.clauses[i]? =
        some (.disjunctionMax occur generated
          (clauses ++ (List.replicate count (query.toDocument.userShingles i)).flatten))) ∧
    ∀ count : Nat,
      (query.passes (List.replicate count false)).size = query.size + count * (2 * query.toDocument.userCount) := by
  have linked := reachable_linked query reachable
  refine ⟨user_shingles_generated query.toDocument, ?_, user_passes_size query linked⟩
  intro i occur generated clauses place
  refine ⟨?_, fun count => user_passes_add query linked count i occur generated clauses place⟩
  intro before
  obtain ⟨added, found⟩ := passes_keep query linked before i occur generated clauses place
  exact ⟨added, found, user_pass_adds query linked before i occur generated _ found⟩

theorem user_shingles_stay_three_words :
    ∃ query : Query, Query.Reachable query ∧
      (∃ added,
        (query.passes [true]).toDocument.clauses[0]? =
          some (.disjunctionMax .should false ([.term none "a" false] ++ added)) ∧
        (query.passes [true, false]).toDocument.clauses[0]? =
          some (.disjunctionMax .should false
            ([.term none "a" false] ++ added ++ [.term none ("a" ++ "b") true]))) ∧
      (query.passes [false, false]).toDocument.clauses[1]? =
        some (.disjunctionMax .should false
          [.term none "b" false, .term none "c" true,
           .term none ("a" ++ "b") true, .term none ("b" ++ "d") true,
           .term none ("a" ++ "b") true, .term none ("b" ++ "d") true]) ∧
      (query.passes [false, false]).size = 16 := by
  have reachable : Query.Reachable _ := ⟨_, .load ⟨false,
    [.disjunctionMax .should false [.term none "a" false],
     .disjunctionMax .should false [.term none "b" false, .term none "c" true],
     .disjunctionMax .should false [.term none "d" false]]⟩ _ rfl⟩
  obtain ⟨_, places, sizes⟩ := user_shingles_stay _ reachable
  exact ⟨_, reachable, (places 0 _ _ _ rfl).1 [true], ((places 1 _ _ _ rfl).2 2).trans rfl, (sizes 2).trans rfl⟩

end QueryShingles
