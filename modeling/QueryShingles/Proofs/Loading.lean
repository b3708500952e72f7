import QueryShingles.Proofs.Grammar
import QueryShingles.Proofs.View

/-!
Loading a document. It goes well for documents of which every clause fits, and the query that comes
out shows the document as it is read back.
-/

set_option autoImplicit false

namespace QueryShingles

open ClauseDocument

mutual
theorem add_clause_ok_iff (parent : BooleanId) (query : Query) (clause : ClauseDocument) :
    (∃ grown, query.addClause parent clause = .ok grown) ↔ clause.fits false = true := by
  cases clause with
  | boolean occur generated clauses =>
      rw [Query.addClause, ClauseDocument.fits]
      exact add_clauses_ok_iff _ _ clauses
  | disjunctionMax occur generated clauses =>
      by_cases empty : clauses.isEmpty
      · simp [Query.addClause, ClauseDocument.fits, empty]
      · rw [Query.addClause, ClauseDocument.fits, if_neg empty]
        simpa [empty] using add_alternatives_ok_iff _ _ clauses
  | term field value generated => simp [Query.addClause, ClauseDocument.fits]
theorem add_clauses_ok_iff (parent : BooleanId) (query : Query) (clauses : List ClauseDocument) :
    (∃ grown, query.addClauses parent clauses = .ok grown) ↔ fitsAll false clauses = true := by
  cases clauses with
  | nil => simp [Query.addClauses, fitsAll]
  | cons clause rest =>
      rw [fitsAll, Bool.and_eq_true, ← add_clause_ok_iff parent query clause]
      cases first : query.addClause parent clause with
      | error fault => simp [Query.addClauses, first]
      | ok next =>
          rw [← add_clauses_ok_iff parent next rest]
          simp [Query.addClauses, first]
theorem add_alternative_ok_iff (parent : DisjunctionMaxId) (query : Query) (clause : ClauseDocument) :
    (∃ grown, query.addAlternativeTree parent clause = .ok grown) ↔ clause.fits true = true := by
  cases clause with
  | boolean occur generated clauses =>
      rw [Query.addAlternativeTree, ClauseDocument.fits]
      exact add_clauses_ok_iff _ _ clauses
  | disjunctionMax occur generated clauses => simp [Query.addAlternativeTree, ClauseDocument.fits]
  | term field value generated => simp [Query.addAlternativeTree, ClauseDocument.fits]
theorem add_alternatives_ok_iff (parent : DisjunctionMaxId) (query : Query) (clauses : List ClauseDocument) :
    (∃ grown, query.addAlternatives parent clauses = .ok grown) ↔ fitsAll true clauses = true := by
  cases clauses with
  | nil => simp [Query.addAlternatives, fitsAll]
  | cons clause rest =>
      rw [fitsAll, Bool.and_eq_true, ← add_alternative_ok_iff parent query clause]
      cases first : query.addAlternativeTree parent clause with
      | error fault => simp [Query.addAlternatives, first]
      | ok next =>
          rw [← add_alternatives_ok_iff parent next rest]
          simp [Query.addAlternatives, first]
end

theorem to_query_ok_iff (document : Document) :
    (∃ query, document.toQuery = .ok query) ↔ document.fits = true :=
  add_clauses_ok_iff _ _ document.clauses

/-- What loading clauses under a group does: the group lists new nodes that show the clauses, and nothing else in
front of them changes. -/
structure Loaded (query grown : Query) (parent : ClauseId) (ids : List ClauseId)
    (clauses : List ClauseDocument) : Prop where
  grows : query.Grows grown
  frame : ∀ id < query.size, id ≠ parent → grown.clause? id = query.clause? id
  listed : grown.childIds parent = query.childIds parent ++ ids
  fresh : ∀ id ∈ ids, query.size ≤ id
  views : ids.map grown.view = clauses.map some

theorem loaded_nil (query : Query) (parent : ClauseId) : Loaded query query parent [] [] where
  grows := .refl
  frame := fun _ _ _ => rfl
  listed := (List.append_nil _).symm
  fresh := by simp
  views := rfl

theorem filter_map_views (view : ClauseId → Option ClauseDocument) (ids : List ClauseId)
    (clauses : List ClauseDocument) (views : ids.map view = clauses.map some) : ids.filterMap view = clauses := by
  induction ids generalizing clauses with
  | nil => simpa using views.symm
  | cons id rest ih =>
      cases clauses with
      | nil => simp at views
      | cons clause others =>
          obtain ⟨head, tail⟩ := List.cons.inj views
          rw [List.filterMap_cons_some head, ih others tail]

theorem loaded_contents (query grown : Query) (parent : ClauseId) (ids : List ClauseId)
    (clauses : List ClauseDocument) (loaded : Loaded query grown parent ids clauses)
    (childless : query.childIds parent = []) : grown.contents parent = clauses := by
  rw [Query.contents, loaded.listed, childless, List.nil_append]
  exact filter_map_views grown.view ids clauses loaded.views

theorem loaded_group (query grown : Query) (linked : query.Linked) (parent : ClauseId) (node group : Clause)
    (present : query.clause? parent = some group) (admits : group.Admits node) (up : node.parent = some parent)
    (childless : node.children = []) (ids : List ClauseId) (clauses : List ClauseDocument)
    (below : Loaded (query.attach parent node) grown query.size ids clauses) :
    Loaded query grown parent [query.size] [node.document clauses] := by
  have bound := clause_bound query parent group present
  have attached := Query.Grows.attach query parent node group .refl present admits up childless
  have grows := grows_trans _ _ _ attached below.grows
  have isGroup := admits_is_group group node admits
  have others : ∀ id < query.size, grown.clause? id = (query.attach parent node).clause? id := by
    intro id old
    exact below.frame id (by rw [attach_size]; exact Nat.lt_succ_of_lt old) (Nat.ne_of_lt old)
  refine ⟨grows, ?_, ?_, by simp, ?_⟩
  · intro id old different
    exact (others id old).trans (attach_other query parent id node old different)
  · rw [Query.childIds, others parent bound]
    exact (attach_child_ids query parent parent node group present isGroup childless).trans (if_pos rfl)
  · obtain ⟨kept, read, same⟩ := grows_keeps _ grown below.grows query.size node (attach_new query parent node bound)
    have empty : (query.attach parent node).childIds query.size = [] := by
      rw [child_ids_found _ _ node (attach_new query parent node bound), childless]
    have filled := loaded_contents _ grown query.size ids clauses below empty
    rw [List.map_singleton, List.map_singleton, view_found grown (grows_linked query grown linked grows) _ kept read,
      filled, bare_document kept node clauses same]

theorem loaded_append (query middle grown : Query) (linked : query.Linked) (parent : ClauseId)
    (bound : parent < query.size) (first second : List ClauseId) (clauses others : List ClauseDocument)
    (head : Loaded query middle parent first clauses) (tail : Loaded middle grown parent second others) :
    Loaded query grown parent (first ++ second) (clauses ++ others) := by
  have middleLinked := grows_linked query middle linked head.grows
  have grownLinked := grows_linked middle grown middleLinked tail.grows
  have larger := grows_size query middle head.grows
  refine ⟨grows_trans _ _ _ head.grows tail.grows, ?_, ?_, ?_, ?_⟩
  · intro id old different
    exact (tail.frame id (Nat.lt_of_lt_of_le old larger) different).trans (head.frame id old different)
  · rw [tail.listed, head.listed, List.append_assoc]
  · intro id member
    rcases List.mem_append.mp member with before | behind
    · exact head.fresh id before
    · exact Nat.le_trans larger (tail.fresh id behind)
  -- The nodes of the first clauses lie between the sizes of the first two queries, and so does all
  -- that is below them.
  · have kept : ∀ id ∈ first, grown.view id = middle.view id := by
      intro id member
      have isChild : id ∈ middle.childIds parent := by
        rw [head.listed]
        exact List.mem_append_right _ member
      refine view_agree middle grown middleLinked grownLinked
        (fun id => query.size ≤ id ∧ id < middle.size) ?_ ?_ id
        ⟨head.fresh id member, (linked_child middle middleLinked parent id isChild).2.1⟩
      · rintro other ⟨new, below⟩
        exact tail.frame other below (Nat.ne_of_gt (Nat.lt_of_lt_of_le bound new))
      · rintro above child ⟨new, _⟩ listed
        obtain ⟨behind, below, _⟩ := linked_child middle middleLinked above child listed
        exact ⟨Nat.le_trans new (Nat.le_of_lt behind), below⟩
    rw [List.map_append, List.map_append, ← head.views, ← tail.views, List.map_congr_left kept]

mutual
theorem add_clause_loaded (parent : BooleanId) (query grown : Query) (linked : query.Linked)
    (clause : ClauseDocument) (there : query.BooleanAt parent.index)
    (added : query.addClause parent clause = .ok grown) :
    Loaded query grown parent.index [query.size] [clause.settle false] := by
  obtain ⟨group, present⟩ := there
  cases clause with
  | boolean occur generated clauses =>
      have step := attach_boolean_grows query parent occur generated ⟨group, present⟩
      obtain ⟨ids, below⟩ := add_clauses_loaded _ _ grown (grows_linked _ _ linked step) clauses
        (attach_boolean_there query parent occur generated ⟨group, present⟩) added
      exact loaded_group query grown linked parent.index (.boolean ⟨some parent.index, occur, generated, []⟩) _ present
        trivial rfl rfl ids _ below
  | disjunctionMax occur generated clauses =>
      by_cases empty : clauses.isEmpty
      · simp [Query.addClause, empty] at added
      · simp only [Query.addClause, if_neg empty] at added
        have step := attach_disjunction_max_grows query parent occur generated ⟨group, present⟩
        obtain ⟨ids, below⟩ := add_alternatives_loaded _ _ grown (grows_linked _ _ linked step) clauses
          (attach_disjunction_max_there query parent occur generated ⟨group, present⟩) added
        exact loaded_group query grown linked parent.index (.disjunctionMax ⟨parent, occur, generated, []⟩) _ present
          trivial rfl rfl ids _ below
  | term field value generated => simp [Query.addClause] at added
theorem add_clauses_loaded (parent : BooleanId) (query grown : Query) (linked : query.Linked)
    (clauses : List ClauseDocument) (there : query.BooleanAt parent.index)
    (added : query.addClauses parent clauses = .ok grown) :
    ∃ ids, Loaded query grown parent.index ids (settleAll false clauses) := by
  cases clauses with
  | nil =>
      cases added
      exact ⟨[], loaded_nil query parent.index⟩
  | cons clause rest =>
      cases first : query.addClause parent clause with
      | error fault => simp [Query.addClauses, first] at added
      | ok next =>
          simp only [Query.addClauses, first] at added
          have head := add_clause_loaded parent query next linked clause there first
          obtain ⟨ids, tail⟩ := add_clauses_loaded parent next grown (grows_linked _ _ linked head.grows) rest
            (grows_boolean query next head.grows _ there) added
          obtain ⟨group, present⟩ := there
          exact ⟨_, loaded_append query next grown linked parent.index (clause_bound query _ _ present) _ ids _ _
            head tail⟩
theorem add_alternative_tree_loaded (parent : DisjunctionMaxId) (query grown : Query) (linked : query.Linked)
    (clause : ClauseDocument) (there : query.DisjunctionMaxAt parent.index)
    (added : query.addAlternativeTree parent clause = .ok grown) :
    Loaded query grown parent.index [query.size] [clause.settle true] := by
  obtain ⟨group, present⟩ := there
  cases clause with
  | boolean occur generated clauses =>
      have step := attach_alternative_grows query parent generated ⟨group, present⟩
      obtain ⟨ids, below⟩ := add_clauses_loaded _ _ grown (grows_linked _ _ linked step) clauses
        (attach_alternative_there query parent generated ⟨group, present⟩) added
      exact loaded_group query grown linked parent.index (.boolean ⟨some parent.index, .should, generated, []⟩) _
        present rfl rfl rfl ids _ below
  | disjunctionMax occur generated clauses => simp [Query.addAlternativeTree] at added
  | term field value generated =>
      cases added
      exact loaded_group query _ linked parent.index (.term ⟨parent, field, value, generated⟩) _ present trivial
        rfl rfl [] [] (loaded_nil _ _)
theorem add_alternatives_loaded (parent : DisjunctionMaxId) (query grown : Query) (linked : query.Linked)
    (clauses : List ClauseDocument) (there : query.DisjunctionMaxAt parent.index)
    (added : query.addAlternatives parent clauses = .ok grown) :
    ∃ ids, Loaded query grown parent.index ids (settleAll true clauses) := by
  cases clauses with
  | nil =>
      cases added
      exact ⟨[], loaded_nil query parent.index⟩
  | cons clause rest =>
      cases first : query.addAlternativeTree parent clause with
      | error fault => simp [Query.addAlternatives, first] at added
      | ok next =>
          simp only [Query.addAlternatives, first] at added
          have head := add_alternative_tree_loaded parent query next linked clause there first
          obtain ⟨ids, tail⟩ := add_alternatives_loaded parent next grown (grows_linked _ _ linked head.grows) rest
            (grows_disjunction_max query next head.grows _ there) added
          obtain ⟨group, present⟩ := there
          exact ⟨_, loaded_append query next grown linked parent.index (clause_bound query _ _ present) _ ids _ _
            head tail⟩
end

theorem to_query_document (document : Document) (query : Query) (loaded : document.toQuery = .ok query) :
    query.toDocument = document.settle := by
  have linked := new_linked document.generated
  obtain ⟨ids, below⟩ := add_clauses_loaded Query.root _ query linked document.clauses (root_boolean _ linked) loaded
  have clauses := loaded_contents _ query 0 ids _ below (new_child_ids document.generated 0)
  have flag : query.generated = document.generated := grows_generated _ query linked below.grows
  rw [to_document_contents, flag]
  exact congrArg (Document.mk document.generated) clauses

end QueryShingles
