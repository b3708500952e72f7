import QueryShingles.Proofs.Display
import QueryShingles.Proofs.Shown

/-!
Queries renumbered in pre-order: every node takes its place in that order for its position, and what is
said of its parent and its children changes along. A query that is loaded again comes back renumbered,
and nothing else happens to it.
-/

set_option autoImplicit false

namespace QueryShingles

open ClauseDocument

def Clause.renumber (f : ClauseId → ClauseId) : Clause → Clause
  | .boolean query => .boolean { query with parent := query.parent.map f, clauses := query.clauses.map f }
  | .disjunctionMax query =>
      .disjunctionMax { query with parent := ⟨f query.parent.index⟩, clauses := query.clauses.map f }
  | .term word => .term { word with parent := ⟨f word.parent.index⟩ }

def Query.rank (query : Query) (id : ClauseId) : ClauseId := query.preorder.idxOf id

def Query.renumberedNodes (query : Query) (f : ClauseId → ClauseId) (ids : List ClauseId) : List Clause :=
  ids.filterMap fun id => (query.clause? id).map (Clause.renumber f)

def Query.renumbered (query : Query) : Query := ⟨(query.renumberedNodes query.rank query.preorder).toArray⟩

theorem renumber_children (f : ClauseId → ClauseId) (node : Clause) :
    (node.renumber f).children = node.children.map f := by
  cases node <;> rfl

theorem renumber_fixed (f : ClauseId → ClauseId) (node : Clause)
    (up : ∀ parent, node.parent = some parent → f parent = parent)
    (down : ∀ child ∈ node.children, f child = child) : node.renumber f = node := by
  have children : node.children.map f = node.children :=
    (List.map_congr_left down).trans (List.map_id _)
  cases node with
  | boolean group =>
      obtain ⟨parent, occur, generated, clauses⟩ := group
      have above : parent.map f = parent := by
        cases parent with
        | none => rfl
        | some parent => exact congrArg some (up parent rfl)
      exact congrArg Clause.boolean (congr (congrArg (BooleanQuery.mk · occur generated) above) children)
  | disjunctionMax group =>
      obtain ⟨⟨parent⟩, occur, generated, clauses⟩ := group
      have above : f parent = parent := up parent rfl
      simp only [Clause.renumber, above]
      exact congrArg (fun clauses => Clause.disjunctionMax ⟨⟨parent⟩, occur, generated, clauses⟩) children
  | term word =>
      obtain ⟨⟨parent⟩, field, value, generated⟩ := word
      simp only [Clause.renumber, up parent rfl]

theorem range_split (f : ClauseId → ClauseId) (first rest : List ClauseId) (start : ClauseId)
    (consecutive : (first ++ rest).map f = List.range' start (first ++ rest).length) :
    first.map f = List.range' start first.length ∧ rest.map f = List.range' (start + first.length) rest.length := by
  rw [List.map_append, List.length_append, ← List.range'_append_1] at consecutive
  exact List.append_inj consecutive (by simp)

def Query.LaidOut (query : Query) (f : ClauseId → ClauseId) (parent id : ClauseId) : Prop :=
  ∃ clause, query.view id = some clause ∧ clause.count = (query.below id).length ∧
    ∀ start, (query.below id).map f = List.range' start (query.below id).length →
      f id = start ∧ query.renumberedNodes f (query.below id) = clause.nodes parent start

theorem renumbered_nodes_append (query : Query) (f : ClauseId → ClauseId) (first rest : List ClauseId) :
    query.renumberedNodes f (first ++ rest) = query.renumberedNodes f first ++ query.renumberedNodes f rest :=
  List.filterMap_append

theorem children_laid_out (query : Query) (f : ClauseId → ClauseId) (parent : ClauseId) (ids : List ClauseId)
    (each : ∀ id ∈ ids, query.LaidOut f parent id) (start : ClauseId)
    (consecutive : (ids.flatMap query.below).map f = List.range' start (ids.flatMap query.below).length) :
    ids.map f = positions start (ids.filterMap query.view) ∧
      query.renumberedNodes f (ids.flatMap query.below) = nodesAll parent start (ids.filterMap query.view) := by
  induction ids generalizing start with
  | nil => exact ⟨rfl, rfl⟩
  | cons id rest ih =>
      obtain ⟨clause, shown, counted, laidOut⟩ := each id List.mem_cons_self
      rw [List.flatMap_cons] at consecutive ⊢
      obtain ⟨first, behind⟩ := range_split f _ _ start consecutive
      obtain ⟨here, head⟩ := laidOut start first
      rw [← counted] at behind
      obtain ⟨others, tail⟩ := ih (fun other member => each other (List.mem_cons_of_mem _ member)) _ behind
      rw [List.filterMap_cons_some shown, positions, nodesAll, List.map_cons, renumbered_nodes_append, here, head,
        others, tail]
      exact ⟨rfl, rfl⟩

theorem below_laid_out (query : Query) (linked : query.Linked) (f : ClauseId → ClauseId) (id : ClauseId)
    (bound : id < query.size) : ∀ parent, query.parentOf? id = some parent → query.LaidOut f (f parent) id := by
  apply linked_induction query linked
    (fun id => ∀ parent, query.parentOf? id = some parent → query.LaidOut f (f parent) id) _ id bound
  intro id bound ih parent named
  obtain ⟨node, found⟩ := clause_present query id bound
  have shown := view_found query linked id node found
  refine ⟨_, shown, view_count query linked id bound _ shown, ?_⟩
  intro start consecutive
  rw [below_step query linked id bound] at consecutive ⊢
  obtain ⟨here, behind⟩ := List.cons.inj consecutive
  have children : ∀ child ∈ query.childIds id, query.LaidOut f start child := by
    intro child listed
    rw [← here]
    exact ih child listed id ((linked.listed id child).mp listed)
  obtain ⟨ids, nodes⟩ := children_laid_out query f start _ children (start + 1) behind
  refine ⟨here, ?_⟩
  have first : query.renumberedNodes f (id :: (query.childIds id).flatMap query.below) =
      node.renumber f :: query.renumberedNodes f ((query.childIds id).flatMap query.below) := by
    rw [Query.renumberedNodes, List.filterMap_cons_some (by rw [found]; rfl)]
    rfl
  have listed : node.children.map f = positions (start + 1) (query.contents id) := by
    rw [← child_ids_found query id node found]
    exact ids
  rw [parent_of_found query id node found] at named
  rw [first, nodes]
  cases node with
  | boolean group =>
      obtain ⟨above, occur, generated, clauses⟩ := group
      cases named
      exact congrArg (fun ids => Clause.boolean ⟨some (f parent), occur, generated, ids⟩ :: _) listed
  | disjunctionMax group =>
      obtain ⟨above, occur, generated, clauses⟩ := group
      cases named
      exact congrArg (fun ids => Clause.disjunctionMax ⟨⟨f above.index⟩, occur, generated, ids⟩ :: _) listed
  | term word =>
      cases named
      rw [child_ids_found query id _ found]
      rfl

theorem preorder_step (query : Query) (linked : query.Linked) :
    query.preorder = 0 :: (query.childIds 0).flatMap query.below :=
  below_step query linked 0 (linked_positive query linked)

theorem preorder_length (query : Query) (linked : query.Linked) : query.preorder.length = query.size := by
  rw [(preorder_all query linked).length_eq, List.length_range]

theorem rank_root (query : Query) (linked : query.Linked) : query.rank 0 = 0 := by
  rw [Query.rank, preorder_step query linked, List.idxOf_cons_self]

theorem preorder_ranks (query : Query) (linked : query.Linked) :
    query.preorder.map query.rank = List.range query.size := by
  apply List.ext_getElem
  · rw [List.length_map, List.length_range, preorder_length query linked]
  · intro i inside _
    rw [List.getElem_map, List.getElem_range, Query.rank, (preorder_distinct query linked).idxOf_getElem]

theorem renumbered_numbered (query : Query) (linked : query.Linked) :
    query.renumbered = query.toDocument.numbered := by
  obtain ⟨generated, clauses, atRoot⟩ := linked.root
  have ranks := preorder_ranks query linked
  rw [preorder_step query linked, List.range_eq_range', ← preorder_length query linked, preorder_step query linked]
    at ranks
  have behind := (List.cons.inj ranks).2
  have children : ∀ child ∈ query.childIds 0, query.LaidOut query.rank 0 child := by
    intro child listed
    have laidOut := below_laid_out query linked query.rank child (linked_child query linked 0 child listed).2.1 0
      ((linked.listed 0 child).mp listed)
    rw [rank_root query linked] at laidOut
    exact laidOut
  obtain ⟨ids, nodes⟩ := children_laid_out query query.rank 0 _ children 1 behind
  have first : query.renumberedNodes query.rank query.preorder =
      .boolean ⟨none, .should, generated, clauses.map query.rank⟩
        :: query.renumberedNodes query.rank ((query.childIds 0).flatMap query.below) := by
    rw [preorder_step query linked, Query.renumberedNodes, List.filterMap_cons_some (by rw [atRoot]; rfl)]
    rfl
  have flag : query.toDocument.generated = generated := by
    rw [to_document_contents, Query.generated, Query.root, atRoot]
    rfl
  have listed : clauses.map query.rank = positions 1 query.toDocument.clauses := by
    rw [show clauses = query.childIds 0 from (child_ids_found query 0 _ atRoot).symm]
    exact ids
  rw [Query.renumbered, first, nodes, listed, Document.numbered, flag]
  rfl

theorem preorder_present (query : Query) (linked : query.Linked) (f : ClauseId → ClauseId) :
    ∀ id ∈ query.preorder, ∃ node, (query.clause? id).map (Clause.renumber f) = some node := by
  intro id member
  obtain ⟨node, found⟩ := clause_present query id ((preorder_member query linked id).mp member)
  exact ⟨node.renumber f, by rw [found]; rfl⟩

theorem renumbered_size (query : Query) (linked : query.Linked) : query.renumbered.size = query.size := by
  have all : (query.renumberedNodes query.rank query.preorder).length = query.preorder.length := by
    apply List.filterMap_length_eq_length.mpr
    intro id member
    obtain ⟨node, found⟩ := preorder_present query linked query.rank id member
    rw [found]
    rfl
  rw [← preorder_length query linked, ← all]
  exact List.size_toArray

theorem renumbered_clause (query : Query) (linked : query.Linked) (id : ClauseId) :
    query.renumbered.clause? (query.rank id) = (query.clause? id).map (Clause.renumber query.rank) := by
  have read : query.renumbered.clause? (query.rank id) =
      query.preorder[query.rank id]?.bind fun other => (query.clause? other).map (Clause.renumber query.rank) := by
    rw [← filter_map_get _ _ (preorder_present query linked query.rank)]
    exact List.getElem?_toArray
  rw [read]
  by_cases inside : id < query.size
  · have member := (preorder_member query linked id).mpr inside
    rw [Query.rank, List.getElem?_idxOf member]
    rfl
  · rw [clause_absent query id (Nat.le_of_not_lt inside)]
    have unlisted : id ∉ query.preorder := fun member => inside ((preorder_member query linked id).mp member)
    rw [Query.rank, List.idxOf_eq_length unlisted, List.getElem?_eq_none (Nat.le_refl _)]
    rfl

theorem renumbered_child_ids (query : Query) (linked : query.Linked) (id : ClauseId) :
    query.renumbered.childIds (query.rank id) = (query.childIds id).map query.rank := by
  rw [Query.childIds, Query.childIds, renumbered_clause query linked id]
  cases query.clause? id with
  | none => rfl
  | some node => exact renumber_children query.rank node

theorem renumbered_walk (query : Query) (linked : query.Linked) (depth : Nat) (id : ClauseId) :
    query.renumbered.walk depth (query.rank id) = (query.walk depth id).map query.rank := by
  induction depth generalizing id with
  | zero => rfl
  | succ depth ih =>
      rw [Query.walk, Query.walk, renumbered_child_ids query linked id, List.map_cons, List.flatMap_map,
        List.map_flatMap]
      simp only [ih]

theorem renumbered_preorder (query : Query) (linked : query.Linked) :
    query.renumbered.preorder = List.range query.size := by
  have walked := renumbered_walk query linked query.size 0
  rw [rank_root query linked] at walked
  rw [← preorder_ranks query linked, Query.preorder, Query.below, renumbered_size query linked]
  exact walked

theorem rank_in_order (query : Query) (ordered : query.preorder = List.range query.size) (id : ClauseId)
    (bound : id < query.size) : query.rank id = id := by
  have here := List.nodup_range.idxOf_getElem id (by rwa [List.length_range])
  rw [List.getElem_range] at here
  rw [Query.rank, ordered, here]

theorem renumbered_same_iff (query : Query) (linked : query.Linked) :
    query.renumbered = query ↔ query.preorder = List.range query.size := by
  constructor
  · intro same
    have ordered := renumbered_preorder query linked
    rw [same] at ordered
    exact ordered
  · intro ordered
    apply query_ext
    intro id
    by_cases inside : id < query.size
    · obtain ⟨node, found⟩ := clause_present query id inside
      have read := renumbered_clause query linked id
      rw [rank_in_order query ordered id inside, found] at read
      rw [read, found]
      apply congrArg some
      apply renumber_fixed
      · intro parent named
        have listed := (linked.listed parent id).mpr ((parent_of_found query id node found).trans named)
        have before := (linked_child query linked parent id listed).1
        exact rank_in_order query ordered parent (Nat.lt_trans before inside)
      · intro child listed
        rw [← child_ids_found query id node found] at listed
        exact rank_in_order query ordered child (linked_child query linked id child listed).2.1
    · have absent := Nat.le_of_not_lt inside
      rw [clause_absent query id absent, clause_absent _ id (renumbered_size query linked ▸ absent)]

theorem reload_iff (query again : Query) (linked : query.Linked) :
    query.toDocument.toQuery = .ok again ↔ query.Filled ∧ again = query.renumbered := by
  rw [to_query_iff, fits_iff_filled query linked, linked_settled query linked, renumbered_numbered query linked]

/-- A query loads again unless one of its disjunction max groups is empty. What comes back is the query with its
nodes renumbered in pre-order, which goes past each of them once. -/
theorem reload_renumbers (query : Query) (reachable : query.Reachable) :
    ((∃ again, query.toDocument.toQuery = .ok again) ↔ query.Filled) ∧
    ∀ again, query.toDocument.toQuery = .ok again →
      again.size = query.size ∧ again.toDocument = query.toDocument ∧ again.text = query.text ∧
      query.preorder.Perm (List.range query.size) ∧
      (∀ id, again.clause? (query.rank id) = (query.clause? id).map (Clause.renumber query.rank)) ∧
      (again = query ↔ query.preorder = List.range query.size) := by
  have linked := reachable_linked query reachable
  constructor
  · constructor
    · rintro ⟨again, loaded⟩
      exact ((reload_iff query again linked).mp loaded).1
    · intro filled
      exact ⟨query.renumbered, (reload_iff query _ linked).mpr ⟨filled, rfl⟩⟩
  · intro again loaded
    have shows : again.toDocument = query.toDocument :=
      (to_query_document query.toDocument again loaded).trans (linked_settled query linked)
    have same := ((reload_iff query again linked).mp loaded).2
    have texts : again.text = query.text := by
      rw [linked_text again (loaded_linked _ again loaded), linked_text query linked, shows]
    refine ⟨?_, shows, texts, preorder_all query linked, ?_, ?_⟩
    · rw [same, renumbered_size query linked]
    · rw [same]
      exact renumbered_clause query linked
    · rw [same]
      exact renumbered_same_iff query linked

theorem reload_renumbers_two_words : ∃ query again : Query, query.Reachable ∧
    query.preorder = [0, 1, 2, 5, 3, 4, 6] ∧ query.toDocument.toQuery = .ok again ∧ again ≠ query ∧
    again.clause? 3 = some (.term ⟨⟨1⟩, none, "a" ++ "b", true⟩) := by
  have first := Session.Reached.step _ _ (.new false)
    (.add (.token none "a" false) _ _ (by simp [Addition.parent?]) rfl)
  have second := Session.Reached.step _ _ first
    (.add (.token none "b" false) _ _ (by simp [Addition.parent?]) rfl)
  have reachable : Query.Reachable _ := ⟨_, .step _ _ second (.pass ⟨false⟩)⟩
  obtain ⟨_, _, _, _, renumbered, unmoved⟩ := (reload_renumbers _ reachable).2 _ rfl
  refine ⟨_, _, reachable, rfl, rfl, ?_, (renumbered 5).trans rfl⟩
  intro same
  exact absurd (unmoved.mp same) (by decide)

end QueryShingles
