import QueryShingles.Proofs.Loading

/-!
Documents laid out as nodes, numbered as they are read: a clause, then the clauses in it, then the next.
Loading a document gives exactly these nodes.
-/

set_option autoImplicit false

namespace QueryShingles

def Clause.adoptAll (children : List ClauseId) : Clause → Clause
  | .boolean query => .boolean { query with clauses := query.clauses ++ children }
  | .disjunctionMax query => .disjunctionMax { query with clauses := query.clauses ++ children }
  | .term word => .term word

/-- Nodes that are put behind those of a query, some of them under one of its groups. -/
def Query.graft (query : Query) (parent : ClauseId) (ids : List ClauseId) (nodes : List Clause) : Query :=
  ⟨query.nodes.modify parent (Clause.adoptAll ids) ++ nodes.toArray⟩

namespace ClauseDocument

mutual
def count : ClauseDocument → Nat
  | .boolean _ _ clauses => 1 + countAll clauses
  | .disjunctionMax _ _ clauses => 1 + countAll clauses
  | .term _ _ _ => 1
def countAll : List ClauseDocument → Nat
  | [] => 0
  | clause :: rest => count clause + countAll rest
end

def positions (start : ClauseId) : List ClauseDocument → List ClauseId
  | [] => []
  | clause :: rest => start :: positions (start + clause.count) rest

mutual
def nodes (parent start : ClauseId) : ClauseDocument → List Clause
  | .boolean occur generated clauses =>
      .boolean ⟨some parent, occur, generated, positions (start + 1) clauses⟩ :: nodesAll start (start + 1) clauses
  | .disjunctionMax occur generated clauses =>
      .disjunctionMax ⟨⟨parent⟩, occur, generated, positions (start + 1) clauses⟩ :: nodesAll start (start + 1) clauses
  | .term field value generated => [.term ⟨⟨parent⟩, field, value, generated⟩]
def nodesAll (parent start : ClauseId) : List ClauseDocument → List Clause
  | [] => []
  | clause :: rest => nodes parent start clause ++ nodesAll parent (start + clause.count) rest
end

end ClauseDocument

open ClauseDocument

def Document.numbered (document : Document) : Query :=
  ⟨(.boolean ⟨none, .should, document.generated, positions 1 document.clauses⟩
    :: nodesAll 0 1 document.clauses).toArray⟩

mutual
theorem nodes_length (parent start : ClauseId) (clause : ClauseDocument) :
    (clause.nodes parent start).length = clause.count := by
  cases clause with
  | boolean occur generated clauses =>
      rw [nodes, List.length_cons, nodes_all_length, count, Nat.add_comm]
  | disjunctionMax occur generated clauses =>
      rw [nodes, List.length_cons, nodes_all_length, count, Nat.add_comm]
  | term field value generated => rfl
theorem nodes_all_length (parent start : ClauseId) (clauses : List ClauseDocument) :
    (nodesAll parent start clauses).length = countAll clauses := by
  cases clauses with
  | nil => rfl
  | cons clause rest =>
      rw [nodesAll, List.length_append, nodes_length, nodes_all_length, countAll]
end

theorem query_ext (query other : Query) (same : ∀ id, query.clause? id = other.clause? id) : query = other := by
  cases query with
  | mk nodes =>
      cases other with
      | mk others => exact congrArg Query.mk (Array.ext_getElem? same)

@[simp] theorem adopt_all_none (node : Clause) : node.adoptAll [] = node := by
  cases node <;> simp [Clause.adoptAll]

@[simp] theorem adopt_all_twice (node : Clause) (first second : List ClauseId) :
    (node.adoptAll first).adoptAll second = node.adoptAll (first ++ second) := by
  cases node <;> simp [Clause.adoptAll]

theorem graft_size (query : Query) (parent : ClauseId) (ids : List ClauseId) (nodes : List Clause) :
    (query.graft parent ids nodes).size = query.size + nodes.length := by
  simp [Query.graft, Query.size]

theorem graft_old (query : Query) (parent id : ClauseId) (ids : List ClauseId) (nodes : List Clause)
    (old : id < query.size) :
    (query.graft parent ids nodes).clause? id =
      if parent = id then (query.clause? id).map (Clause.adoptAll ids) else query.clause? id := by
  have inside : id < (query.nodes.modify parent (Clause.adoptAll ids)).size := by
    rw [Array.size_modify]
    exact old
  rw [Query.clause?, Query.graft, Array.getElem?_append_left inside, Array.getElem?_modify]
  rfl

theorem graft_new (query : Query) (parent id : ClauseId) (ids : List ClauseId) (nodes : List Clause)
    (new : query.size ≤ id) : (query.graft parent ids nodes).clause? id = nodes[id - query.size]? := by
  have outside : (query.nodes.modify parent (Clause.adoptAll ids)).size ≤ id := by
    rw [Array.size_modify]
    exact new
  rw [Query.clause?, Query.graft, Array.getElem?_append_right outside, Array.size_modify, List.getElem?_toArray]
  rfl

theorem graft_none (query : Query) (parent : ClauseId) : query.graft parent [] [] = query := by
  apply query_ext
  intro id
  by_cases old : id < query.size
  · rw [graft_old query parent id [] [] old]
    by_cases same : parent = id
    · rw [if_pos same]
      cases query.clause? id <;> simp
    · rw [if_neg same]
  · rw [graft_new query parent id [] [] (Nat.le_of_not_lt old), clause_absent query id (Nat.le_of_not_lt old)]
    rfl

theorem attach_graft (query : Query) (parent : ClauseId) (node : Clause) (bound : parent < query.size) :
    query.attach parent node = query.graft parent [query.size] [node] := by
  apply query_ext
  intro id
  by_cases old : id < query.size
  · rw [attach_old query parent id node old, graft_old query parent id _ _ old]
    rfl
  · rw [graft_new query parent id _ _ (Nat.le_of_not_lt old)]
    by_cases new : id = query.size
    · rw [new, attach_new query parent node bound, Nat.sub_self]
      rfl
    · rw [(attach_absent query parent id node new old).2]
      have later : 1 ≤ id - query.size := by simp only [ClauseId] at *; omega
      exact (List.getElem?_eq_none later).symm

theorem graft_again (query : Query) (parent : ClauseId) (ids more : List ClauseId) (nodes others : List Clause)
    (bound : parent < query.size) :
    (query.graft parent ids nodes).graft parent more others = query.graft parent (ids ++ more) (nodes ++ others) := by
  apply query_ext
  intro id
  have larger := graft_size query parent ids nodes
  by_cases old : id < query.size
  · have stillOld : id < (query.graft parent ids nodes).size := larger ▸ Nat.lt_add_right _ old
    rw [graft_old _ parent id _ _ stillOld, graft_old query parent id _ _ old, graft_old query parent id _ _ old]
    by_cases same : parent = id
    · simp [same, Function.comp_def]
    · simp [same]
  · have different : parent ≠ id := by
      intro same
      exact old (same ▸ bound)
    have new := Nat.le_of_not_lt old
    rw [graft_new query parent id (ids ++ more) _ new]
    by_cases between : id < (query.graft parent ids nodes).size
    · have first : id - query.size < nodes.length := Nat.sub_lt_left_of_lt_add new (larger ▸ between)
      rw [graft_old _ parent id _ _ between, if_neg different, graft_new query parent id _ _ new,
        List.getElem?_append_left first]
    · have second : nodes.length ≤ id - query.size := Nat.le_sub_of_add_le' (larger ▸ Nat.le_of_not_lt between)
      rw [graft_new _ parent id _ _ (Nat.le_of_not_lt between), larger, List.getElem?_append_right second,
        Nat.sub_add_eq]

theorem graft_deeper (query : Query) (parent : ClauseId) (ids more : List ClauseId) (node : Clause)
    (others : List Clause) :
    (query.graft parent ids [node]).graft query.size more others =
      query.graft parent ids (node.adoptAll more :: others) := by
  apply query_ext
  intro id
  have larger : (query.graft parent ids [node]).size = query.size + 1 := graft_size query parent ids [node]
  by_cases old : id < query.size
  · have stillOld : id < (query.graft parent ids [node]).size := larger ▸ Nat.lt_succ_of_lt old
    rw [graft_old _ query.size id _ _ stillOld, if_neg (Nat.ne_of_gt old), graft_old query parent id _ _ old,
      graft_old query parent id _ _ old]
  · by_cases here : id = query.size
    · have inside : query.size < (query.graft parent ids [node]).size := larger ▸ Nat.lt_succ_self _
      rw [here, graft_old _ query.size query.size _ _ inside, if_pos rfl,
        graft_new query parent query.size _ _ (Nat.le_refl _), graft_new query parent query.size _ _ (Nat.le_refl _),
        Nat.sub_self]
      rfl
    · have later : id - query.size = (id - (query.size + 1)) + 1 := by simp only [ClauseId] at *; omega
      rw [graft_new _ query.size id _ _ (by simp only [ClauseId] at *; omega),
        graft_new query parent id _ _ (Nat.le_of_not_lt old), larger, later, List.getElem?_cons_succ]

mutual
theorem add_clause_graft (parent : BooleanId) (query grown : Query) (clause : ClauseDocument)
    (bound : parent.index < query.size) (added : query.addClause parent clause = .ok grown) :
    grown = query.graft parent.index [query.size] ((clause.settle false).nodes parent.index query.size) := by
  cases clause with
  | boolean occur generated clauses =>
      have inner := add_clauses_graft ⟨query.size⟩ _ grown clauses
        (by rw [Query.attachBoolean, attach_size]; exact Nat.lt_succ_self _) added
      rw [inner, Query.attachBoolean, attach_size, attach_graft query parent.index _ bound,
        graft_deeper query parent.index]
      rfl
  | disjunctionMax occur generated clauses =>
      by_cases empty : clauses.isEmpty
      · simp [Query.addClause, empty] at added
      · simp only [Query.addClause, if_neg empty] at added
        have inner := add_alternatives_graft ⟨query.size⟩ _ grown clauses
          (by rw [Query.attachDisjunctionMax, attach_size]; exact Nat.lt_succ_self _) added
        rw [inner, Query.attachDisjunctionMax, attach_size, attach_graft query parent.index _ bound,
          graft_deeper query parent.index]
        rfl
  | term field value generated => simp [Query.addClause] at added
theorem add_clauses_graft (parent : BooleanId) (query grown : Query) (clauses : List ClauseDocument)
    (bound : parent.index < query.size) (added : query.addClauses parent clauses = .ok grown) :
    grown = query.graft parent.index (positions query.size (settleAll false clauses))
      (nodesAll parent.index query.size (settleAll false clauses)) := by
  cases clauses with
  | nil =>
      cases added
      exact (graft_none query parent.index).symm
  | cons clause rest =>
      cases first : query.addClause parent clause with
      | error fault => simp [Query.addClauses, first] at added
      | ok next =>
          simp only [Query.addClauses, first] at added
          have head := add_clause_graft parent query next clause bound first
          have larger : next.size = query.size + (clause.settle false).count := by
            rw [head, graft_size, nodes_length]
          have tail := add_clauses_graft parent next grown rest (larger ▸ Nat.lt_add_right _ bound) added
          rw [tail, larger, head, graft_again query parent.index _ _ _ _ bound]
          rfl
theorem add_alternative_tree_graft (parent : DisjunctionMaxId) (query grown : Query) (clause : ClauseDocument)
    (bound : parent.index < query.size) (added : query.addAlternativeTree parent clause = .ok grown) :
    grown = query.graft parent.index [query.size] ((clause.settle true).nodes parent.index query.size) := by
  cases clause with
  | boolean occur generated clauses =>
      have inner := add_clauses_graft ⟨query.size⟩ _ grown clauses
        (by rw [Query.attachAlternative, attach_size]; exact Nat.lt_succ_self _) added
      rw [inner, Query.attachAlternative, attach_size, attach_graft query parent.index _ bound,
        graft_deeper query parent.index]
      rfl
  | disjunctionMax occur generated clauses => simp [Query.addAlternativeTree] at added
  | term field value generated =>
      cases added
      exact attach_graft query parent.index _ bound
theorem add_alternatives_graft (parent : DisjunctionMaxId) (query grown : Query) (clauses : List ClauseDocument)
    (bound : parent.index < query.size) (added : query.addAlternatives parent clauses = .ok grown) :
    grown = query.graft parent.index (positions query.size (settleAll true clauses))
      (nodesAll parent.index query.size (settleAll true clauses)) := by
  cases clauses with
  | nil =>
      cases added
      exact (graft_none query parent.index).symm
  | cons clause rest =>
      cases first : query.addAlternativeTree parent clause with
      | error fault => simp [Query.addAlternatives, first] at added
      | ok next =>
          simp only [Query.addAlternatives, first] at added
          have head := add_alternative_tree_graft parent query next clause bound first
          have larger : next.size = query.size + (clause.settle true).count := by
            rw [head, graft_size, nodes_length]
          have tail := add_alternatives_graft parent next grown rest (larger ▸ Nat.lt_add_right _ bound) added
          rw [tail, larger, head, graft_again query parent.index _ _ _ _ bound]
          rfl
end

theorem new_graft (generated : Bool) (ids : List ClauseId) (nodes : List Clause) :
    (Query.new generated).graft 0 ids nodes = ⟨(.boolean ⟨none, .should, generated, ids⟩ :: nodes).toArray⟩ := by
  simp [Query.graft, Query.new, Clause.adoptAll]

/-- There is one query that a document loads as, if it loads at all. -/
theorem to_query_iff (document : Document) (query : Query) :
    document.toQuery = .ok query ↔ document.fits = true ∧ query = document.settle.numbered := by
  have shape : ∀ loaded, document.toQuery = .ok loaded → loaded = document.settle.numbered := by
    intro loaded added
    rw [add_clauses_graft Query.root _ loaded document.clauses (linked_positive _ (new_linked _)) added]
    exact new_graft document.generated _ _
  constructor
  · intro loaded
    exact ⟨(to_query_ok_iff document).mp ⟨query, loaded⟩, shape query loaded⟩
  · rintro ⟨fitting, same⟩
    obtain ⟨loaded, added⟩ := (to_query_ok_iff document).mpr fitting
    rw [added, same, shape loaded added]

end QueryShingles
