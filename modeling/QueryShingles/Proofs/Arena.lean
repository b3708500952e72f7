import QueryShingles.Document.Tree

/-!
The array behind a query: what an added node changes, and what it leaves as it was.
-/

set_option autoImplicit false

namespace QueryShingles

def Clause.bare : Clause → Clause
  | .boolean query => .boolean { query with clauses := [] }
  | .disjunctionMax query => .disjunctionMax { query with clauses := [] }
  | .term word => .term word

def Clause.isGroup : Clause → Bool
  | .term _ => false
  | _ => true

@[simp] theorem adopt_bare (child : ClauseId) (node : Clause) : (node.adopt child).bare = node.bare := by
  cases node <;> rfl

@[simp] theorem adopt_parent (child : ClauseId) (node : Clause) : (node.adopt child).parent = node.parent := by
  cases node <;> rfl

theorem adopt_children (child : ClauseId) (node : Clause) (group : node.isGroup = true) :
    (node.adopt child).children = node.children ++ [child] := by
  cases node with
  | term word => simp [Clause.isGroup] at group
  | boolean query => rfl
  | disjunctionMax query => rfl

theorem clause_bound (query : Query) (id : ClauseId) (node : Clause)
    (found : query.clause? id = some node) : id < query.size := by
  obtain ⟨bound, _⟩ := Array.getElem?_eq_some_iff.mp found
  exact bound

theorem clause_present (query : Query) (id : ClauseId) (bound : id < query.size) :
    ∃ node, query.clause? id = some node :=
  ⟨query.nodes[id], Array.getElem?_eq_getElem bound⟩

theorem clause_absent (query : Query) (id : ClauseId) (beyond : query.size ≤ id) :
    query.clause? id = none :=
  Array.getElem?_eq_none beyond

theorem child_ids_found (query : Query) (id : ClauseId) (node : Clause)
    (found : query.clause? id = some node) : query.childIds id = node.children := by
  simp [Query.childIds, found]

theorem child_ids_parent (query : Query) (id child : ClauseId) (listed : child ∈ query.childIds id) :
    ∃ node, query.clause? id = some node ∧ child ∈ node.children := by
  cases found : query.clause? id with
  | none => simp [Query.childIds, found] at listed
  | some node => exact ⟨node, rfl, by simpa [Query.childIds, found] using listed⟩

@[simp] theorem attach_size (query : Query) (parent : ClauseId) (node : Clause) :
    (query.attach parent node).size = query.size + 1 := by
  simp [Query.attach, Query.adopt, Query.push, Query.size]

theorem attach_read (query : Query) (parent id : ClauseId) (node : Clause) :
    (query.attach parent node).clause? id =
      if parent = id then ((query.push node).clause? id).map (Clause.adopt query.size)
      else (query.push node).clause? id :=
  Array.getElem?_modify

theorem attach_new (query : Query) (parent : ClauseId) (node : Clause) (bound : parent < query.size) :
    (query.attach parent node).clause? query.size = some node := by
  rw [attach_read, if_neg (Nat.ne_of_lt bound)]
  exact Array.getElem?_push_size

theorem attach_old (query : Query) (parent id : ClauseId) (node : Clause) (bound : id < query.size) :
    (query.attach parent node).clause? id =
      if parent = id then (query.clause? id).map (Clause.adopt query.size) else query.clause? id := by
  have kept : (query.push node).clause? id = query.clause? id := Array.getElem?_push_lt bound |>.trans
    (Array.getElem?_eq_getElem bound).symm
  rw [attach_read, kept]

theorem attach_parent (query : Query) (parent : ClauseId) (node group : Clause)
    (found : query.clause? parent = some group) :
    (query.attach parent node).clause? parent = some (group.adopt query.size) := by
  rw [attach_old query parent parent node (clause_bound query parent group found), if_pos rfl, found]
  rfl

theorem attach_other (query : Query) (parent id : ClauseId) (node : Clause) (bound : id < query.size)
    (different : id ≠ parent) : (query.attach parent node).clause? id = query.clause? id := by
  rw [attach_old query parent id node bound, if_neg (Ne.symm different)]

theorem attach_absent (query : Query) (parent id : ClauseId) (node : Clause) (new : id ≠ query.size)
    (beyond : ¬ id < query.size) :
    query.clause? id = none ∧ (query.attach parent node).clause? id = none := by
  refine ⟨clause_absent query id (Nat.le_of_not_lt beyond), clause_absent _ id ?_⟩
  rw [attach_size]
  exact Nat.lt_of_le_of_ne (Nat.le_of_not_lt beyond) (Ne.symm new)

def Query.parentOf? (query : Query) (id : ClauseId) : Option ClauseId :=
  (query.clause? id).bind Clause.parent

theorem parent_of_found (query : Query) (id : ClauseId) (node : Clause)
    (found : query.clause? id = some node) : query.parentOf? id = node.parent := by
  simp [Query.parentOf?, found]

theorem parent_of_bound (query : Query) (id parent : ClauseId)
    (named : query.parentOf? id = some parent) : id < query.size := by
  cases found : query.clause? id with
  | none => simp [Query.parentOf?, found] at named
  | some node => exact clause_bound query id node found

theorem attach_parent_of (query : Query) (parent id : ClauseId) (node group : Clause)
    (present : query.clause? parent = some group) :
    (query.attach parent node).parentOf? id = if id = query.size then node.parent else query.parentOf? id := by
  have bound := clause_bound query parent group present
  by_cases new : id = query.size
  · subst new
    rw [if_pos rfl, parent_of_found _ _ node (attach_new query parent node bound)]
  · rw [if_neg new]
    by_cases old : id < query.size
    · by_cases same : parent = id
      · subst same
        rw [parent_of_found _ _ _ (attach_parent query parent node group present),
          parent_of_found query parent group present, adopt_parent]
      · simp only [Query.parentOf?, attach_old query parent id node old, if_neg same]
    · obtain ⟨before, after⟩ := attach_absent query parent id node new old
      simp only [Query.parentOf?, before, after]

theorem attach_child_ids (query : Query) (parent id : ClauseId) (node group : Clause)
    (present : query.clause? parent = some group) (isGroup : group.isGroup = true)
    (childless : node.children = []) :
    (query.attach parent node).childIds id =
      if id = parent then query.childIds id ++ [query.size] else query.childIds id := by
  have bound := clause_bound query parent group present
  by_cases same : id = parent
  · subst same
    rw [if_pos rfl, child_ids_found _ _ _ (attach_parent query id node group present),
      child_ids_found query id group present, adopt_children _ _ isGroup]
  · rw [if_neg same]
    by_cases new : id = query.size
    · subst new
      rw [child_ids_found _ _ node (attach_new query parent node bound), childless]
      simp [Query.childIds, clause_absent query query.size (Nat.le_refl _)]
    · by_cases old : id < query.size
      · simp only [Query.childIds, attach_other query parent id node old same]
      · obtain ⟨before, after⟩ := attach_absent query parent id node new old
        simp only [Query.childIds, before, after]

theorem attach_cases (query : Query) (parent id : ClauseId) (node group found : Clause)
    (present : query.clause? parent = some group)
    (read : (query.attach parent node).clause? id = some found) :
    (id = query.size ∧ found = node) ∨ (id = parent ∧ found = group.adopt query.size) ∨
      (id ≠ parent ∧ query.clause? id = some found) := by
  have bound := clause_bound _ id found read
  rw [attach_size] at bound
  by_cases new : id = query.size
  · subst new
    rw [attach_new query parent node (clause_bound query parent group present)] at read
    exact .inl ⟨rfl, (Option.some.inj read).symm⟩
  · by_cases same : id = parent
    · subst same
      rw [attach_parent query id node group present] at read
      exact .inr (.inl ⟨rfl, (Option.some.inj read).symm⟩)
    · rw [attach_other query parent id node (Nat.lt_of_le_of_ne (Nat.le_of_lt_succ bound) new) same] at read
      exact .inr (.inr ⟨same, read⟩)

end QueryShingles
