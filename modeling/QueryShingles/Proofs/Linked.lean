import QueryShingles.Proofs.Arena

/-!
How the nodes of a query hang together: every node but the root names a parent in front of it, and
a group lists exactly the nodes that name it, in order. Adding a node under a group that admits it
keeps all of this.
-/

set_option autoImplicit false

namespace QueryShingles

def Clause.Admits : Clause → Clause → Prop
  | .boolean _, .boolean _ => True
  | .boolean _, .disjunctionMax _ => True
  | .disjunctionMax _, .boolean query => query.occur = .should
  | .disjunctionMax _, .term _ => True
  | _, _ => False

structure Query.Linked (query : Query) : Prop where
  root : ∃ generated clauses, query.clause? 0 = some (.boolean ⟨none, .should, generated, clauses⟩)
  held : ∀ id node, query.clause? id = some node → id ≠ 0 → ∃ parent group, node.parent = some parent ∧
    parent < id ∧ query.clause? parent = some group ∧ group.Admits node
  listed : ∀ id child, child ∈ query.childIds id ↔ query.parentOf? child = some id
  ascending : ∀ id, (query.childIds id).Pairwise (· < ·)

theorem admits_is_group (group node : Clause) (admits : group.Admits node) : group.isGroup = true := by
  cases group <;> simp_all [Clause.Admits, Clause.isGroup]

theorem admits_bare (a b x y : Clause) (left : a.bare = b.bare) (right : x.bare = y.bare) :
    a.Admits x ↔ b.Admits y := by
  cases a <;> cases b <;> cases x <;> cases y <;> simp_all [Clause.bare, Clause.Admits]

theorem new_child_ids (generated : Bool) (id : ClauseId) : (Query.new generated).childIds id = [] := by
  cases id <;> rfl

theorem new_linked (generated : Bool) : (Query.new generated).Linked where
  root := ⟨generated, [], rfl⟩
  held := by
    intro id node found different
    exact absurd (Nat.lt_one_iff.mp (clause_bound _ id node found)) different
  listed := by
    intro id child
    rw [new_child_ids]
    cases child <;> simp [Query.parentOf?, Query.clause?, Query.new, Clause.parent]
  ascending := by
    intro id
    rw [new_child_ids]
    exact .nil

theorem linked_child (query : Query) (linked : query.Linked) (id child : ClauseId)
    (listed : child ∈ query.childIds id) : id < child ∧ child < query.size ∧ child ≠ 0 := by
  have named := (linked.listed id child).mp listed
  have bound := parent_of_bound query child id named
  obtain ⟨node, found⟩ := clause_present query child bound
  rw [parent_of_found query child node found] at named
  have notRoot : child ≠ 0 := by
    intro same
    subst same
    obtain ⟨generated, clauses, atRoot⟩ := linked.root
    rw [atRoot] at found
    cases found
    simp [Clause.parent] at named
  obtain ⟨parent, group, up, before, _⟩ := linked.held child node found notRoot
  rw [named] at up
  cases up
  exact ⟨before, bound, notRoot⟩

theorem linked_child_admitted (query : Query) (linked : query.Linked) (id child : ClauseId) (group node : Clause)
    (present : query.clause? id = some group) (listed : child ∈ group.children)
    (found : query.clause? child = some node) : group.Admits node := by
  rw [← child_ids_found query id group present] at listed
  have named := (linked.listed id child).mp listed
  rw [parent_of_found query child node found] at named
  obtain ⟨parent, other, up, _, read, admits⟩ :=
    linked.held child node found (linked_child query linked id child listed).2.2
  rw [named] at up
  cases up
  rw [present] at read
  cases read
  exact admits

theorem linked_distinct (query : Query) (linked : query.Linked) (id : ClauseId) : (query.childIds id).Nodup :=
  (linked.ascending id).imp Nat.ne_of_lt

theorem linked_positive (query : Query) (linked : query.Linked) : 0 < query.size := by
  obtain ⟨_, _, atRoot⟩ := linked.root
  exact clause_bound query 0 _ atRoot

theorem linked_induction (query : Query) (linked : query.Linked) (motive : ClauseId → Prop)
    (step : ∀ id < query.size, (∀ child ∈ query.childIds id, motive child) → motive id) (id : ClauseId)
    (bound : id < query.size) : motive id := by
  induction remaining : query.size - id using Nat.strongRecOn generalizing id with
  | ind remaining ih =>
      apply step id bound
      intro child listed
      obtain ⟨behind, inside, _⟩ := linked_child query linked id child listed
      exact ih (query.size - child) (by simp only [ClauseId] at *; omega) child inside rfl

theorem attach_root (query : Query) (linked : query.Linked) (parent : ClauseId) (node : Clause) :
    ∃ generated clauses,
      (query.attach parent node).clause? 0 = some (.boolean ⟨none, .should, generated, clauses⟩) := by
  obtain ⟨generated, clauses, atRoot⟩ := linked.root
  rw [attach_old query parent 0 node (linked_positive query linked), atRoot]
  by_cases same : parent = 0
  · exact ⟨generated, clauses ++ [query.size], by rw [if_pos same]; rfl⟩
  · exact ⟨generated, clauses, by rw [if_neg same]⟩

theorem attach_keeps_found (query : Query) (parent id : ClauseId) (node old : Clause)
    (found : query.clause? id = some old) :
    ∃ kept, (query.attach parent node).clause? id = some kept ∧ kept.bare = old.bare := by
  rw [attach_old query parent id node (clause_bound query id old found), found]
  by_cases same : parent = id
  · exact ⟨old.adopt query.size, by rw [if_pos same]; rfl, adopt_bare query.size old⟩
  · exact ⟨old, by rw [if_neg same], rfl⟩

theorem attach_linked (query : Query) (parent : ClauseId) (node group : Clause) (linked : query.Linked)
    (present : query.clause? parent = some group) (admits : group.Admits node)
    (up : node.parent = some parent) (childless : node.children = []) : (query.attach parent node).Linked := by
  have bound := clause_bound query parent group present
  have isGroup := admits_is_group group node admits
  refine ⟨attach_root query linked parent node, ?_, ?_, ?_⟩
  -- A node is the new one, the parent that now lists it, or one that was left alone.
  · intro id found read notRoot
    rcases attach_cases query parent id node group found present read with ⟨new, same⟩ | ⟨atParent, same⟩ | ⟨_, old⟩
    · subst new same
      exact ⟨parent, group.adopt query.size, up, bound, attach_parent query parent found group present,
        (admits_bare _ _ _ _ (adopt_bare _ _) rfl).mpr admits⟩
    · subst atParent same
      obtain ⟨above, outer, named, before, read, outerAdmits⟩ := linked.held id group present notRoot
      obtain ⟨kept, keptRead, keptBare⟩ := attach_keeps_found query id above node outer read
      exact ⟨above, kept, by rw [adopt_parent]; exact named, before, keptRead,
        (admits_bare _ _ _ _ keptBare (adopt_bare _ _)).mpr outerAdmits⟩
    · obtain ⟨above, outer, named, before, read, outerAdmits⟩ := linked.held id found old notRoot
      obtain ⟨kept, keptRead, keptBare⟩ := attach_keeps_found query parent above node outer read
      exact ⟨above, kept, named, before, keptRead, (admits_bare _ _ _ _ keptBare rfl).mpr outerAdmits⟩
  · intro id child
    rw [attach_child_ids query parent id node group present isGroup childless,
      attach_parent_of query parent child node group present]
    by_cases new : child = query.size
    · subst new
      have unlisted : query.size ∉ query.childIds id := fun listed =>
        Nat.lt_irrefl _ (linked_child query linked id query.size listed).2.1
      rw [if_pos rfl, up]
      by_cases same : id = parent
      · simp [same]
      · simp [same, unlisted, Ne.symm same]
    · rw [if_neg new, ← linked.listed id child]
      by_cases same : id = parent <;> simp [same, new]
  · intro id
    rw [attach_child_ids query parent id node group present isGroup childless]
    by_cases same : id = parent
    · rw [if_pos same, List.pairwise_append]
      refine ⟨linked.ascending id, List.pairwise_singleton _ _, ?_⟩
      intro child listed last member
      rw [List.mem_singleton.mp member]
      exact (linked_child query linked id child listed).2.1
    · rw [if_neg same]
      exact linked.ascending id

end QueryShingles
