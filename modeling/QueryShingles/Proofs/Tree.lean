import QueryShingles.Proofs.Growth

/-!
What the links of a query say about it as a tree: each node but the root is listed once, by the
parent it names, and which kinds of nodes stand under which.
-/

set_option autoImplicit false

namespace QueryShingles

def Query.TermAt (query : Query) (id : ClauseId) : Prop :=
  ∃ word, query.clause? id = some (.term word)

def Query.listings (query : Query) : List ClauseId := (List.range query.size).flatMap query.childIds

structure Query.IsTree (query : Query) : Prop where
  root : ∃ group, query.clause? 0 = some (.boolean group) ∧ group.parent = none ∧ group.occur = .should ∧
    query.listings.count 0 = 0
  held : ∀ id node, query.clause? id = some node → id ≠ 0 → ∃ parent, node.parent = some parent ∧
    parent < id ∧ id ∈ query.childIds parent ∧ query.listings.count id = 1
  ascending : ∀ id, (query.childIds id).Pairwise (· < ·)
  bounded : ∀ id, ∀ child ∈ query.childIds id, child < query.size
  disjunctionMaxParent : ∀ id group, query.clause? id = some (.disjunctionMax group) →
    query.BooleanAt group.parent.index
  termParent : ∀ id word, query.clause? id = some (.term word) → query.DisjunctionMaxAt word.parent.index
  booleanParent : ∀ id group parent, query.clause? id = some (.boolean group) → group.parent = some parent →
    query.BooleanAt parent ∨ query.DisjunctionMaxAt parent
  alternativeOccur : ∀ id group parent, query.clause? id = some (.boolean group) → group.parent = some parent →
    query.DisjunctionMaxAt parent → group.occur = .should
  booleanChildren : ∀ id group, query.clause? id = some (.boolean group) →
    ∀ child ∈ group.clauses, query.DisjunctionMaxAt child ∨ query.BooleanAt child
  disjunctionMaxChildren : ∀ id group, query.clause? id = some (.disjunctionMax group) →
    ∀ child ∈ group.clauses, query.TermAt child ∨ query.BooleanAt child

theorem listed_by_one (query : Query) (linked : query.Linked) (a b child : ClauseId)
    (first : child ∈ query.childIds a) (second : child ∈ query.childIds b) : a = b := by
  have left := (linked.listed a child).mp first
  have right := (linked.listed b child).mp second
  exact Option.some.inj (left.symm.trans right)

theorem listings_distinct (query : Query) (linked : query.Linked) : query.listings.Nodup := by
  refine List.pairwise_flatMap.mpr ⟨fun id _ => linked_distinct query linked id, ?_⟩
  refine List.nodup_range.imp ?_
  intro a b different x first y second same
  subst same
  exact different (listed_by_one query linked a b x first second)

theorem listings_member (query : Query) (id child : ClauseId) (listed : child ∈ query.childIds id) :
    child ∈ query.listings := by
  obtain ⟨node, found, _⟩ := child_ids_parent query id child listed
  exact List.mem_flatMap.mpr ⟨id, List.mem_range.mpr (clause_bound query id node found), listed⟩

theorem linked_not_root (query : Query) (linked : query.Linked) (id parent : ClauseId)
    (named : query.parentOf? id = some parent) : id ≠ 0 :=
  (linked_child query linked parent id ((linked.listed parent id).mpr named)).2.2

theorem linked_parent (query : Query) (linked : query.Linked) (id parent : ClauseId) (node : Clause)
    (found : query.clause? id = some node) (named : node.parent = some parent) :
    ∃ group, query.clause? parent = some group ∧ group.Admits node := by
  have notRoot := linked_not_root query linked id parent ((parent_of_found query id node found).trans named)
  obtain ⟨other, group, up, _, read, admits⟩ := linked.held id node found notRoot
  rw [named] at up
  cases up
  exact ⟨group, read, admits⟩

theorem linked_children (query : Query) (linked : query.Linked) (id child : ClauseId) (group : Clause)
    (found : query.clause? id = some group) (listed : child ∈ group.children) :
    ∃ node, query.clause? child = some node ∧ group.Admits node := by
  have member : child ∈ query.childIds id := by rwa [child_ids_found query id group found]
  obtain ⟨node, read⟩ := clause_present query child (linked_child query linked id child member).2.1
  exact ⟨node, read, linked_child_admitted query linked id child group node found listed read⟩

theorem linked_is_tree (query : Query) (linked : query.Linked) : query.IsTree where
  root := by
    obtain ⟨generated, clauses, found⟩ := linked.root
    refine ⟨_, found, rfl, rfl, List.count_eq_zero.mpr ?_⟩
    intro listed
    obtain ⟨id, _, member⟩ := List.mem_flatMap.mp listed
    exact (linked_child query linked id 0 member).2.2 rfl
  held := by
    intro id node found notRoot
    obtain ⟨parent, group, named, before, _, _⟩ := linked.held id node found notRoot
    have listed : id ∈ query.childIds parent :=
      (linked.listed parent id).mpr ((parent_of_found query id node found).trans named)
    refine ⟨parent, named, before, listed, ?_⟩
    rw [(listings_distinct query linked).count, if_pos (listings_member query parent id listed)]
  ascending := linked.ascending
  bounded := fun id child listed => (linked_child query linked id child listed).2.1
  disjunctionMaxParent := by
    intro id group found
    obtain ⟨outer, read, admits⟩ := linked_parent query linked id group.parent.index _ found rfl
    cases outer with
    | boolean outer => exact ⟨outer, read⟩
    | disjunctionMax outer => exact admits.elim
    | term word => exact admits.elim
  termParent := by
    intro id word found
    obtain ⟨outer, read, admits⟩ := linked_parent query linked id word.parent.index _ found rfl
    cases outer with
    | boolean outer => exact admits.elim
    | disjunctionMax outer => exact ⟨outer, read⟩
    | term word => exact admits.elim
  booleanParent := by
    intro id group parent found named
    obtain ⟨outer, read, admits⟩ := linked_parent query linked id parent _ found named
    cases outer with
    | boolean outer => exact .inl ⟨outer, read⟩
    | disjunctionMax outer => exact .inr ⟨outer, read⟩
    | term word => exact admits.elim
  alternativeOccur := by
    intro id group parent found named there
    obtain ⟨outer, read, admits⟩ := linked_parent query linked id parent _ found named
    obtain ⟨place, atParent⟩ := there
    rw [atParent] at read
    cases read
    exact admits
  booleanChildren := by
    intro id group found child listed
    obtain ⟨node, read, admits⟩ := linked_children query linked id child _ found listed
    cases node with
    | boolean inner => exact .inr ⟨inner, read⟩
    | disjunctionMax inner => exact .inl ⟨inner, read⟩
    | term word => exact admits.elim
  disjunctionMaxChildren := by
    intro id group found child listed
    obtain ⟨node, read, admits⟩ := linked_children query linked id child _ found listed
    cases node with
    | boolean inner => exact .inr ⟨inner, read⟩
    | disjunctionMax inner => exact admits.elim
    | term word => exact .inl ⟨word, read⟩

end QueryShingles
