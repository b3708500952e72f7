import Mathlib.Data.List.Basic
import QueryShingles.Proofs.Tree

/-!
The nodes of a query in pre-order: a node stands in front of all that is below it, and what is below
one child in front of what is below the next. From the root this goes past every node of a linked
query, and past none twice.
-/

set_option autoImplicit false

namespace QueryShingles

def Query.walk (query : Query) : (depth : Nat) → ClauseId → List ClauseId
  | 0, _ => []
  | depth + 1, id => id :: (query.childIds id).flatMap (query.walk depth)

/-- A node and all nodes below it; no path down is longer than the number of nodes. -/
def Query.below (query : Query) (id : ClauseId) : List ClauseId := query.walk query.size id

def Query.preorder (query : Query) : List ClauseId := query.below Query.root.index

theorem walk_enough (query : Query) (linked : query.Linked) (depth other : Nat) (id : ClauseId)
    (bound : id < query.size) (enough : query.size ≤ id + depth) (enoughToo : query.size ≤ id + other) :
    query.walk depth id = query.walk other id := by
  induction depth generalizing other id with
  | zero => exact absurd bound (Nat.not_lt.mpr enough)
  | succ depth ih =>
      cases other with
      | zero => exact absurd bound (Nat.not_lt.mpr enoughToo)
      | succ other =>
          have children : ∀ child ∈ query.childIds id, query.walk depth child = query.walk other child := by
            intro child listed
            obtain ⟨behind, inside, _⟩ := linked_child query linked id child listed
            exact ih other child inside (by simp only [ClauseId] at *; omega) (by simp only [ClauseId] at *; omega)
          rw [Query.walk, Query.walk, List.flatMap_congr children]

theorem below_step (query : Query) (linked : query.Linked) (id : ClauseId) (bound : id < query.size) :
    query.below id = id :: (query.childIds id).flatMap query.below := by
  have deeper : query.below id = query.walk (query.size + 1) id :=
    walk_enough query linked _ _ id bound (Nat.le_add_left _ _) (Nat.le_succ_of_le (Nat.le_add_left _ _))
  rw [deeper]
  rfl

theorem below_self (query : Query) (linked : query.Linked) (id : ClauseId) (bound : id < query.size) :
    id ∈ query.below id := by
  rw [below_step query linked id bound]
  exact List.mem_cons_self

theorem below_bounds (query : Query) (linked : query.Linked) (id : ClauseId) (bound : id < query.size) :
    ∀ found ∈ query.below id, id ≤ found ∧ found < query.size := by
  apply linked_induction query linked (fun id => ∀ found ∈ query.below id, id ≤ found ∧ found < query.size)
    _ id bound
  intro id bound ih found member
  rw [below_step query linked id bound] at member
  rcases List.mem_cons.mp member with here | deeper
  · rw [here]
    exact ⟨Nat.le_refl id, bound⟩
  · obtain ⟨child, listed, under⟩ := List.mem_flatMap.mp deeper
    obtain ⟨behind, inside⟩ := ih child listed found under
    exact ⟨Nat.le_trans (Nat.le_of_lt (linked_child query linked id child listed).1) behind, inside⟩

theorem below_child (query : Query) (linked : query.Linked) (id parent child : ClauseId) (bound : id < query.size)
    (under : parent ∈ query.below id) (listed : child ∈ query.childIds parent) : child ∈ query.below id := by
  revert under
  apply linked_induction query linked (fun id => parent ∈ query.below id → child ∈ query.below id) _ id bound
  intro id bound ih under
  rw [below_step query linked id bound] at under ⊢
  apply List.mem_cons_of_mem
  rcases List.mem_cons.mp under with here | deeper
  · rw [here] at listed
    have inside := (linked_child query linked id child listed).2.1
    exact List.mem_flatMap.mpr ⟨child, listed, below_self query linked child inside⟩
  · obtain ⟨middle, between, under⟩ := List.mem_flatMap.mp deeper
    exact List.mem_flatMap.mpr ⟨middle, between, ih middle between under⟩

theorem below_parent (query : Query) (linked : query.Linked) (id found : ClauseId) (bound : id < query.size)
    (member : found ∈ query.below id) (deeper : found ≠ id) :
    ∃ parent ∈ query.below id, found ∈ query.childIds parent := by
  revert member deeper
  apply linked_induction query linked
    (fun id => found ∈ query.below id → found ≠ id → ∃ parent ∈ query.below id, found ∈ query.childIds parent)
    _ id bound
  intro id bound ih member deeper
  rw [below_step query linked id bound] at member
  rcases List.mem_cons.mp member with here | later
  · exact absurd here deeper
  · obtain ⟨child, listed, under⟩ := List.mem_flatMap.mp later
    by_cases same : found = child
    · rw [same]
      exact ⟨id, below_self query linked id bound, listed⟩
    · obtain ⟨parent, above, names⟩ := ih child listed under same
      rw [below_step query linked id bound]
      exact ⟨parent, List.mem_cons_of_mem _ (List.mem_flatMap.mpr ⟨child, listed, above⟩), names⟩

theorem below_one_child (query : Query) (linked : query.Linked) (id a b found : ClauseId)
    (first : a ∈ query.childIds id) (second : b ∈ query.childIds id)
    (underFirst : found ∈ query.below a) (underSecond : found ∈ query.below b) : a = b := by
  obtain ⟨beforeA, insideA, _⟩ := linked_child query linked id a first
  obtain ⟨beforeB, insideB, _⟩ := linked_child query linked id b second
  -- If both children are above the node, both are above its parent, which has a smaller position.
  induction found using Nat.strongRecOn with
  | ind found ih =>
      by_cases atFirst : found = a
      · by_cases atSecond : found = b
        · exact atFirst.symm.trans atSecond
        · obtain ⟨parent, above, listed⟩ := below_parent query linked b found insideB underSecond atSecond
          rw [listed_by_one query linked parent id a (atFirst ▸ listed) first] at above
          exact absurd (below_bounds query linked b insideB id above).1 (Nat.not_le.mpr beforeB)
      · obtain ⟨parent, above, listed⟩ := below_parent query linked a found insideA underFirst atFirst
        by_cases atSecond : found = b
        · rw [listed_by_one query linked parent id b (atSecond ▸ listed) second] at above
          exact absurd (below_bounds query linked a insideA id above).1 (Nat.not_le.mpr beforeA)
        · obtain ⟨other, aboveToo, listedToo⟩ := below_parent query linked b found insideB underSecond atSecond
          rw [listed_by_one query linked other parent found listedToo listed] at aboveToo
          exact ih parent (linked_child query linked parent found listed).1 above aboveToo

theorem below_distinct (query : Query) (linked : query.Linked) (id : ClauseId) (bound : id < query.size) :
    (query.below id).Nodup := by
  apply linked_induction query linked (fun id => (query.below id).Nodup) _ id bound
  intro id bound ih
  rw [below_step query linked id bound]
  apply List.nodup_cons.mpr
  constructor
  · intro deeper
    obtain ⟨child, listed, under⟩ := List.mem_flatMap.mp deeper
    obtain ⟨behind, inside, _⟩ := linked_child query linked id child listed
    exact absurd (below_bounds query linked child inside id under).1 (Nat.not_le.mpr behind)
  · refine List.pairwise_flatMap.mpr ⟨ih, (linked_distinct query linked id).imp_of_mem ?_⟩
    intro a b first second different x underFirst y underSecond same
    rw [← same] at underSecond
    exact different (below_one_child query linked id a b x first second underFirst underSecond)

theorem preorder_member (query : Query) (linked : query.Linked) (id : ClauseId) :
    id ∈ query.preorder ↔ id < query.size := by
  have positive := linked_positive query linked
  constructor
  · intro member
    exact (below_bounds query linked 0 positive id member).2
  · intro bound
    induction id using Nat.strongRecOn with
    | ind id ih =>
        by_cases atRoot : id = 0
        · rw [atRoot]
          exact below_self query linked 0 positive
        · obtain ⟨node, found⟩ := clause_present query id bound
          obtain ⟨parent, group, named, before, present, _⟩ := linked.held id node found atRoot
          have listed : id ∈ query.childIds parent :=
            (linked.listed parent id).mpr ((parent_of_found query id node found).trans named)
          have passed := ih parent before (clause_bound query parent group present)
          exact below_child query linked 0 parent id positive passed listed

theorem preorder_distinct (query : Query) (linked : query.Linked) : query.preorder.Nodup :=
  below_distinct query linked 0 (linked_positive query linked)

theorem preorder_all (query : Query) (linked : query.Linked) : query.preorder.Perm (List.range query.size) := by
  apply (List.perm_ext_iff_of_nodup (preorder_distinct query linked) List.nodup_range).mpr
  intro id
  rw [preorder_member query linked id, List.mem_range]

end QueryShingles
