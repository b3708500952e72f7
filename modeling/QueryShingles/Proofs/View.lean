import Mathlib.Data.List.Basic
import QueryShingles.Proofs.Growth

/-!
The document below a node. In a linked query children stand behind their parents, so the depth to
which a subtree is followed does not matter once it covers the nodes behind its root, and a subtree
only depends on the nodes in it.
-/

set_option autoImplicit false

namespace QueryShingles

def Clause.document (node : Clause) (clauses : List ClauseDocument) : ClauseDocument :=
  match node with
  | .boolean query => .boolean query.occur query.generated clauses
  | .disjunctionMax query => .disjunctionMax query.occur query.generated clauses
  | .term word => .term word.field word.value word.generated

def Query.view (query : Query) (id : ClauseId) : Option ClauseDocument := query.subtree query.size id

def Query.contents (query : Query) (id : ClauseId) : List ClauseDocument :=
  (query.childIds id).filterMap query.view

theorem bare_document (a b : Clause) (clauses : List ClauseDocument) (same : a.bare = b.bare) :
    a.document clauses = b.document clauses := by
  cases a <;> cases b <;> simp_all [Clause.bare, Clause.document]

theorem subtree_step (query : Query) (depth : Nat) (id : ClauseId) :
    query.subtree (depth + 1) id =
      (query.clause? id).map fun node => node.document (node.children.filterMap (query.subtree depth)) := by
  rw [Query.subtree]
  cases query.clause? id with
  | none => rfl
  | some node => cases node <;> rfl

theorem subtree_absent (query : Query) (depth : Nat) (id : ClauseId) (absent : query.clause? id = none) :
    query.subtree depth id = none := by
  cases depth with
  | zero => rfl
  | succ depth => rw [subtree_step, absent]; rfl

theorem subtree_enough (query : Query) (linked : query.Linked) (depth other : Nat) (id : ClauseId)
    (enough : query.size ≤ id + depth) (enoughToo : query.size ≤ id + other) :
    query.subtree depth id = query.subtree other id := by
  induction depth generalizing other id with
  | zero =>
      have absent := clause_absent query id enough
      rw [subtree_absent query 0 id absent, subtree_absent query other id absent]
  | succ depth ih =>
      cases other with
      | zero =>
          have absent := clause_absent query id enoughToo
          rw [subtree_absent query _ id absent, subtree_absent query 0 id absent]
      | succ other =>
          rw [subtree_step, subtree_step]
          cases found : query.clause? id with
          | none => rfl
          | some node =>
              -- A child stands behind its parent, so one step less is still enough for it.
              have below : ∀ child ∈ node.children, query.subtree depth child = query.subtree other child := by
                intro child member
                rw [← child_ids_found query id node found] at member
                have behind := (linked_child query linked id child member).1
                exact ih other child (by simp only [ClauseId] at *; omega) (by simp only [ClauseId] at *; omega)
              rw [Option.map_some, Option.map_some, List.filterMap_congr below]

theorem view_found (query : Query) (linked : query.Linked) (id : ClauseId) (node : Clause)
    (found : query.clause? id = some node) : query.view id = some (node.document (query.contents id)) := by
  have bound := clause_bound query id node found
  have deeper : query.view id = query.subtree (query.size + 1) id :=
    subtree_enough query linked _ _ id (Nat.le_add_left _ _) (Nat.le_succ_of_le (Nat.le_add_left _ _))
  rw [deeper, subtree_step, found, Query.contents, child_ids_found query id node found]
  rfl

theorem view_absent (query : Query) (id : ClauseId) (absent : query.clause? id = none) : query.view id = none :=
  subtree_absent query query.size id absent

theorem bare_generated (a b : Clause) (same : a.bare = b.bare) : a.generated = b.generated := by
  cases a <;> cases b <;> simp_all [Clause.bare, Clause.generated]

theorem grows_generated (query grown : Query) (linked : query.Linked) (grows : query.Grows grown) :
    grown.generated = query.generated := by
  obtain ⟨generated, clauses, found⟩ := linked.root
  obtain ⟨kept, read, same⟩ := grows_keeps query grown grows 0 _ found
  simp only [Query.generated, Query.root, found, read]
  exact bare_generated _ _ same

theorem to_document_contents (query : Query) :
    query.toDocument = ⟨query.generated, query.contents Query.root.index⟩ := rfl

theorem view_agree (query other : Query) (linked : query.Linked) (otherLinked : other.Linked)
    (kept : ClauseId → Prop) (agree : ∀ id, kept id → other.clause? id = query.clause? id)
    (closed : ∀ id child, kept id → child ∈ query.childIds id → kept child) (id : ClauseId) (isKept : kept id) :
    other.view id = query.view id := by
  revert isKept
  by_cases inside : id < query.size
  · apply linked_induction query linked (fun id => kept id → other.view id = query.view id) _ id inside
    intro id bound ih isKept
    obtain ⟨node, found⟩ := clause_present query id bound
    have same := (agree id isKept).trans found
    rw [view_found query linked id node found, view_found other otherLinked id node same,
      Query.contents, Query.contents, child_ids_found query id node found, child_ids_found other id node same]
    have below : ∀ child ∈ node.children, other.view child = query.view child := by
      intro child member
      rw [← child_ids_found query id node found] at member
      exact ih child member (closed id child isKept member)
    rw [List.filterMap_congr below]
  · intro isKept
    have absent := clause_absent query id (Nat.le_of_not_lt inside)
    rw [view_absent query id absent, view_absent other id ((agree id isKept).trans absent)]

end QueryShingles
