import QueryShingles.Proofs.Numbering
import QueryShingles.Proofs.Preorder
import QueryShingles.Proofs.ShingledDocument

/-!
What the document of a linked query is like. It has a clause for every node, reading it back changes
none of them, and it loads unless one of the disjunction max groups is empty.
-/

set_option autoImplicit false

namespace QueryShingles

open ClauseDocument

def Query.FilledAmong (query : Query) (ids : List ClauseId) : Prop :=
  ∀ id ∈ ids, ∀ group, query.clause? id = some (.disjunctionMax group) → group.clauses ≠ []

def Query.Filled (query : Query) : Prop :=
  ∀ id group, query.clause? id = some (.disjunctionMax group) → group.clauses ≠ []

def Clause.isPlace : Clause → Bool
  | .disjunctionMax _ => true
  | _ => false

theorem admits_no_place (outer : Clause) (group : DisjunctionMaxQuery) (admits : outer.Admits (.disjunctionMax group)) :
    outer.isPlace = false := by
  cases outer with
  | boolean outer => rfl
  | disjunctionMax outer => exact admits.elim
  | term word => exact admits.elim

theorem admits_place (outer : Clause) (word : Term) (admits : outer.Admits (.term word)) : outer.isPlace = true := by
  cases outer with
  | boolean outer => exact admits.elim
  | disjunctionMax outer => rfl
  | term word => exact admits.elim

theorem contents_member (query : Query) (id : ClauseId) (clause : ClauseDocument) :
    clause ∈ query.contents id ↔ ∃ child ∈ query.childIds id, query.view child = some clause := by
  rw [Query.contents, List.mem_filterMap]

theorem contents_empty_iff (query : Query) (linked : query.Linked) (id : ClauseId) :
    query.contents id = [] ↔ query.childIds id = [] := by
  constructor
  · intro empty
    apply List.eq_nil_iff_forall_not_mem.mpr
    intro child listed
    obtain ⟨clause, shown⟩ := view_present query linked id child listed
    have member := (contents_member query id clause).mpr ⟨child, listed, shown⟩
    simp [empty] at member
  · intro childless
    rw [Query.contents, childless]
    rfl

theorem view_of (query : Query) (linked : query.Linked) (id : ClauseId) (node : Clause) (clause : ClauseDocument)
    (found : query.clause? id = some node) (shown : query.view id = some clause) :
    clause = node.document (query.contents id) :=
  Option.some.inj (shown.symm.trans (view_found query linked id node found))

theorem child_admitted (query : Query) (linked : query.Linked) (id child : ClauseId) (node : Clause)
    (found : query.clause? id = some node) (listed : child ∈ query.childIds id) :
    ∃ inner, query.clause? child = some inner ∧ node.Admits inner := by
  obtain ⟨inner, read⟩ := clause_present query child (linked_child query linked id child listed).2.1
  rw [child_ids_found query id node found] at listed
  exact ⟨inner, read, linked_child_admitted query linked id child node inner found listed read⟩

theorem view_count (query : Query) (linked : query.Linked) (id : ClauseId) (bound : id < query.size) :
    ∀ clause, query.view id = some clause → clause.count = (query.below id).length := by
  apply linked_induction query linked
    (fun id => ∀ clause, query.view id = some clause → clause.count = (query.below id).length) _ id bound
  intro id bound ih clause shown
  obtain ⟨node, found⟩ := clause_present query id bound
  have children : ∀ ids : List ClauseId, (∀ child ∈ ids, child ∈ query.childIds id) →
      countAll (ids.filterMap query.view) = (ids.flatMap query.below).length := by
    intro ids all
    induction ids with
    | nil => rfl
    | cons child rest tail =>
        have listed := all child List.mem_cons_self
        obtain ⟨inner, shown⟩ := view_present query linked id child listed
        rw [List.filterMap_cons_some shown, countAll, ih child listed inner shown, List.flatMap_cons,
          List.length_append, tail fun other member => all other (List.mem_cons_of_mem _ member)]
  have total := children (query.childIds id) fun _ listed => listed
  rw [view_of query linked id node clause found shown, below_step query linked id bound, List.length_cons, ← total]
  cases node with
  | boolean group => exact Nat.add_comm _ _
  | disjunctionMax group => exact Nat.add_comm _ _
  | term word =>
      rw [child_ids_found query id _ found]
      rfl

theorem view_settled (query : Query) (linked : query.Linked) (id : ClauseId) (bound : id < query.size) :
    ∀ outer node : Clause, ∀ clause, query.clause? id = some node → outer.Admits node →
      query.view id = some clause → clause.settle outer.isPlace = clause := by
  apply linked_induction query linked
    (fun id => ∀ outer node : Clause, ∀ clause, query.clause? id = some node → outer.Admits node →
      query.view id = some clause → clause.settle outer.isPlace = clause) _ id bound
  intro id bound ih outer node clause found admits shown
  have children : settleAll node.isPlace (query.contents id) = query.contents id := by
    have each : ∀ clause ∈ query.contents id, clause.settle node.isPlace = clause := by
      intro clause member
      obtain ⟨child, listed, shown⟩ := (contents_member query id clause).mp member
      obtain ⟨inner, read, fitting⟩ := child_admitted query linked id child node found listed
      exact ih child listed node inner clause read fitting shown
    rw [settle_all_map]
    exact (List.map_congr_left each).trans (List.map_id _)
  rw [view_of query linked id node clause found shown]
  cases node with
  | boolean group =>
      have occur : (if outer.isPlace then Occur.should else group.occur) = group.occur := by
        cases outer with
        | boolean outer => rfl
        | disjunctionMax outer => exact admits.symm
        | term word => exact admits.elim
      rw [Clause.document, settle, occur]
      exact congrArg (ClauseDocument.boolean group.occur group.generated) children
  | disjunctionMax group => exact congrArg (ClauseDocument.disjunctionMax group.occur group.generated) children
  | term word => rfl

theorem linked_settled (query : Query) (linked : query.Linked) : query.toDocument.settle = query.toDocument := by
  obtain ⟨generated, clauses, atRoot⟩ := linked.root
  have each : ∀ clause ∈ query.toDocument.clauses, clause.settle false = clause := by
    intro clause member
    obtain ⟨child, listed, shown⟩ := (contents_member query 0 clause).mp member
    obtain ⟨node, read, admits⟩ := child_admitted query linked 0 child _ atRoot listed
    exact view_settled query linked child (clause_bound query child node read) _ node clause read admits shown
  rw [Document.settle, settle_all_map, List.map_congr_left each]
  exact congrArg (Document.mk query.generated) (List.map_id _)

theorem filled_among_all (query : Query) (ids : List ClauseId) :
    query.FilledAmong (ids.flatMap query.below) ↔ ∀ id ∈ ids, query.FilledAmong (query.below id) := by
  constructor
  · intro filled id member other under
    exact filled other (List.mem_flatMap.mpr ⟨id, member, under⟩)
  · intro each other deeper
    obtain ⟨id, member, under⟩ := List.mem_flatMap.mp deeper
    exact each id member other under

theorem contents_fit (query : Query) (linked : query.Linked) (id : ClauseId) (alternative : Bool)
    (each : ∀ child ∈ query.childIds id, ∀ clause, query.view child = some clause →
      (clause.fits alternative = true ↔ query.FilledAmong (query.below child))) :
    fitsAll alternative (query.contents id) = true ↔
      query.FilledAmong ((query.childIds id).flatMap query.below) := by
  rw [fits_all_iff, filled_among_all]
  constructor
  · intro fitting child listed
    obtain ⟨clause, shown⟩ := view_present query linked id child listed
    apply (each child listed clause shown).mp
    exact fitting clause ((contents_member query id clause).mpr ⟨child, listed, shown⟩)
  · intro filled clause member
    obtain ⟨child, listed, shown⟩ := (contents_member query id clause).mp member
    exact (each child listed clause shown).mpr (filled child listed)

theorem view_fits (query : Query) (linked : query.Linked) (id : ClauseId) (bound : id < query.size) :
    ∀ outer node : Clause, ∀ clause, query.clause? id = some node → outer.Admits node →
      query.view id = some clause → (clause.fits outer.isPlace = true ↔ query.FilledAmong (query.below id)) := by
  apply linked_induction query linked
    (fun id => ∀ outer node : Clause, ∀ clause, query.clause? id = some node → outer.Admits node →
      query.view id = some clause → (clause.fits outer.isPlace = true ↔ query.FilledAmong (query.below id))) _ id bound
  intro id bound ih outer node clause found admits shown
  have children : fitsAll node.isPlace (query.contents id) = true ↔
      query.FilledAmong ((query.childIds id).flatMap query.below) := by
    apply contents_fit query linked id
    intro child listed inner innerShown
    obtain ⟨other, read, fitting⟩ := child_admitted query linked id child node found listed
    exact ih child listed node other inner read fitting innerShown
  have here : query.FilledAmong (query.below id) ↔
      (∀ group, node = .disjunctionMax group → group.clauses ≠ []) ∧
        query.FilledAmong ((query.childIds id).flatMap query.below) := by
    rw [below_step query linked id bound, Query.FilledAmong, List.forall_mem_cons, found]
    simp [Query.FilledAmong]
  rw [view_of query linked id node clause found shown, here, ← children]
  cases node with
  | boolean group => simp [Clause.document, ClauseDocument.fits, Clause.isPlace]
  | disjunctionMax group =>
      have filled : (query.contents id).isEmpty = false ↔ group.clauses ≠ [] := by
        rw [List.isEmpty_eq_false_iff, ne_eq, contents_empty_iff query linked id, child_ids_found query id _ found]
        rfl
      have place : (Clause.disjunctionMax group).isPlace = true := rfl
      simp [Clause.document, ClauseDocument.fits, place, admits_no_place outer group admits, filled]
  | term word =>
      have alone : query.contents id = [] := by
        rw [contents_empty_iff query linked id, child_ids_found query id _ found]
        rfl
      simp [Clause.document, ClauseDocument.fits, admits_place outer word admits, alone, fitsAll]

theorem fits_iff_filled (query : Query) (linked : query.Linked) :
    query.toDocument.fits = true ↔ query.Filled := by
  obtain ⟨generated, clauses, atRoot⟩ := linked.root
  have children : query.toDocument.fits = true ↔ query.FilledAmong ((query.childIds 0).flatMap query.below) := by
    apply contents_fit query linked 0 false
    intro child listed clause shown
    obtain ⟨node, read, admits⟩ := child_admitted query linked 0 child _ atRoot listed
    exact view_fits query linked child (clause_bound query child node read) _ node clause read admits shown
  have all : query.FilledAmong query.preorder ↔ query.FilledAmong ((query.childIds 0).flatMap query.below) := by
    rw [Query.preorder, Query.root, below_step query linked 0 (linked_positive query linked), Query.FilledAmong,
      List.forall_mem_cons, atRoot]
    simp [Query.FilledAmong]
  rw [children, ← all]
  constructor
  · intro filled id group found
    exact filled id ((preorder_member query linked id).mpr (clause_bound query id _ found)) group found
  · intro filled id _ group found
    exact filled id group found

end QueryShingles
