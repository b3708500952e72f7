import QueryShingles.Proofs.Display
import QueryShingles.Proofs.FirstFault
import QueryShingles.Proofs.Passes
import QueryShingles.Proofs.Reloading
import QueryShingles.Proofs.Shown

/-!
How far below the root the nodes of a query stand. The clauses of its document stand at the same depths,
and every step down opens two more brackets of a text, so the limit of the reader bounds all recursions
over what was read. The bound is attained.
-/

set_option autoImplicit false

namespace QueryShingles

open ClauseDocument

/-- A clause with the number of steps down to it from the document that holds it. -/
inductive Document.HoldsAt (document : Document) : Nat → ClauseDocument → Prop where
  | top (clause : ClauseDocument) (listed : clause ∈ document.clauses) : document.HoldsAt 1 clause
  | inner (depth : Nat) (outer clause : ClauseDocument) (above : document.HoldsAt depth outer)
      (inside : clause ∈ outer.inner) : document.HoldsAt (depth + 1) clause

inductive Query.StandsAt (query : Query) : Nat → ClauseId → Prop where
  | root : query.StandsAt 0 Query.root.index
  | child (depth : Nat) (parent id : ClauseId) (above : query.StandsAt depth parent)
      (named : query.parentOf? id = some parent) : query.StandsAt (depth + 1) id

def Document.Shallow (document : Document) : Prop :=
  ∀ depth clause, document.HoldsAt depth clause → depth ≤ if clause.isTerm then 63 else 62

def Query.Shallow (query : Query) : Prop :=
  ∀ id node, query.clause? id = some node →
    (∃ depth, query.StandsAt depth id) ∧
      ∀ depth, query.StandsAt depth id → depth ≤ if node.isGroup then 62 else 63

theorem inner_nest (outer clause : ClauseDocument) (inside : clause ∈ outer.inner) : 2 + clause.nest ≤ outer.nest := by
  cases outer with
  | boolean occur generated clauses =>
      exact Nat.add_le_add_left ((nest_all_le_iff clauses _).mp (Nat.le_refl _) clause inside) 2
  | disjunctionMax occur generated clauses =>
      exact Nat.add_le_add_left ((nest_all_le_iff clauses _).mp (Nat.le_refl _) clause inside) 2
  | term field value generated => cases inside

theorem holds_nest (document : Document) (depth : Nat) (clause : ClauseDocument)
    (holds : document.HoldsAt depth clause) : 2 * depth + clause.nest ≤ document.nest := by
  induction holds with
  | top clause listed =>
      exact Nat.add_le_add_left ((nest_all_le_iff document.clauses _).mp (Nat.le_refl _) clause listed) 2
  | inner depth outer clause above inside ih =>
      have step := inner_nest outer clause inside
      omega

theorem group_nest_two (clause : ClauseDocument) (group : clause.isTerm = false) : 2 ≤ clause.nest := by
  cases clause with
  | boolean occur generated clauses => exact Nat.le_add_right _ _
  | disjunctionMax occur generated clauses => exact Nat.le_add_right _ _
  | term field value generated => cases group

theorem document_shallow (document : Document) (limited : document.nest ≤ nestingLimit) : document.Shallow := by
  intro depth clause holds
  have brackets := holds_nest document depth clause holds
  have positive := nest_positive clause
  rw [nestingLimit] at limited
  cases kind : clause.isTerm with
  | true =>
      rw [if_pos rfl]
      omega
  | false =>
      have group := group_nest_two clause kind
      rw [if_neg (by decide)]
      omega

theorem view_node (query : Query) (linked : query.Linked) (id : ClauseId) (clause : ClauseDocument)
    (shown : query.view id = some clause) :
    ∃ node, query.clause? id = some node ∧ clause = node.document (query.contents id) := by
  cases found : query.clause? id with
  | none =>
      rw [view_absent query id found] at shown
      cases shown
  | some node => exact ⟨node, rfl, view_of query linked id node clause found shown⟩

theorem inner_contents (query : Query) (linked : query.Linked) (id : ClauseId) (clause : ClauseDocument)
    (shown : query.view id = some clause) : clause.inner = query.contents id := by
  obtain ⟨node, found, same⟩ := view_node query linked id clause shown
  rw [same]
  cases node with
  | boolean group => rfl
  | disjunctionMax group => rfl
  | term word =>
      rw [Query.contents, child_ids_found query id _ found]
      rfl

theorem stands_holds (query : Query) (linked : query.Linked) (depth : Nat) (id : ClauseId)
    (stands : query.StandsAt depth id) :
    (depth = 0 ∧ id = Query.root.index) ∨
      ∃ clause, query.view id = some clause ∧ query.toDocument.HoldsAt depth clause := by
  induction stands with
  | root => exact .inl ⟨rfl, rfl⟩
  | child depth parent id above named ih =>
      have listed : id ∈ query.childIds parent := (linked.listed parent id).mpr named
      obtain ⟨clause, shown⟩ := view_present query linked parent id listed
      have member := (contents_member query parent clause).mpr ⟨id, listed, shown⟩
      refine .inr ⟨clause, shown, ?_⟩
      rcases ih with ⟨atTop, isRoot⟩ | ⟨outer, outerShown, holds⟩
      · rw [atTop]
        rw [isRoot] at member
        exact .top clause member
      · rw [← inner_contents query linked parent outer outerShown] at member
        exact .inner depth outer clause holds member

theorem holds_stands (query : Query) (linked : query.Linked) (depth : Nat) (clause : ClauseDocument)
    (holds : query.toDocument.HoldsAt depth clause) : ∃ id, query.StandsAt depth id ∧ query.view id = some clause := by
  induction holds with
  | top clause listed =>
      obtain ⟨id, member, shown⟩ := (contents_member query Query.root.index clause).mp listed
      exact ⟨id, .child 0 _ id .root ((linked.listed _ id).mp member), shown⟩
  | inner depth outer clause above inside ih =>
      obtain ⟨parent, stands, outerShown⟩ := ih
      rw [inner_contents query linked parent outer outerShown] at inside
      obtain ⟨id, member, shown⟩ := (contents_member query parent clause).mp inside
      exact ⟨id, .child depth parent id stands ((linked.listed parent id).mp member), shown⟩

theorem stands_somewhere (query : Query) (linked : query.Linked) (id : ClauseId) (bound : id < query.size) :
    ∃ depth, query.StandsAt depth id := by
  induction id using Nat.strongRecOn with
  | ind id ih =>
      by_cases atRoot : id = 0
      · rw [atRoot]
        exact ⟨0, .root⟩
      · obtain ⟨node, found⟩ := clause_present query id bound
        obtain ⟨parent, group, named, before, present, _⟩ := linked.held id node found atRoot
        obtain ⟨depth, above⟩ := ih parent before (clause_bound query parent group present)
        exact ⟨depth + 1, .child depth parent id above ((parent_of_found query id node found).trans named)⟩

theorem document_is_term (node : Clause) (clauses : List ClauseDocument) :
    (node.document clauses).isTerm = !node.isGroup := by
  cases node <;> rfl

theorem query_shallow (query : Query) (linked : query.Linked) (limited : query.toDocument.nest ≤ nestingLimit) :
    query.Shallow := by
  intro id node found
  refine ⟨stands_somewhere query linked id (clause_bound query id node found), ?_⟩
  intro depth stands
  rcases stands_holds query linked depth id stands with ⟨atTop, _⟩ | ⟨clause, shown, holds⟩
  · rw [atTop]
    exact Nat.zero_le _
  · have bound := document_shallow query.toDocument limited depth clause holds
    rw [view_of query linked id node clause found shown, document_is_term] at bound
    cases kind : node.isGroup <;> simpa [kind] using bound

theorem subtree_shallow (query : Query) (linked : query.Linked) (depth : Nat) (id : ClauseId) (clause : ClauseDocument)
    (shown : query.view id = some clause) (shallow : clause.nest ≤ 2 * depth) : query.subtree depth id = some clause := by
  induction depth generalizing id clause with
  | zero => exact absurd shallow (Nat.not_le.mpr (nest_positive clause))
  | succ depth ih =>
      obtain ⟨node, found, whole⟩ := view_node query linked id clause shown
      have below : ∀ child ∈ query.childIds id, query.subtree depth child = query.view child := by
        intro child listed
        obtain ⟨inner, innerShown⟩ := view_present query linked id child listed
        have member := (contents_member query id inner).mpr ⟨child, listed, innerShown⟩
        rw [← inner_contents query linked id clause shown] at member
        have step := inner_nest clause inner member
        rw [innerShown]
        exact ih child inner innerShown (by omega)
      rw [subtree_step, found, Option.map_some, ← child_ids_found query id node found,
        List.filterMap_congr below, whole]
      rfl

theorem to_document_shallow (query : Query) (linked : query.Linked) (limited : query.toDocument.nest ≤ nestingLimit)
    (depth : Nat) (enough : 63 ≤ depth) :
    query.clauses.filterMap (query.subtree depth) = query.toDocument.clauses := by
  apply List.filterMap_congr
  intro id listed
  obtain ⟨clause, shown⟩ := view_present query linked _ id listed
  have member := (contents_member query Query.root.index clause).mpr ⟨id, listed, shown⟩
  have brackets := holds_nest query.toDocument 1 clause (.top clause member)
  rw [nestingLimit] at limited
  exact (subtree_shallow query linked depth id clause shown (by omega)).trans shown.symm

theorem text_shallow (query : Query) (linked : query.Linked) (limited : query.toDocument.nest ≤ nestingLimit)
    (depth : Nat) (enough : 63 ≤ depth) :
    (query.formatClause? (depth + 1) Query.root.index).map String.ofList = some query.text := by
  obtain ⟨generated, clauses, atRoot⟩ := linked.root
  rw [root_format query _ atRoot rfl, to_document_shallow query linked limited depth enough, linked_text query linked]
  rfl

theorem passes_reloadable (query : Query) (reloadable : query.Reloadable) (accepts : List Bool) :
    (query.passes accepts).Reloadable := by
  induction accepts using List.reverseRecOn with
  | nil => exact reloadable
  | append_singleton accepts accept ih =>
      rw [passes_next]
      exact run_reloadable ⟨accept⟩ _ ih

def ClauseDocument.buried (clause : ClauseDocument) : Nat → ClauseDocument
  | 0 => clause
  | groups + 1 => .boolean .should false [clause.buried groups]

def deepest : Document := ⟨false, [(disjunctionMax .should false [.term none "a" false]).buried 61]⟩

theorem buried_holds (document : Document) (clause : ClauseDocument) (depth groups : Nat)
    (holds : document.HoldsAt depth (clause.buried groups)) : document.HoldsAt (depth + groups) clause := by
  induction groups generalizing depth with
  | zero => exact holds
  | succ groups ih =>
      have inside := ih (depth + 1) (.inner depth _ _ holds (List.mem_singleton_self _))
      rwa [Nat.add_right_comm] at inside

theorem buried_nest (clause : ClauseDocument) (groups : Nat) : (clause.buried groups).nest = 2 * groups + clause.nest := by
  induction groups with
  | zero => exact (Nat.zero_add _).symm
  | succ groups ih =>
      rw [buried, ClauseDocument.nest, nestAll, nestAll, ih]
      omega

theorem deepest_nest : deepest.nest = nestingLimit := by
  rw [deepest, Document.nest, nestAll, buried_nest]
  rfl

theorem deepest_read : ∃ query, Query.ofText (deepest.toJson.text .compact) = .ok query ∧
    query.Linked ∧ query.toDocument = deepest := by
  obtain ⟨query, loaded⟩ := (to_query_ok_iff deepest).mpr rfl
  refine ⟨query, ?_, loaded_linked deepest query loaded, to_query_document deepest query loaded⟩
  have read : Document.ofText (deepest.toJson.text .compact) = .ok deepest :=
    (of_text_written deepest .compact).trans (within_ok _ _ _ (Nat.le_of_eq deepest_nest))
  rw [Query.ofText, read]
  simp only [loaded]

theorem deepest_holds :
    deepest.HoldsAt 62 (.disjunctionMax .should false [.term none "a" false]) ∧
      deepest.HoldsAt 63 (.term none "a" false) := by
  have group := buried_holds deepest _ 1 61 (.top _ (List.mem_singleton_self _))
  exact ⟨group, .inner 62 _ _ group (List.mem_singleton_self _)⟩

/-- Whatever a text was, its query is no deeper than its brackets allow, before and after any passes, and neither is
what the recursions that write or show it go through. There is a text that goes so deep. -/
theorem read_depths :
    (∀ (text : String) (query : Query) (accepts : List Bool), Query.ofText text = .ok query →
      (query.passes accepts).Shallow ∧ (query.passes accepts).toDocument.Shallow ∧
      (∀ depth, 63 ≤ depth → (query.passes accepts).clauses.filterMap ((query.passes accepts).subtree depth) =
        (query.passes accepts).toDocument.clauses ∧
        ((query.passes accepts).formatClause? (depth + 1) Query.root.index).map String.ofList =
          some (query.passes accepts).text) ∧
      ∃ document, Document.ofText text = .ok document ∧ document.toQuery = .ok query ∧ document.Shallow) ∧
    ∃ text query, Query.ofText text = .ok query ∧
      (∃ id group, query.clause? id = some (.disjunctionMax group) ∧ query.StandsAt 62 id) ∧
      ∃ id word, query.clause? id = some (.term word) ∧ query.StandsAt 63 id := by
  constructor
  · intro text query accepts loaded
    have grown := passes_reloadable query (of_text_reloadable text query loaded) accepts
    obtain ⟨document, read, built⟩ := of_text_steps text query loaded
    refine ⟨query_shallow _ grown.linked grown.nest, document_shallow _ grown.nest, ?_, document, read, built,
      document_shallow document (of_text_nest text document read)⟩
    intro depth enough
    exact ⟨to_document_shallow _ grown.linked grown.nest depth enough, text_shallow _ grown.linked grown.nest depth enough⟩
  · obtain ⟨query, loaded, linked, shows⟩ := deepest_read
    refine ⟨_, query, loaded, ?_, ?_⟩
    · obtain ⟨id, stands, shown⟩ := holds_stands query linked 62 _ (shows ▸ deepest_holds.1)
      obtain ⟨node, found, same⟩ := view_node query linked id _ shown
      cases node with
      | boolean group => cases same
      | disjunctionMax group => exact ⟨id, group, found, stands⟩
      | term word => cases same
    · obtain ⟨id, stands, shown⟩ := holds_stands query linked 63 _ (shows ▸ deepest_holds.2)
      obtain ⟨node, found, same⟩ := view_node query linked id _ shown
      cases node with
      | boolean group => cases same
      | disjunctionMax group => cases same
      | term word => exact ⟨id, word, found, stands⟩

theorem read_depths_deepest :
    ∃ query, Query.ofText (deepest.toJson.text .compact) = .ok query ∧ (query.passes [true, false]).Shallow ∧
      (query.passes [true, false]).clauses.filterMap ((query.passes [true, false]).subtree 63) =
        (query.passes [true, false]).toDocument.clauses := by
  obtain ⟨query, loaded, _⟩ := deepest_read
  obtain ⟨nodes, _, enough, _⟩ := read_depths.1 _ query [true, false] loaded
  exact ⟨query, loaded, nodes, (enough 63 (Nat.le_refl 63)).1⟩

end QueryShingles
