import QueryShingles.Proofs.Session

/-!
Handles that another query gave out. An addition looks its parent up when the new node is already
counted, so a handle that points just past the end meets the new node itself. Only a boolean group is
then of the kind that is looked for, and it becomes its own parent. Under every other handle an
addition fails or leaves a tree.
-/

set_option autoImplicit false

namespace QueryShingles

def Handle.index : Handle → ClauseId
  | .boolean id => id.index
  | .disjunctionMax id => id.index
  | .term id => id.index

def Query.lookUp (query : Query) : Handle → Except HandleFault Clause
  | .boolean id => (query.boolean id).map Clause.boolean
  | .disjunctionMax id => (query.disjunctionMax id).map Clause.disjunctionMax
  | .term id => (query.term id).map Clause.term

def Addition.node? : Addition → Option Clause
  | .disjunctionMax parent occur generated => some (.disjunctionMax ⟨parent, occur, generated, []⟩)
  | .boolean parent occur generated => some (.boolean ⟨some parent.index, occur, generated, []⟩)
  | .alternative parent generated => some (.boolean ⟨some parent.index, .should, generated, []⟩)
  | .term parent field value generated => some (.term ⟨parent, field, value, generated⟩)
  | .userTerm parent field value => some (.term ⟨parent, field, value, false⟩)
  | .token _ _ _ => none

theorem look_up_iff (query : Query) (handle : Handle) (node : Clause) :
    query.lookUp handle = .ok node ↔
      query.clause? handle.index = some node ∧ node.handle handle.index = handle := by
  cases handle with
  | boolean id =>
      cases found : query.clause? id.index with
      | none => simp [Query.lookUp, Query.boolean, Handle.index, found]
      | some other =>
          cases other <;> cases node <;> simp [Query.lookUp, Query.boolean, Handle.index, Clause.handle, found]
  | disjunctionMax id =>
      cases found : query.clause? id.index with
      | none => simp [Query.lookUp, Query.disjunctionMax, Handle.index, found]
      | some other =>
          cases other <;> cases node <;> simp [Query.lookUp, Query.disjunctionMax, Handle.index, Clause.handle, found]
  | term id =>
      cases found : query.clause? id.index with
      | none => simp [Query.lookUp, Query.term, Handle.index, found]
      | some other =>
          cases other <;> cases node <;> simp [Query.lookUp, Query.term, Handle.index, Clause.handle, found]

theorem bare_handle (a b : Clause) (id : ClauseId) (same : a.bare = b.bare) : a.handle id = b.handle id := by
  cases a <;> cases b <;> simp_all [Clause.bare, Clause.handle]

theorem map_map {ε α β γ : Type} (result : Except ε α) (f : α → β) (g : β → γ) :
    (result.map f).map g = result.map (g ∘ f) := by
  cases result <;> rfl

/-- Every addition under a parent attaches its node and then looks the parent up. -/
theorem addition_run (query : Query) (addition : Addition) (parent : Handle) (node : Clause)
    (under : addition.parent? = some parent) (adds : addition.node? = some node) :
    addition.run query = ((query.attach parent.index node).lookUp parent).map fun _ =>
      (query.attach parent.index node, node.handle query.size) := by
  cases addition with
  | token field value generated => cases under
  | disjunctionMax id occur generated =>
      cases under
      cases adds
      rw [Query.lookUp, map_map]
      exact map_map _ _ _
  | boolean id occur generated =>
      cases under
      cases adds
      rw [Query.lookUp, map_map]
      exact map_map _ _ _
  | alternative id generated =>
      cases under
      cases adds
      rw [Query.lookUp, map_map]
      exact map_map _ _ _
  | term id field value generated =>
      cases under
      cases adds
      rw [Query.lookUp, map_map]
      exact map_map _ _ _
  | userTerm id field value =>
      cases under
      cases adds
      rw [Query.lookUp, map_map]
      exact map_map _ _ _

theorem addition_parts (addition : Addition) :
    (∃ field value generated, addition = .token field value generated) ∨
      ∃ parent node, addition.parent? = some parent ∧ addition.node? = some node := by
  cases addition with
  | token field value generated => exact .inl ⟨field, value, generated, rfl⟩
  | disjunctionMax parent occur generated => exact .inr ⟨_, _, rfl, rfl⟩
  | boolean parent occur generated => exact .inr ⟨_, _, rfl, rfl⟩
  | alternative parent generated => exact .inr ⟨_, _, rfl, rfl⟩
  | term parent field value generated => exact .inr ⟨_, _, rfl, rfl⟩
  | userTerm parent field value => exact .inr ⟨_, _, rfl, rfl⟩

theorem addition_ok_iff (query grown : Query) (addition : Addition) (parent given : Handle) (node : Clause)
    (under : addition.parent? = some parent) (adds : addition.node? = some node) :
    addition.run query = .ok (grown, given) ↔
      (∃ found, (query.attach parent.index node).lookUp parent = .ok found) ∧
        grown = query.attach parent.index node ∧ given = node.handle query.size := by
  rw [addition_run query addition parent node under adds]
  cases (query.attach parent.index node).lookUp parent with
  | error fault => simp
  | ok found => simp [eq_comm]

theorem addition_admits (addition : Addition) (parent : Handle) (node group : Clause)
    (under : addition.parent? = some parent) (adds : addition.node? = some node)
    (kind : group.handle parent.index = parent) :
    group.Admits node ∧ node.parent = some parent.index ∧ node.children = [] := by
  cases addition <;> cases under <;> cases adds <;> cases group <;> cases kind <;>
    exact ⟨by simp [Clause.Admits], rfl, rfl⟩

theorem attach_self (query : Query) (node : Clause) :
    (query.attach query.size node).clause? query.size = some (node.adopt query.size) := by
  have new : (query.push node).clause? query.size = some node := Array.getElem?_push_size
  rw [attach_read, if_pos rfl, new]
  rfl

theorem own_parent_no_tree (query : Query) (id : ClauseId) (node : Clause) (found : query.clause? id = some node)
    (notRoot : id ≠ 0) (own : node.parent = some id) : ¬ query.IsTree := by
  intro tree
  obtain ⟨parent, named, before, _⟩ := tree.held id node found notRoot
  rw [own] at named
  cases named
  exact Nat.lt_irrefl id before

theorem addition_finds_itself (query : Query) (addition : Addition) (parent : Handle) (node : Clause)
    (under : addition.parent? = some parent) (adds : addition.node? = some node)
    (itself : node.handle query.size = parent) : ∃ occur generated, addition = .boolean ⟨query.size⟩ occur generated := by
  cases addition with
  | boolean id occur generated =>
      cases under
      cases adds
      cases itself
      exact ⟨occur, generated, rfl⟩
  | disjunctionMax id occur generated =>
      cases under
      cases adds
      cases itself
  | alternative id generated =>
      cases under
      cases adds
      cases itself
  | term id field value generated =>
      cases under
      cases adds
      cases itself
  | userTerm id field value =>
      cases under
      cases adds
      cases itself
  | token field value generated => cases under

theorem addition_linked (query grown : Query) (linked : query.Linked) (addition : Addition) (given : Handle)
    (elsewhere : ∀ occur generated, addition ≠ .boolean ⟨query.size⟩ occur generated)
    (added : addition.run query = .ok (grown, given)) : grown.Linked := by
  rcases addition_parts addition with ⟨field, value, generated, same⟩ | ⟨parent, node, under, adds⟩
  · subst same
    cases added
    exact grows_linked _ _ linked (add_token_grows query linked field value generated)
  · obtain ⟨⟨found, read⟩, isAttached, _⟩ := (addition_ok_iff query grown addition parent given node under adds).mp added
    obtain ⟨there, kind⟩ := (look_up_iff _ parent found).mp read
    rw [isAttached]
    -- The parent stood there before, is the new node, or lies beyond it.
    rcases Nat.lt_trichotomy parent.index query.size with old | new | beyond
    · obtain ⟨group, present⟩ := clause_present query parent.index old
      rw [attach_parent query parent.index node group present] at there
      cases there
      have before := (bare_handle group (group.adopt query.size) _ (adopt_bare _ _).symm).trans kind
      obtain ⟨admits, up, childless⟩ := addition_admits addition parent node group under adds before
      exact attach_linked query parent.index node group linked present admits up childless
    · rw [new, attach_self] at there
      cases there
      rw [new] at kind
      have itself := (bare_handle node (node.adopt query.size) _ (adopt_bare _ _).symm).trans kind
      obtain ⟨occur, generated, same⟩ := addition_finds_itself query addition parent node under adds itself
      exact absurd same (elsewhere occur generated)
    · rw [clause_absent _ parent.index (by rw [attach_size]; exact beyond)] at there
      cases there

/-- Under whichever handle a node is added, the addition fails or leaves a tree, unless it adds a boolean group under
the position just past the end. -/
theorem foreign_additions_iff (query : Query) (reachable : query.Reachable) (addition : Addition) :
    (∀ grown given, addition.run query = .ok (grown, given) → grown.IsTree) ↔
      ∀ occur generated, addition ≠ .boolean ⟨query.size⟩ occur generated := by
  have linked := reachable_linked query reachable
  constructor
  · intro keeps occur generated same
    subst same
    let node : Clause := .boolean ⟨some query.size, occur, generated, []⟩
    have read := attach_self query node
    have found := (look_up_iff _ (.boolean ⟨query.size⟩) _).mpr ⟨read, rfl⟩
    have added := (addition_ok_iff query _ (.boolean ⟨query.size⟩ occur generated) (.boolean ⟨query.size⟩) _ node
      rfl rfl).mpr ⟨⟨_, found⟩, rfl, rfl⟩
    have notRoot : query.size ≠ 0 := Nat.ne_of_gt (linked_positive query linked)
    exact own_parent_no_tree _ query.size _ read notRoot rfl (keeps _ _ added)
  · intro elsewhere grown given added
    exact linked_is_tree grown (addition_linked query grown linked addition given elsewhere added)

theorem foreign_additions_iff_one_token : ∃ query : Query, query.Reachable ∧ query.size = 3 ∧
    (∃ grown given, (Addition.term ⟨1⟩ none "b" false).run query = .ok (grown, given) ∧ grown.IsTree) ∧
    ¬ ∀ grown given, (Addition.boolean ⟨3⟩ .must true).run query = .ok (grown, given) → grown.IsTree := by
  have reachable : Query.Reachable _ := ⟨_, .step _ _ (.new false)
    (.add (.token none "a" false) _ _ (by simp [Addition.parent?]) rfl)⟩
  have keeps := (foreign_additions_iff _ reachable (.term ⟨1⟩ none "b" false)).mpr (by simp)
  refine ⟨_, reachable, rfl, ⟨_, _, rfl, keeps _ _ rfl⟩, ?_⟩
  intro tree
  exact (foreign_additions_iff _ reachable (.boolean ⟨3⟩ .must true)).mp tree .must true rfl

theorem foreign_handle_corrupts :
    ∃ (session other : Session) (parent : BooleanId) (grown : Query) (given : Handle),
      session.Reached ∧ other.Reached ∧ .boolean parent ∈ other.held ∧
      (Addition.boolean parent .should false).run session.query = .ok (grown, given) ∧
      grown.clause? 1 = some (.boolean ⟨some 1, .should, false, [1]⟩) ∧ grown.clauses = [] ∧ ¬ grown.IsTree := by
  have issued := Session.Reached.step _ _ (.new false)
    (.add (.boolean Query.root .should false) _ _ (by simp [Addition.parent?]) rfl)
  exact ⟨_, _, ⟨1⟩, _, _, .new false, issued, List.mem_cons_self, rfl, rfl, rfl, own_parent_no_tree _ 1 _ rfl (by decide) rfl⟩

end QueryShingles
