import QueryShingles.Proofs.Guarded
import QueryShingles.Proofs.Tree

/-!
A session with one query: the query as it is, and the handles that it has given out so far. A
session begins with a new query or a loaded one and goes on with additions under handles held,
passes of the shingles, and looks at nodes, which give out more handles. The query of a session is
a tree at all times, and nothing that a session can do meets a node of the wrong kind.
-/

set_option autoImplicit false

namespace QueryShingles

inductive Handle where
  | boolean (id : BooleanId)
  | disjunctionMax (id : DisjunctionMaxId)
  | term (id : TermId)
deriving DecidableEq, Repr

def Clause.handle (id : ClauseId) : Clause → Handle
  | .boolean _ => .boolean ⟨id⟩
  | .disjunctionMax _ => .disjunctionMax ⟨id⟩
  | .term _ => .term ⟨id⟩

def Clause.parentHandle? : Clause → Option Handle
  | .boolean _ => none
  | .disjunctionMax query => some (.boolean query.parent)
  | .term word => some (.disjunctionMax word.parent)

inductive Addition where
  | disjunctionMax (parent : BooleanId) (occur : Occur) (generated : Bool)
  | boolean (parent : BooleanId) (occur : Occur) (generated : Bool)
  | alternative (parent : DisjunctionMaxId) (generated : Bool)
  | term (parent : DisjunctionMaxId) (field : Option String) (value : String) (generated : Bool)
  | userTerm (parent : DisjunctionMaxId) (field : Option String) (value : String)
  | token (field : Option String) (value : String) (generated : Bool)
deriving DecidableEq, Repr

namespace Addition

def parent? : Addition → Option Handle
  | .disjunctionMax parent _ _ => some (.boolean parent)
  | .boolean parent _ _ => some (.boolean parent)
  | .alternative parent _ => some (.disjunctionMax parent)
  | .term parent _ _ _ => some (.disjunctionMax parent)
  | .userTerm parent _ _ => some (.disjunctionMax parent)
  | .token _ _ _ => none

def run (query : Query) : Addition → Except HandleFault (Query × Handle)
  | .disjunctionMax parent occur generated =>
      (query.addDisjunctionMax parent occur generated).map fun added => (added.1, .disjunctionMax added.2)
  | .boolean parent occur generated =>
      (query.addBoolean parent occur generated).map fun added => (added.1, .boolean added.2)
  | .alternative parent generated =>
      (query.addAlternative parent generated).map fun added => (added.1, .boolean added.2)
  | .term parent field value generated =>
      (query.addTerm parent field value generated).map fun added => (added.1, .term added.2)
  | .userTerm parent field value =>
      (query.addUserTerm parent field value).map fun added => (added.1, .term added.2)
  | .token field value generated =>
      let added := query.addToken field value generated
      .ok (added.1, .disjunctionMax added.2)

end Addition

structure Session where
  query : Query
  held : List Handle

inductive Session.Step (session : Session) : Session → Prop where
  | look (id : ClauseId) (node : Clause) (found : session.query.clause? id = some node) :
      Step session ⟨session.query, node.handle id :: session.held⟩
  | up (id : ClauseId) (node : Clause) (handle : Handle) (found : session.query.clause? id = some node)
      (named : node.parentHandle? = some handle) : Step session ⟨session.query, handle :: session.held⟩
  | add (addition : Addition) (grown : Query) (handle : Handle)
      (owned : ∀ parent ∈ addition.parent?, parent ∈ session.held)
      (added : addition.run session.query = .ok (grown, handle)) : Step session ⟨grown, handle :: session.held⟩
  | pass (shingling : Shingling) : Step session ⟨shingling.run session.query, session.held⟩

inductive Session.Reached : Session → Prop where
  | new (generated : Bool) : Reached ⟨.new generated, [.boolean Query.root]⟩
  | load (document : Document) (query : Query) (accepted : document.toQuery = .ok query) :
      Reached ⟨query, [.boolean Query.root]⟩
  | step (before after : Session) (reached : Reached before) (step : before.Step after) : Reached after

def Query.Reachable (query : Query) : Prop := ∃ held, Session.Reached ⟨query, held⟩

def Query.Resolves (query : Query) : Handle → Prop
  | .boolean id => query.BooleanAt id.index
  | .disjunctionMax id => query.DisjunctionMaxAt id.index
  | .term id => query.TermAt id.index

theorem grows_resolves (query grown : Query) (grows : query.Grows grown) (handle : Handle)
    (resolves : query.Resolves handle) : grown.Resolves handle := by
  cases handle with
  | boolean id => exact grows_boolean query grown grows id.index resolves
  | disjunctionMax id => exact grows_disjunction_max query grown grows id.index resolves
  | term id =>
      obtain ⟨word, found⟩ := resolves
      obtain ⟨kept, read, same⟩ := grows_keeps query grown grows id.index _ found
      cases kept with
      | boolean kept => simp [Clause.bare] at same
      | disjunctionMax kept => simp [Clause.bare] at same
      | term kept => exact ⟨kept, read⟩

theorem handle_resolves (query : Query) (id : ClauseId) (node : Clause) (found : query.clause? id = some node) :
    query.Resolves (node.handle id) := by
  cases node with
  | boolean group => exact ⟨group, found⟩
  | disjunctionMax group => exact ⟨group, found⟩
  | term word => exact ⟨word, found⟩

theorem parent_handle_resolves (query : Query) (linked : query.Linked) (id : ClauseId) (node : Clause)
    (handle : Handle) (found : query.clause? id = some node) (named : node.parentHandle? = some handle) :
    query.Resolves handle := by
  have tree := linked_is_tree query linked
  cases node with
  | boolean group => simp [Clause.parentHandle?] at named
  | disjunctionMax group =>
      cases named
      exact tree.disjunctionMaxParent id group found
  | term word =>
      cases named
      exact tree.termParent id word found

theorem attach_term_there (query : Query) (parent : DisjunctionMaxId) (field : Option String) (value : String)
    (generated : Bool) (there : query.DisjunctionMaxAt parent.index) :
    (query.attachTerm parent field value generated).1.TermAt query.size := by
  obtain ⟨group, found⟩ := there
  exact ⟨_, attach_new query parent.index _ (clause_bound query parent.index _ found)⟩

theorem add_token_there (query : Query) (linked : query.Linked) (field : Option String) (value : String)
    (generated : Bool) : (query.addToken field value generated).1.DisjunctionMaxAt query.size := by
  have place := attach_disjunction_max_there query Query.root .should generated (root_boolean query linked)
  exact grows_disjunction_max _ _ (attach_term_grows _ ⟨query.size⟩ field value generated place) _ place

theorem addition_grows (query : Query) (linked : query.Linked) (addition : Addition)
    (there : ∀ parent ∈ addition.parent?, query.Resolves parent) :
    ∃ grown handle, addition.run query = .ok (grown, handle) ∧ query.Grows grown ∧ grown.Resolves handle := by
  cases addition with
  | disjunctionMax parent occur generated =>
      have atParent : query.BooleanAt parent.index := there _ rfl
      refine ⟨_, .disjunctionMax ⟨query.size⟩, ?_, attach_disjunction_max_grows query parent occur generated atParent,
        attach_disjunction_max_there query parent occur generated atParent⟩
      rw [Addition.run, add_disjunction_max_ok query parent occur generated atParent]
      rfl
  | boolean parent occur generated =>
      have atParent : query.BooleanAt parent.index := there _ rfl
      refine ⟨_, .boolean ⟨query.size⟩, ?_, attach_boolean_grows query parent occur generated atParent,
        attach_boolean_there query parent occur generated atParent⟩
      rw [Addition.run, add_boolean_ok query parent occur generated atParent]
      rfl
  | alternative parent generated =>
      have atParent : query.DisjunctionMaxAt parent.index := there _ rfl
      refine ⟨_, .boolean ⟨query.size⟩, ?_, attach_alternative_grows query parent generated atParent,
        attach_alternative_there query parent generated atParent⟩
      rw [Addition.run, add_alternative_ok query parent generated atParent]
      rfl
  | term parent field value generated =>
      have atParent : query.DisjunctionMaxAt parent.index := there _ rfl
      refine ⟨_, .term ⟨query.size⟩, ?_, attach_term_grows query parent field value generated atParent,
        attach_term_there query parent field value generated atParent⟩
      rw [Addition.run, add_term_ok query parent field value generated atParent]
      rfl
  | userTerm parent field value =>
      have atParent : query.DisjunctionMaxAt parent.index := there _ rfl
      refine ⟨_, .term ⟨query.size⟩, ?_, attach_term_grows query parent field value false atParent,
        attach_term_there query parent field value false atParent⟩
      rw [Addition.run, Query.addUserTerm, add_term_ok query parent field value false atParent]
      rfl
  | token field value generated =>
      exact ⟨_, .disjunctionMax ⟨query.size⟩, rfl, add_token_grows query linked field value generated,
        add_token_there query linked field value generated⟩

structure Session.Sound (session : Session) : Prop where
  linked : session.query.Linked
  resolves : ∀ handle ∈ session.held, session.query.Resolves handle

theorem sound_root (query : Query) (linked : query.Linked) : Session.Sound ⟨query, [.boolean Query.root]⟩ where
  linked := linked
  resolves := by
    intro handle member
    rw [List.mem_singleton.mp member]
    exact root_boolean query linked

theorem step_sound (before after : Session) (sound : before.Sound) (step : before.Step after) : after.Sound := by
  cases step with
  | look id node found =>
      exact ⟨sound.linked, List.forall_mem_cons.mpr ⟨handle_resolves _ id node found, sound.resolves⟩⟩
  | up id node handle found named =>
      exact ⟨sound.linked, List.forall_mem_cons.mpr
        ⟨parent_handle_resolves _ sound.linked id node handle found named, sound.resolves⟩⟩
  | add addition grown handle owned added =>
      obtain ⟨other, given, went, grows, resolves⟩ := addition_grows before.query sound.linked addition
        (fun parent member => sound.resolves parent (owned parent member))
      rw [added] at went
      cases went
      exact ⟨grows_linked _ _ sound.linked grows, List.forall_mem_cons.mpr
        ⟨resolves, fun old member => grows_resolves _ _ grows old (sound.resolves old member)⟩⟩
  | pass shingling =>
      have grows := run_grows shingling before.query sound.linked
      exact ⟨grows_linked _ _ sound.linked grows,
        fun old member => grows_resolves _ _ grows old (sound.resolves old member)⟩

theorem reached_sound (session : Session) (reached : session.Reached) : session.Sound := by
  induction reached with
  | new generated => exact sound_root _ (new_linked generated)
  | load document query accepted => exact sound_root query (loaded_linked document query accepted)
  | step before after _ step ih => exact step_sound before after ih step

theorem reachable_linked (query : Query) (reachable : query.Reachable) : query.Linked := by
  obtain ⟨held, reached⟩ := reachable
  exact (reached_sound _ reached).linked

/-- The query of a session is a tree. No addition under a handle held meets a node of another kind than it looks for,
nor does a token, a pass, or the loading of a document. -/
theorem reached_is_tree (session : Session) (reached : session.Reached) :
    session.query.IsTree ∧
    (∀ addition : Addition, (∀ parent ∈ addition.parent?, parent ∈ session.held) →
      ∃ grown handle, addition.run session.query = .ok (grown, handle)) ∧
    (∀ field value generated, session.query.addTokenGuarded field value generated =
      .ok (session.query.addToken field value generated)) ∧
    (∀ shingling : Shingling, shingling.runGuarded session.query = .ok (shingling.run session.query)) ∧
    (∀ document : Document, document.toQueryGuarded = document.toQuery.mapError .structure) := by
  have sound := reached_sound session reached
  refine ⟨linked_is_tree session.query sound.linked, ?_, add_token_ok session.query sound.linked,
    fun shingling => run_guarded shingling session.query sound.linked, to_query_guarded⟩
  intro addition owned
  obtain ⟨grown, handle, went, _, _⟩ := addition_grows session.query sound.linked addition
    (fun parent member => sound.resolves parent (owned parent member))
  exact ⟨grown, handle, went⟩

theorem reached_is_tree_two_tokens :
    ∃ session : Session, session.Reached ∧ session.query.size = 7 ∧ session.query.IsTree ∧
      ∃ grown handle, (Addition.term ⟨3⟩ none "c" true).run session.query = .ok (grown, handle) := by
  have first := Session.Reached.step _ _ (.new false)
    (.add (.token none "a" false) _ _ (by simp [Addition.parent?]) rfl)
  have second := Session.Reached.step _ _ first
    (.add (.token none "b" false) _ _ (by simp [Addition.parent?]) rfl)
  have third := Session.Reached.step _ _ second (.pass ⟨false⟩)
  have tree := reached_is_tree _ third
  exact ⟨_, third, rfl, tree.1, tree.2.1 (.term ⟨3⟩ none "c" true) (by simp [Addition.parent?]; decide)⟩

end QueryShingles
