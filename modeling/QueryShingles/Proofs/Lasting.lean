import Mathlib.Logic.Relation
import QueryShingles.Proofs.Handles

/-!
What a session leaves of its nodes and handles. A node stays where it is and what it is, its children
stay in front, and only nodes that are newer than the query get behind them. So a handle, once given
out, goes on standing for its node, and no addition gives it out again.
-/

set_option autoImplicit false

namespace QueryShingles

structure Clause.Lasts (size : Nat) (node kept : Clause) : Prop where
  bare : kept.bare = node.bare
  children : ∃ added, kept.children = node.children ++ added ∧ added.Pairwise (· < ·) ∧ ∀ child ∈ added, size ≤ child

theorem adopt_children_behind (child : ClauseId) (node : Clause) :
    ∃ added, (node.adopt child).children = node.children ++ added ∧ ∀ other ∈ added, other = child := by
  cases node with
  | boolean group => exact ⟨[child], rfl, by simp⟩
  | disjunctionMax group => exact ⟨[child], rfl, by simp⟩
  | term word => exact ⟨[], rfl, by simp⟩

theorem grows_children (query grown : Query) (grows : query.Grows grown) (id : ClauseId) (node kept : Clause)
    (found : query.clause? id = some node) (read : grown.clause? id = some kept) :
    ∃ added, kept.children = node.children ++ added ∧ ∀ child ∈ added, query.size ≤ child := by
  induction grows generalizing kept with
  | refl =>
      rw [found] at read
      cases read
      exact ⟨[], (List.append_nil _).symm, by simp⟩
  | attach grown parent new group grows present admits up childless ih =>
      have larger := grows_size query grown grows
      have bound := Nat.lt_of_lt_of_le (clause_bound query id node found) larger
      obtain ⟨old, before⟩ := clause_present grown id bound
      obtain ⟨added, children, newer⟩ := ih old before
      rw [attach_old grown parent id new bound, before] at read
      by_cases same : parent = id
      · rw [if_pos same] at read
        cases read
        obtain ⟨last, behind, isNew⟩ := adopt_children_behind grown.size old
        refine ⟨added ++ last, by rw [behind, children, List.append_assoc], ?_⟩
        intro child member
        rcases List.mem_append.mp member with earlier | now
        · exact newer child earlier
        · rw [isNew child now]
          exact larger
      · rw [if_neg same] at read
        cases read
        exact ⟨added, children, newer⟩

theorem grows_lasts (query grown : Query) (linked : query.Linked) (grows : query.Grows grown) (id : ClauseId)
    (node : Clause) (found : query.clause? id = some node) :
    ∃ kept, grown.clause? id = some kept ∧ node.Lasts query.size kept := by
  obtain ⟨kept, read, bare⟩ := grows_keeps query grown grows id node found
  obtain ⟨added, children, newer⟩ := grows_children query grown grows id node kept found read
  have ascending := (grows_linked query grown linked grows).ascending id
  rw [child_ids_found grown id kept read, children] at ascending
  exact ⟨kept, read, bare, added, children, (List.pairwise_append.mp ascending).2.1, newer⟩

theorem resolves_look_up (query : Query) (handle : Handle) (resolves : query.Resolves handle) :
    ∃ node, query.lookUp handle = .ok node := by
  cases handle with
  | boolean id =>
      obtain ⟨group, found⟩ := resolves
      exact ⟨_, (look_up_iff query _ _).mpr ⟨found, rfl⟩⟩
  | disjunctionMax id =>
      obtain ⟨group, found⟩ := resolves
      exact ⟨_, (look_up_iff query _ _).mpr ⟨found, rfl⟩⟩
  | term id =>
      obtain ⟨word, found⟩ := resolves
      exact ⟨_, (look_up_iff query _ _).mpr ⟨found, rfl⟩⟩

theorem resolves_bound (query : Query) (handle : Handle) (resolves : query.Resolves handle) :
    handle.index < query.size := by
  obtain ⟨node, found⟩ := resolves_look_up query handle resolves
  exact clause_bound query handle.index node ((look_up_iff query handle node).mp found).1

theorem grows_look_up (query grown : Query) (linked : query.Linked) (grows : query.Grows grown) (handle : Handle)
    (node : Clause) (found : query.lookUp handle = .ok node) :
    ∃ kept, grown.lookUp handle = .ok kept ∧ node.Lasts query.size kept := by
  obtain ⟨there, named⟩ := (look_up_iff query handle node).mp found
  obtain ⟨kept, read, lasts⟩ := grows_lasts query grown linked grows handle.index node there
  exact ⟨kept, (look_up_iff grown handle kept).mpr ⟨read, (bare_handle kept node _ lasts.bare).trans named⟩, lasts⟩

theorem node_handle_index (node : Clause) (id : ClauseId) : (node.handle id).index = id := by
  cases node <;> rfl

theorem addition_index (query grown : Query) (addition : Addition) (handle : Handle)
    (added : addition.run query = .ok (grown, handle)) : handle.index = query.size := by
  rcases addition_parts addition with ⟨field, value, generated, same⟩ | ⟨parent, node, under, adds⟩
  · subst same
    cases added
    rfl
  · rw [((addition_ok_iff query grown addition parent handle node under adds).mp added).2.2]
    exact node_handle_index node query.size

theorem step_grows (before after : Session) (sound : before.Sound) (step : before.Step after) :
    before.query.Grows after.query := by
  cases step with
  | look id node found => exact .refl
  | up id node handle found named => exact .refl
  | add addition grown handle owned added =>
      obtain ⟨other, given, went, grows, _⟩ := addition_grows before.query sound.linked addition
        (fun parent member => sound.resolves parent (owned parent member))
      rw [added] at went
      cases went
      exact grows
  | pass shingling => exact run_grows shingling before.query sound.linked

theorem step_held (before after : Session) (step : before.Step after) : ∀ handle ∈ before.held, handle ∈ after.held := by
  intro handle member
  cases step with
  | look id node found => exact List.mem_cons_of_mem _ member
  | up id node other found named => exact List.mem_cons_of_mem _ member
  | add addition grown other owned added => exact List.mem_cons_of_mem _ member
  | pass shingling => exact member

theorem later_sound (before after : Session) (sound : before.Sound)
    (later : Relation.ReflTransGen Session.Step before after) :
    after.Sound ∧ before.query.Grows after.query ∧ ∀ handle ∈ before.held, handle ∈ after.held := by
  induction later with
  | refl => exact ⟨sound, .refl, fun handle member => member⟩
  | tail _ step ih =>
      obtain ⟨middle, grows, held⟩ := ih
      exact ⟨step_sound _ _ middle step, grows_trans _ _ _ grows (step_grows _ _ middle step),
        fun handle member => step_held _ _ step handle (held handle member)⟩

/-- However a session goes on, its nodes last, the handles given out so far stand for the same nodes, and the next
addition gives out a position behind all of them. -/
theorem session_lasts (before after : Session) (reached : before.Reached)
    (later : Relation.ReflTransGen Session.Step before after) :
    (∀ id node, before.query.clause? id = some node →
      ∃ kept, after.query.clause? id = some kept ∧ node.Lasts before.query.size kept) ∧
    (∀ handle ∈ before.held, handle ∈ after.held ∧ ∃ node kept, before.query.lookUp handle = .ok node ∧
      after.query.lookUp handle = .ok kept ∧ node.Lasts before.query.size kept) ∧
    ∀ (addition : Addition) grown handle, addition.run after.query = .ok (grown, handle) →
      handle.index = after.query.size ∧ ∀ earlier ∈ after.held, earlier.index < handle.index := by
  have sound := reached_sound before reached
  obtain ⟨soundAfter, grows, held⟩ := later_sound before after sound later
  refine ⟨grows_lasts _ _ sound.linked grows, ?_, ?_⟩
  · intro handle member
    obtain ⟨node, found⟩ := resolves_look_up _ handle (sound.resolves handle member)
    obtain ⟨kept, read, lasts⟩ := grows_look_up _ _ sound.linked grows handle node found
    exact ⟨held handle member, node, kept, found, read, lasts⟩
  · intro addition grown handle added
    have here := addition_index after.query grown addition handle added
    refine ⟨here, ?_⟩
    intro earlier member
    rw [here]
    exact resolves_bound after.query earlier (soundAfter.resolves earlier member)

theorem session_lasts_two_tokens :
    let before : Session := ⟨((Query.new false).addToken none "a" false).1,
      [.term ⟨2⟩, .disjunctionMax ⟨1⟩, .boolean Query.root]⟩
    let middle : Session := ⟨(before.query.addToken none "b" false).1, .disjunctionMax ⟨3⟩ :: before.held⟩
    let after : Session := ⟨(Shingling.mk false).run middle.query, middle.held⟩
    before.Reached ∧ Relation.ReflTransGen Session.Step before after ∧
    (∃ kept, after.query.clause? 1 = some kept ∧
      (Clause.disjunctionMax ⟨⟨0⟩, .should, false, [2]⟩).Lasts 3 kept ∧ kept.children = [2, 5]) ∧
    (∃ kept, after.query.lookUp (.term ⟨2⟩) = .ok kept ∧ (Clause.term ⟨⟨1⟩, none, "a", false⟩).Lasts 3 kept) ∧
    ∀ grown handle, (Addition.token none "c" false).run after.query = .ok (grown, handle) → handle.index = 7 := by
  intro before middle after
  have first := Session.Reached.step _ _ (.new false)
    (.add (.token none "a" false) _ _ (by simp [Addition.parent?]) rfl)
  have reached : before.Reached := .step _ _ first (.look 2 (.term ⟨⟨1⟩, none, "a", false⟩) rfl)
  have token : before.Step middle := .add (.token none "b" false) _ _ (by simp [Addition.parent?]) rfl
  have later : Relation.ReflTransGen Session.Step before after := .tail (.single token) (.pass ⟨false⟩)
  obtain ⟨nodes, handles, next⟩ := session_lasts before after reached later
  obtain ⟨kept, read, lasts⟩ := nodes 1 (.disjunctionMax ⟨⟨0⟩, .should, false, [2]⟩) rfl
  obtain ⟨_, node, found, stood, stands, same⟩ := handles (.term ⟨2⟩) List.mem_cons_self
  have grown : after.query.clause? 1 = some (.disjunctionMax ⟨⟨0⟩, .should, false, [2, 5]⟩) := by decide +kernel
  have word : Clause.term ⟨⟨1⟩, none, "a", false⟩ = node := Except.ok.inj stood
  subst word
  refine ⟨reached, later, ⟨kept, read, lasts, ?_⟩, ⟨found, stands, same⟩, ?_⟩
  · rw [Option.some.inj (read.symm.trans grown)]
    rfl
  · intro grown handle added
    rw [(next _ grown handle added).1]
    decide +kernel

end QueryShingles
