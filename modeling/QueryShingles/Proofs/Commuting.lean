import Mathlib.Logic.Equiv.Basic
import QueryShingles.Proofs.Lasting
import QueryShingles.Proofs.Relocation

/-!
Two additions under different nodes, made in the one order or in the other. The two new nodes have changed places
in the array and so have their handles, and from then on nothing that is done to both queries tells them apart.
-/

set_option autoImplicit false

namespace QueryShingles

inductive Change where
  | add (addition : Addition)
  | pass (shingling : Shingling)
deriving DecidableEq, Repr

namespace Change

def run (query : Query) : Change → Except HandleFault Query
  | .add addition => (addition.run query).map Prod.fst
  | .pass shingling => .ok (shingling.run query)

def relocate (move : ClauseId → ClauseId) : Change → Change
  | .add addition => .add (addition.relocate move)
  | .pass shingling => .pass shingling

def Owned (query : Query) : Change → Prop
  | .add addition => ∀ parent ∈ addition.parent?, query.Resolves parent
  | .pass _ => True

end Change

def Query.follow (query : Query) (changes : List Change) : Except HandleFault Query :=
  changes.foldlM Change.run query

/-- Every change uses handles of the query that the changes before it have made. -/
def Query.Owns : Query → List Change → Prop
  | _, [] => True
  | query, change :: rest => change.Owned query ∧ ∀ grown, change.run query = .ok grown → grown.Owns rest

def Query.exchange (query : Query) : ClauseId → ClauseId := Equiv.swap query.size (query.size + 1)

theorem follow_first (query grown : Query) (change : Change) (rest : List Change)
    (made : change.run query = .ok grown) : query.follow (change :: rest) = grown.follow rest := by
  rw [Query.follow, List.foldlM_cons, made]
  rfl

theorem change_grows (query : Query) (linked : query.Linked) (change : Change) (owned : change.Owned query) :
    ∃ grown, change.run query = .ok grown ∧ query.Grows grown := by
  cases change with
  | add addition =>
      obtain ⟨grown, given, added, grows, _⟩ := addition_grows query linked addition owned
      exact ⟨grown, by rw [Change.run, added]; rfl, grows⟩
  | pass shingling => exact ⟨_, rfl, run_grows shingling query linked⟩

theorem follow_owned (query : Query) (linked : query.Linked) (changes : List Change) (owns : query.Owns changes) :
    ∃ grown, query.follow changes = .ok grown := by
  induction changes generalizing query with
  | nil => exact ⟨query, rfl⟩
  | cons change rest ih =>
      obtain ⟨grown, made, grows⟩ := change_grows query linked change owns.1
      rw [follow_first query grown change rest made]
      exact ih grown (grows_linked query grown linked grows) (owns.2 grown made)

theorem relocated_change (move : ClauseId → ClauseId) (query other : Query) (relocated : query.Relocated move other)
    (change : Change) :
    Relocates move (Query.Relocated move) (change.run query) ((change.relocate move).run other) := by
  cases change with
  | add addition =>
      have adds := relocated_addition move query other relocated addition
      exact relocates_map move _ _ _ _ _ _ adds fun added moved kept => kept.1
  | pass shingling => exact relocated_run move query other relocated shingling

theorem relocated_follow (move : ClauseId → ClauseId) (query other : Query) (relocated : query.Relocated move other)
    (changes : List Change) :
    Relocates move (Query.Relocated move) (query.follow changes)
      (other.follow (changes.map (Change.relocate move))) := by
  induction changes generalizing query other with
  | nil => exact relocated
  | cons change rest ih =>
      rw [List.map_cons, Query.follow, Query.follow, List.foldlM_cons, List.foldlM_cons]
      exact relocates_bind move _ _ _ _ _ _ (relocated_change move query other relocated change) ih

theorem exchange_other (query : Query) (id : ClauseId) (notFirst : id ≠ query.size) (notSecond : id ≠ query.size + 1) :
    query.exchange id = id :=
  Equiv.swap_apply_of_ne_of_ne notFirst notSecond

theorem exchange_old (query : Query) (id : ClauseId) (old : id < query.size) : query.exchange id = id :=
  exchange_other query id (Nat.ne_of_lt old) (Nat.ne_of_lt (Nat.lt_succ_of_lt old))

theorem exchange_first (query : Query) : query.exchange query.size = query.size + 1 := Equiv.swap_apply_left _ _

theorem exchange_second (query : Query) : query.exchange (query.size + 1) = query.size := Equiv.swap_apply_right _ _

theorem exchange_old_node (query : Query) (linked : query.Linked) (id : ClauseId) (node : Clause)
    (found : query.clause? id = some node) : node.renumber query.exchange = node := by
  apply renumber_fixed
  · intro parent named
    obtain ⟨group, read, _⟩ := linked_parent query linked id parent node found named
    exact exchange_old query parent (clause_bound query parent group read)
  · intro child listed
    rw [← child_ids_found query id node found] at listed
    exact exchange_old query child (linked_child query linked id child listed).2.1

theorem exchange_new_node (query : Query) (parent : ClauseId) (node : Clause) (inside : parent < query.size)
    (up : node.parent = some parent) (childless : node.children = []) : node.renumber query.exchange = node := by
  apply renumber_fixed
  · intro other named
    rw [up] at named
    cases named
    exact exchange_old query parent inside
  · intro child listed
    rw [childless] at listed
    cases listed

theorem attach_twice_read (query : Query) (left right id : ClauseId) (first second : Clause)
    (inside : left < query.size) (alsoInside : right < query.size) (apart : left ≠ right) :
    ((query.attach left first).attach right second).clause? id =
      if id = query.size + 1 then some second
      else if id = query.size then some first
      else if id = left then (query.clause? id).map (Clause.adopt query.size)
      else if id = right then (query.clause? id).map (Clause.adopt (query.size + 1))
      else query.clause? id := by
  rw [attach_read, push_read, attach_size, attach_read, push_read]
  by_cases isSecond : id = query.size + 1
  · have other : right ≠ id := by
      rw [isSecond]
      exact Nat.ne_of_lt (Nat.lt_succ_of_lt alsoInside)
    rw [if_neg other, if_pos isSecond, if_pos isSecond]
  · rw [if_neg isSecond, if_neg isSecond]
    by_cases isFirst : id = query.size
    · have notRight : right ≠ id := isFirst ▸ Nat.ne_of_lt alsoInside
      have notLeft : left ≠ id := isFirst ▸ Nat.ne_of_lt inside
      rw [if_neg notRight, if_neg notLeft, if_pos isFirst, if_pos isFirst]
    · rw [if_neg isFirst, if_neg isFirst]
      grind

theorem exchange_adopted (query : Query) (linked : query.Linked) (id child : ClauseId) :
    ((query.clause? id).map (Clause.adopt child)).map (Clause.renumber query.exchange) =
      (query.clause? id).map (Clause.adopt (query.exchange child)) := by
  cases found : query.clause? id with
  | none => rfl
  | some node =>
      rw [Option.map_some, Option.map_some, Option.map_some, renumber_adopt,
        exchange_old_node query linked id node found]

theorem attach_exchanged (query : Query) (linked : query.Linked) (left right : ClauseId) (first second : Clause)
    (inside : left < query.size) (alsoInside : right < query.size) (apart : left ≠ right)
    (fixed : first.renumber query.exchange = first) (alsoFixed : second.renumber query.exchange = second) :
    ((query.attach left first).attach right second).Relocated query.exchange
      ((query.attach right second).attach left first) where
  size := by simp only [attach_size]
  nodes := by
    intro id
    rw [attach_twice_read query left right id first second inside alsoInside apart,
      attach_twice_read query right left _ second first alsoInside inside apart.symm]
    have different : query.size ≠ query.size + 1 := Nat.ne_of_lt (Nat.lt_succ_self _)
    by_cases isSecond : id = query.size + 1
    · rw [isSecond, exchange_second, if_neg different, if_pos rfl, if_pos rfl, Option.map_some, alsoFixed]
    · by_cases isFirst : id = query.size
      · rw [isFirst, exchange_first, if_pos rfl, if_neg different, if_pos rfl, Option.map_some, fixed]
      · rw [exchange_other query id isFirst isSecond, if_neg isSecond, if_neg isFirst, if_neg isSecond, if_neg isFirst]
        by_cases isLeft : id = left
        · rw [if_neg (isLeft ▸ apart), if_pos isLeft, if_pos isLeft, exchange_adopted query linked, exchange_first]
        · by_cases isRight : id = right
          · rw [if_pos isRight, if_neg isLeft, if_pos isRight, exchange_adopted query linked, exchange_second]
          · rw [if_neg isRight, if_neg isLeft, if_neg isLeft, if_neg isRight]
            cases found : query.clause? id with
            | none => rfl
            | some node => rw [Option.map_some, exchange_old_node query linked id node found]
  root := exchange_old query 0 (linked_positive query linked)
  injective := Equiv.injective _
  fresh := by
    intro id beyond
    rw [attach_size, attach_size] at beyond
    exact exchange_other query id (Nat.ne_of_gt (Nat.lt_of_succ_lt beyond)) (Nat.ne_of_gt beyond)

theorem addition_node (addition : Addition) (parent : Handle) (under : addition.parent? = some parent) :
    ∃ node, addition.node? = some node := by
  rcases addition_parts addition with ⟨field, value, generated, same⟩ | ⟨other, node, named, adds⟩
  · subst same
    cases under
  · exact ⟨node, adds⟩

theorem addition_under (query : Query) (linked : query.Linked) (addition : Addition) (parent : Handle) (node : Clause)
    (under : addition.parent? = some parent) (adds : addition.node? = some node) (there : query.Resolves parent) :
    addition.run query = .ok (query.attach parent.index node, node.handle query.size) ∧
      query.Grows (query.attach parent.index node) := by
  have owned : ∀ other ∈ addition.parent?, query.Resolves other := by
    intro other named
    rw [under] at named
    cases named
    exact there
  obtain ⟨grown, given, added, grows, _⟩ := addition_grows query linked addition owned
  obtain ⟨_, isAttached, isGiven⟩ := (addition_ok_iff query grown addition parent given node under adds).mp added
  subst isAttached isGiven
  exact ⟨added, grows⟩

theorem addition_fixed (query : Query) (addition : Addition) (parent : Handle) (node : Clause)
    (under : addition.parent? = some parent) (adds : addition.node? = some node) (there : query.Resolves parent) :
    node.renumber query.exchange = node := by
  obtain ⟨group, found⟩ := resolves_look_up query parent there
  have kind := ((look_up_iff query parent group).mp found).2
  obtain ⟨_, up, childless⟩ := addition_admits addition parent node group under adds kind
  exact exchange_new_node query parent.index node (resolves_bound query parent there) up childless

theorem exchanged_handle (query : Query) (node : Clause) (id : ClauseId) (fixed : node.renumber query.exchange = node) :
    (node.handle id).relocate query.exchange = node.handle (query.exchange id) := by
  rw [← renumber_handle, fixed]

/-- Additions under two different nodes may change places. From then on whatever is done to the one query can be done
to the other under the exchanged handles, and both look the same and load the same. -/
theorem additions_commute (query : Query) (reachable : query.Reachable) (a b : Addition) (left right : Handle)
    (under : a.parent? = some left) (alsoUnder : b.parent? = some right) (there : query.Resolves left)
    (alsoThere : query.Resolves right) (apart : left.index ≠ right.index) :
    ∃ (first second forth back : Query) (x y : Handle),
      a.run query = .ok (first, x) ∧ b.run first = .ok (forth, y) ∧
      b.run query = .ok (second, y.relocate query.exchange) ∧ a.run second = .ok (back, x.relocate query.exchange) ∧
      ∀ changes : List Change,
        (forth.Owns changes → ∃ grown, forth.follow changes = .ok grown) ∧
        (∀ grown, forth.follow changes = .ok grown →
          ∃ other, back.follow (changes.map (Change.relocate query.exchange)) = .ok other ∧
            other.toDocument = grown.toDocument ∧ other.text = grown.text ∧
            other.toDocument.toQuery = grown.toDocument.toQuery) ∧
        ∀ fault, forth.follow changes = .error fault →
          back.follow (changes.map (Change.relocate query.exchange)) = .error (fault.relocate query.exchange) := by
  have linked := reachable_linked query reachable
  have inside := resolves_bound query left there
  have alsoInside := resolves_bound query right alsoThere
  obtain ⟨x, adds⟩ := addition_node a left under
  obtain ⟨y, alsoAdds⟩ := addition_node b right alsoUnder
  have fixed := addition_fixed query a left x under adds there
  have alsoFixed := addition_fixed query b right y alsoUnder alsoAdds alsoThere
  obtain ⟨attached, grows⟩ := addition_under query linked a left x under adds there
  obtain ⟨alsoAttached, alsoGrows⟩ := addition_under query linked b right y alsoUnder alsoAdds alsoThere
  -- The other parent is still there when the one node has been added.
  have firstLinked := grows_linked query _ linked grows
  have secondLinked := grows_linked query _ linked alsoGrows
  obtain ⟨forth, forthGrows⟩ := addition_under _ firstLinked b right y alsoUnder alsoAdds
    (grows_resolves _ _ grows right alsoThere)
  obtain ⟨back, _⟩ := addition_under _ secondLinked a left x under adds (grows_resolves _ _ alsoGrows left there)
  rw [attach_size] at forth back
  have relocated := attach_exchanged query linked left.index right.index x y inside alsoInside apart fixed alsoFixed
  refine ⟨_, query.attach right.index y, _, (query.attach right.index y).attach left.index x, x.handle query.size,
    y.handle (query.size + 1), attached, forth, ?_, ?_, ?_⟩
  · rw [exchanged_handle query y _ alsoFixed, exchange_second]
    exact alsoAttached
  · rw [exchanged_handle query x _ fixed, exchange_first]
    exact back
  · intro changes
    have follows := relocated_follow query.exchange _ _ relocated changes
    refine ⟨follow_owned _ (grows_linked _ _ firstLinked forthGrows) changes, ?_,
      fun fault => relocates_error _ _ _ _ fault follows⟩
    intro grown made
    obtain ⟨other, followed, kept⟩ := relocates_ok _ _ _ _ grown follows made
    have documents := relocated_document query.exchange grown other kept
    exact ⟨other, followed, documents, relocated_text query.exchange grown other kept,
      congrArg Document.toQuery documents⟩

theorem additions_commute_shingled : ∃ query forth back grown other : Query, query.Reachable ∧ forth ≠ back ∧
    forth.follow [.add (.term ⟨3⟩ none "c" false), .pass ⟨true⟩, .add (.alternative ⟨3⟩ true)] = .ok grown ∧
    back.follow [.add (.term ⟨4⟩ none "c" false), .pass ⟨true⟩, .add (.alternative ⟨4⟩ true)] = .ok other ∧
    other.toDocument = grown.toDocument ∧ other.text = "(\x7ba | b* | ac* | bc*\x7d +\x7bc | ac* | bc* | ()*\x7d)" := by
  have reached := Session.Reached.step _ _ (.new false)
    (.add (.token none "a" false) ((Query.new false).addToken none "a" false).1 _ (by simp [Addition.parent?]) rfl)
  obtain ⟨_, _, forth, back, _, _, isFirst, isForth, isSecond, isBack, whole⟩ :=
    additions_commute _ ⟨_, reached⟩ (.disjunctionMax ⟨0⟩ .must false) (.term ⟨1⟩ none "b" true) _ _ rfl rfl
      ⟨_, rfl⟩ ⟨_, rfl⟩ (by decide)
  cases isFirst
  have made : ∃ grown, forth.follow
      [.add (.term ⟨3⟩ none "c" false), .pass ⟨true⟩, .add (.alternative ⟨3⟩ true)] = .ok grown := by
    cases isForth
    exact ⟨_, rfl⟩
  obtain ⟨grown, made⟩ := made
  obtain ⟨other, followed, documents, texts, _⟩ := (whole _).2.1 grown made
  refine ⟨_, forth, back, grown, other, ⟨_, reached⟩, ?_, made, followed, documents, texts.trans ?_⟩
  · cases isForth
    cases isSecond
    cases isBack
    decide
  · cases isForth
    cases made
    decide

end QueryShingles
