import QueryShingles.Proofs.Handles
import QueryShingles.Proofs.Passes
import QueryShingles.Proofs.Renumbering

/-!
Two queries that are the same but for the positions of their nodes. They have one document, they look the same to
a pass, and what is added to one of them under a node can be added to the other under that node's new position.
-/

set_option autoImplicit false

namespace QueryShingles

/-- The second query has the nodes of the first, moved to other positions. The root stays, and so do the positions
that no node has yet. -/
structure Query.Relocated (move : ClauseId → ClauseId) (query other : Query) : Prop where
  size : other.size = query.size
  nodes : ∀ id, other.clause? (move id) = (query.clause? id).map (Clause.renumber move)
  root : move 0 = 0
  injective : Function.Injective move
  fresh : ∀ id, query.size ≤ id → move id = id

def DisjunctionMaxId.relocate (move : ClauseId → ClauseId) (id : DisjunctionMaxId) : DisjunctionMaxId :=
  ⟨move id.index⟩

def Term.relocate (move : ClauseId → ClauseId) (word : Term) : Term := { word with parent := word.parent.relocate move }

def Shingle.relocate (move : ClauseId → ClauseId) (shingle : Shingle) : Shingle :=
  { shingle with left := shingle.left.relocate move, right := shingle.right.relocate move }

def Handle.relocate (move : ClauseId → ClauseId) : Handle → Handle
  | .boolean id => .boolean ⟨move id.index⟩
  | .disjunctionMax id => .disjunctionMax (id.relocate move)
  | .term id => .term ⟨move id.index⟩

def HandleFault.relocate (move : ClauseId → ClauseId) : HandleFault → HandleFault
  | .outOfBounds size index => .outOfBounds size (move index)
  | .notBoolean index => .notBoolean (move index)
  | .notDisjunctionMax index => .notDisjunctionMax (move index)
  | .notTerm index => .notTerm (move index)

def Addition.relocate (move : ClauseId → ClauseId) : Addition → Addition
  | .disjunctionMax parent occur generated => .disjunctionMax ⟨move parent.index⟩ occur generated
  | .boolean parent occur generated => .boolean ⟨move parent.index⟩ occur generated
  | .alternative parent generated => .alternative (parent.relocate move) generated
  | .term parent field value generated => .term (parent.relocate move) field value generated
  | .userTerm parent field value => .userTerm (parent.relocate move) field value
  | .token field value generated => .token field value generated

def Relocates {α β : Type} (move : ClauseId → ClauseId) (related : α → β → Prop) :
    Except HandleFault α → Except HandleFault β → Prop
  | .ok a, .ok b => related a b
  | .error fault, .error other => other = fault.relocate move
  | _, _ => False

section

variable {α β γ δ : Type} (move : ClauseId → ClauseId) (related : α → β → Prop) (relatedNext : γ → δ → Prop)

theorem relocates_bind (result : Except HandleFault α) (other : Except HandleFault β) (f : α → Except HandleFault γ)
    (g : β → Except HandleFault δ) (relocates : Relocates move related result other)
    (next : ∀ a b, related a b → Relocates move relatedNext (f a) (g b)) :
    Relocates move relatedNext (result >>= f) (other >>= g) := by
  cases result with
  | error fault =>
      cases other with
      | error moved => exact relocates
      | ok b => exact relocates.elim
  | ok a =>
      cases other with
      | error moved => exact relocates.elim
      | ok b => exact next a b relocates

theorem relocates_map (result : Except HandleFault α) (other : Except HandleFault β) (f : α → γ) (g : β → δ)
    (relocates : Relocates move related result other) (next : ∀ a b, related a b → relatedNext (f a) (g b)) :
    Relocates move relatedNext (result.map f) (other.map g) :=
  relocates_bind move related relatedNext result other (fun a => .ok (f a)) (fun b => .ok (g b)) relocates next

theorem relocates_ok (result : Except HandleFault α) (other : Except HandleFault β) (a : α)
    (relocates : Relocates move related result other) (found : result = .ok a) : ∃ b, other = .ok b ∧ related a b := by
  subst found
  cases other with
  | error moved => exact relocates.elim
  | ok b => exact ⟨b, rfl, relocates⟩

theorem relocates_error (result : Except HandleFault α) (other : Except HandleFault β) (fault : HandleFault)
    (relocates : Relocates move related result other) (failed : result = .error fault) :
    other = .error (fault.relocate move) := by
  subst failed
  cases other with
  | error moved => exact congrArg Except.error relocates
  | ok b => exact relocates.elim

end

theorem push_size (query : Query) (node : Clause) : (query.push node).size = query.size + 1 := by
  simp [Query.push, Query.size]

theorem push_read (query : Query) (node : Clause) (id : ClauseId) :
    (query.push node).clause? id = if id = query.size then some node else query.clause? id :=
  Array.getElem?_push

theorem adopt_size (query : Query) (parent child : ClauseId) : (query.adopt parent child).size = query.size := by
  simp [Query.adopt, Query.size]

theorem adopt_read (query : Query) (parent child id : ClauseId) :
    (query.adopt parent child).clause? id =
      if parent = id then (query.clause? id).map (Clause.adopt child) else query.clause? id :=
  Array.getElem?_modify

theorem renumber_adopt (move : ClauseId → ClauseId) (child : ClauseId) (node : Clause) :
    (node.adopt child).renumber move = (node.renumber move).adopt (move child) := by
  cases node <;> simp [Clause.adopt, Clause.renumber]

theorem renumber_handle (move : ClauseId → ClauseId) (id : ClauseId) (node : Clause) :
    (node.renumber move).handle (move id) = (node.handle id).relocate move := by
  cases node <;> rfl

theorem relocate_index (move : ClauseId → ClauseId) (handle : Handle) :
    (handle.relocate move).index = move handle.index := by
  cases handle <;> rfl

theorem relocate_parent (move : ClauseId → ClauseId) (addition : Addition) :
    (addition.relocate move).parent? = addition.parent?.map (Handle.relocate move) := by
  cases addition <;> rfl

theorem relocate_node (move : ClauseId → ClauseId) (addition : Addition) :
    (addition.relocate move).node? = addition.node?.map (Clause.renumber move) := by
  cases addition <;> rfl

section

variable (move : ClauseId → ClauseId) (query other : Query) (relocated : query.Relocated move other)

include relocated

theorem relocated_child_ids (id : ClauseId) : other.childIds (move id) = (query.childIds id).map move := by
  rw [Query.childIds, Query.childIds, relocated.nodes]
  cases query.clause? id with
  | none => rfl
  | some node => exact renumber_children move node

theorem relocated_clauses : other.clauses = query.clauses.map move := by
  have listed := relocated_child_ids move query other relocated 0
  rw [relocated.root] at listed
  exact listed

theorem relocated_term (id : ClauseId) : other.term? (move id) = (query.term? id).map (Term.relocate move) := by
  rw [Query.term?, Query.term?, relocated.nodes]
  cases query.clause? id with
  | none => rfl
  | some node => cases node <;> rfl

theorem relocated_place (id : ClauseId) :
    other.place? (move id) = (query.place? id).map (DisjunctionMaxId.relocate move) := by
  rw [Query.place?, Query.place?, Query.disjunctionMax?, Query.disjunctionMax?, relocated.nodes]
  cases query.clause? id with
  | none => rfl
  | some node => cases node <;> rfl

theorem relocated_look_up (handle : Handle) :
    other.lookUp (handle.relocate move) =
      ((query.lookUp handle).map (Clause.renumber move)).mapError (HandleFault.relocate move) := by
  cases handle with
  | boolean id =>
      have node := relocated.nodes id.index
      cases found : query.clause? id.index with
      | none =>
          rw [found] at node
          simp [Query.lookUp, Query.boolean, Handle.relocate, HandleFault.relocate, found, node, relocated.size]
      | some group =>
          rw [found] at node
          cases group <;>
            simp [Query.lookUp, Query.boolean, Handle.relocate, HandleFault.relocate, Clause.renumber, found, node]
  | disjunctionMax id =>
      have node := relocated.nodes id.index
      cases found : query.clause? id.index with
      | none =>
          rw [found] at node
          simp [Query.lookUp, Query.disjunctionMax, Handle.relocate, DisjunctionMaxId.relocate, HandleFault.relocate,
            found, node, relocated.size]
      | some group =>
          rw [found] at node
          cases group <;>
            simp [Query.lookUp, Query.disjunctionMax, Handle.relocate, DisjunctionMaxId.relocate, HandleFault.relocate,
              Clause.renumber, found, node]
  | term id =>
      have node := relocated.nodes id.index
      cases found : query.clause? id.index with
      | none =>
          rw [found] at node
          simp [Query.lookUp, Query.term, Handle.relocate, HandleFault.relocate, found, node, relocated.size]
      | some group =>
          rw [found] at node
          cases group <;>
            simp [Query.lookUp, Query.term, Handle.relocate, HandleFault.relocate, Clause.renumber, found, node]

theorem relocated_subtree (depth : Nat) (id : ClauseId) :
    other.subtree depth (move id) = query.subtree depth id := by
  induction depth generalizing id with
  | zero => rfl
  | succ depth ih =>
      rw [subtree_step, subtree_step, relocated.nodes]
      cases query.clause? id with
      | none => rfl
      | some node =>
          have children : (node.renumber move).children.filterMap (other.subtree depth) =
              node.children.filterMap (query.subtree depth) := by
            rw [renumber_children, List.filterMap_map]
            exact List.filterMap_congr fun child _ => ih child
          rw [Option.map_some, Option.map_some, children]
          cases node <;> rfl

theorem relocated_document : other.toDocument = query.toDocument := by
  have flag : other.generated = query.generated := by
    have atRoot := relocated.nodes 0
    rw [relocated.root] at atRoot
    rw [Query.generated, Query.generated, Query.root, atRoot]
    cases query.clause? 0 with
    | none => rfl
    | some node => cases node <;> rfl
  have below : other.clauses.filterMap (other.subtree other.size) =
      query.clauses.filterMap (query.subtree query.size) := by
    rw [relocated_clauses move query other relocated, List.filterMap_map, relocated.size]
    exact List.filterMap_congr fun id _ => relocated_subtree move query other relocated query.size id
  rw [Query.toDocument, Query.toDocument, flag, below]

theorem relocated_text : other.text = query.text := by
  have whole := relocated_subtree move query other relocated (query.size + 1) 0
  rw [relocated.root] at whole
  rw [Query.text, Query.text, format_subtree, format_subtree, relocated.size, Query.root, whole]

theorem relocated_terms (place : DisjunctionMaxId) :
    other.termsOf (place.relocate move) = (query.termsOf place).map (Term.relocate move) := by
  rw [Query.termsOf, Query.termsOf, DisjunctionMaxId.relocate, relocated_child_ids move query other relocated,
    List.filterMap_map, List.map_filterMap]
  exact List.filterMap_congr fun id _ => relocated_term move query other relocated id

theorem relocated_sources (shingling : Shingling) (place : DisjunctionMaxId) :
    shingling.sources other (place.relocate move) = (shingling.sources query place).map (Term.relocate move) := by
  rw [Shingling.sources, Shingling.sources, relocated_terms move query other relocated, List.filter_map]
  rfl

theorem relocated_shingles_of (shingling : Shingling) (left right : DisjunctionMaxId) :
    shingling.shinglesOf other (left.relocate move) (right.relocate move) =
      (shingling.shinglesOf query left right).map (Shingle.relocate move) := by
  rw [Shingling.shinglesOf, Shingling.shinglesOf, relocated_sources move query other relocated,
    relocated_sources move query other relocated, List.flatMap_map, List.map_flatMap]
  refine List.flatMap_congr ?_
  intro l _
  rw [List.filter_map, List.map_map, List.map_map]
  rfl

theorem relocated_places :
    Shingling.places other = (Shingling.places query).map (Option.map (DisjunctionMaxId.relocate move)) := by
  have each : (query.clauses.map move).map other.place? =
      (query.clauses.map query.place?).map (Option.map (DisjunctionMaxId.relocate move)) := by
    rw [List.map_map, List.map_map]
    exact List.map_congr_left fun id _ => relocated_place move query other relocated id
  rw [← relocated_clauses move query other relocated] at each
  exact each

theorem relocated_shingles (shingling : Shingling) :
    shingling.shingles other = (shingling.shingles query).map (Shingle.relocate move) := by
  rw [Shingling.shingles, Shingling.shingles, relocated_places move query other relocated, ← List.map_tail,
    List.zip_map, List.flatMap_map, List.map_flatMap]
  refine List.flatMap_congr ?_
  rintro ⟨left, right⟩ _
  cases left with
  | none => rfl
  | some left =>
      cases right with
      | none => rfl
      | some right => exact relocated_shingles_of move query other relocated shingling left right

theorem relocated_push (node : Clause) : (query.push node).Relocated move (other.push (node.renumber move)) where
  size := by simp only [push_size, relocated.size]
  nodes := by
    intro id
    rw [push_read, push_read, relocated.size]
    by_cases new : id = query.size
    · rw [if_pos new, new, relocated.fresh query.size (Nat.le_refl _), if_pos rfl]
      rfl
    · have old : move id ≠ query.size := by
        intro same
        rw [← relocated.fresh query.size (Nat.le_refl _)] at same
        exact new (relocated.injective same)
      rw [if_neg new, if_neg old, relocated.nodes]
  root := relocated.root
  injective := relocated.injective
  fresh := by
    intro id beyond
    rw [push_size] at beyond
    exact relocated.fresh id (Nat.le_of_succ_le beyond)

theorem relocated_adopt (parent child : ClauseId) :
    (query.adopt parent child).Relocated move (other.adopt (move parent) (move child)) where
  size := by simp only [adopt_size, relocated.size]
  nodes := by
    intro id
    rw [adopt_read, adopt_read, relocated.nodes]
    by_cases same : parent = id
    · rw [if_pos same, if_pos (congrArg move same), Option.map_map, Option.map_map]
      exact congrArg (Option.map · _) (funext fun node => (renumber_adopt move child node).symm)
    · rw [if_neg same, if_neg fun moved => same (relocated.injective moved)]
  root := relocated.root
  injective := relocated.injective
  fresh := by
    intro id beyond
    rw [adopt_size] at beyond
    exact relocated.fresh id beyond

theorem relocated_attach (parent : ClauseId) (node : Clause) :
    (query.attach parent node).Relocated move (other.attach (move parent) (node.renumber move)) := by
  have pushed := relocated_push move query other relocated node
  have adopted := relocated_adopt move _ _ pushed parent query.size
  rw [relocated.fresh query.size (Nat.le_refl _)] at adopted
  rw [Query.attach, Query.attach, relocated.size]
  exact adopted

theorem relocated_attach_term (parent : DisjunctionMaxId) (field : Option String) (value : String) (generated : Bool) :
    (query.attachTerm parent field value generated).1.Relocated move
      (other.attachTerm (parent.relocate move) field value generated).1 :=
  relocated_attach move query other relocated parent.index (.term ⟨parent, field, value, generated⟩)

theorem relocated_add_shingle (shingle : Shingle) :
    (Shingling.addShingle query shingle).Relocated move (Shingling.addShingle other (shingle.relocate move)) :=
  relocated_attach_term move _ _
    (relocated_attach_term move query other relocated shingle.left shingle.field shingle.value true)
    shingle.right shingle.field shingle.value true

theorem relocated_add_shingles (shingles : List Shingle) :
    (shingles.foldl Shingling.addShingle query).Relocated move
      ((shingles.map (Shingle.relocate move)).foldl Shingling.addShingle other) := by
  induction shingles generalizing query other with
  | nil => exact relocated
  | cons shingle rest ih => exact ih _ _ (relocated_add_shingle move query other relocated shingle)

theorem relocated_run (shingling : Shingling) : (shingling.run query).Relocated move (shingling.run other) := by
  rw [run_all, run_all, relocated_shingles move query other relocated]
  exact relocated_add_shingles move query other relocated _

theorem relocated_token (field : Option String) (value : String) (generated : Bool) :
    (query.addToken field value generated).1.Relocated move (other.addToken field value generated).1 ∧
      (other.addToken field value generated).2 = (query.addToken field value generated).2.relocate move := by
  have given : DisjunctionMaxId.mk other.size = (DisjunctionMaxId.mk query.size).relocate move := by
    rw [DisjunctionMaxId.relocate, relocated.fresh query.size (Nat.le_refl _), relocated.size]
  have place : (query.attachDisjunctionMax Query.root .should generated).1.Relocated move
      (other.attachDisjunctionMax Query.root .should generated).1 := by
    have attached := relocated_attach move query other relocated 0 (.disjunctionMax ⟨⟨0⟩, .should, generated, []⟩)
    simp only [Clause.renumber, relocated.root] at attached
    exact attached
  refine ⟨?_, given⟩
  have words := relocated_attach_term move _ _ place ⟨query.size⟩ field value generated
  rw [← given] at words
  exact words

theorem relocated_addition (addition : Addition) :
    Relocates move (fun added moved => added.1.Relocated move moved.1 ∧ moved.2 = added.2.relocate move)
      (addition.run query) ((addition.relocate move).run other) := by
  rcases addition_parts addition with ⟨field, value, generated, same⟩ | ⟨parent, node, under, adds⟩
  · subst same
    obtain ⟨words, place⟩ := relocated_token move query other relocated field value generated
    exact ⟨words, congrArg Handle.disjunctionMax place⟩
  · have attached := relocated_attach move query other relocated parent.index node
    have found := relocated_look_up move _ _ attached parent
    have given : (node.renumber move).handle other.size = (node.handle query.size).relocate move := by
      rw [← renumber_handle, relocated.fresh query.size (Nat.le_refl _), relocated.size]
    have movedParent := relocate_parent move addition
    have movedNode := relocate_node move addition
    rw [under] at movedParent
    rw [adds] at movedNode
    rw [addition_run query addition parent node under adds,
      addition_run other (addition.relocate move) _ _ movedParent movedNode, relocate_index, found]
    cases (query.attach parent.index node).lookUp parent with
    | error fault => rfl
    | ok group => exact ⟨attached, given⟩

end

end QueryShingles
