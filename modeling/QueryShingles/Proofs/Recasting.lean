import Mathlib.Logic.Equiv.Basic
import QueryShingles.Proofs.Numbering
import QueryShingles.Proofs.UserShingles

/-!
What a pass looks at. Fields are compared and values are put together, and that is all that is done with
them, so a pass over a query with other fields and values gives what the pass over the query itself gives,
with these fields and values. Of a document it reads the terms of the places and nothing else.
-/

set_option autoImplicit false

namespace QueryShingles

structure Recasting where
  field : Option String → Option String
  value : String → String
  occur : ClauseId → Occur
  generated : ClauseId → Bool

/-- Different fields stay different, and values can be put together before or after. -/
structure Recasting.Faithful (recasting : Recasting) : Prop where
  field : Function.Injective recasting.field
  value : ∀ a b, recasting.value (a ++ b) = recasting.value a ++ recasting.value b

def Term.recast (recasting : Recasting) (word : Term) : Term :=
  { word with field := recasting.field word.field, value := recasting.value word.value }

def Clause.recast (recasting : Recasting) (id : ClauseId) : Clause → Clause
  | .boolean query => .boolean { query with occur := recasting.occur id, generated := recasting.generated id }
  | .disjunctionMax query =>
      .disjunctionMax { query with occur := recasting.occur id, generated := recasting.generated id }
  | .term word => .term (word.recast recasting)

def Query.recast (recasting : Recasting) (query : Query) : Query := ⟨query.nodes.mapIdx (Clause.recast recasting)⟩

def Shingle.recast (recasting : Recasting) (shingle : Shingle) : Shingle :=
  { shingle with field := recasting.field shingle.field, value := recasting.value shingle.value }

section

variable (recasting : Recasting) (query : Query)

@[simp] theorem recast_clause (id : ClauseId) :
    (query.recast recasting).clause? id = (query.clause? id).map (Clause.recast recasting id) :=
  Array.getElem?_mapIdx

@[simp] theorem recast_size : (query.recast recasting).size = query.size := Array.size_mapIdx

theorem recast_children (id : ClauseId) (node : Clause) : (node.recast recasting id).children = node.children := by
  cases node <;> rfl

@[simp] theorem recast_child_ids (id : ClauseId) : (query.recast recasting).childIds id = query.childIds id := by
  rw [Query.childIds, Query.childIds, recast_clause]
  cases query.clause? id with
  | none => rfl
  | some node => exact recast_children recasting id node

theorem recast_clauses : (query.recast recasting).clauses = query.clauses :=
  recast_child_ids recasting query Query.root.index

theorem recast_boolean_at (id : ClauseId) (there : query.BooleanAt id) : (query.recast recasting).BooleanAt id := by
  obtain ⟨group, found⟩ := there
  exact ⟨_, by rw [recast_clause, found]; rfl⟩

theorem recast_disjunction_max_at (id : ClauseId) (there : query.DisjunctionMaxAt id) :
    (query.recast recasting).DisjunctionMaxAt id := by
  obtain ⟨group, found⟩ := there
  exact ⟨_, by rw [recast_clause, found]; rfl⟩

theorem recast_place (id : ClauseId) : (query.recast recasting).place? id = query.place? id := by
  cases found : query.clause? id with
  | none => simp [Query.place?, Query.disjunctionMax?, found]
  | some node =>
      rw [place_found _ id (node.recast recasting id) (by rw [recast_clause, found]; rfl), place_found query id node found]
      cases node <;> rfl

theorem recast_places : Shingling.places (query.recast recasting) = Shingling.places query := by
  have each : query.clauses.map (query.recast recasting).place? = query.clauses.map query.place? :=
    List.map_congr_left fun id _ => recast_place recasting query id
  rw [← recast_clauses recasting query] at each
  exact each.trans (congrArg (List.map query.place?) (recast_clauses recasting query))

theorem recast_term (id : ClauseId) :
    (query.recast recasting).term? id = (query.term? id).map (Term.recast recasting) := by
  rw [Query.term?, Query.term?, recast_clause]
  cases query.clause? id with
  | none => rfl
  | some node => cases node <;> rfl

theorem recast_terms (place : DisjunctionMaxId) :
    (query.recast recasting).termsOf place = (query.termsOf place).map (Term.recast recasting) := by
  rw [Query.termsOf, Query.termsOf, recast_child_ids, List.map_filterMap]
  exact List.filterMap_congr fun id _ => recast_term recasting query id

theorem recast_sources (shingling : Shingling) (place : DisjunctionMaxId) :
    shingling.sources (query.recast recasting) place =
      (shingling.sources query place).map (Term.recast recasting) := by
  rw [Shingling.sources, recast_terms, List.filter_map]
  rfl

theorem recast_same_field (faithful : recasting.Faithful) (a b : Term) :
    (a.recast recasting).sameField (b.recast recasting) = a.sameField b :=
  decide_eq_decide.mpr faithful.field.eq_iff

theorem recast_shingles_of (faithful : recasting.Faithful) (shingling : Shingling) (left right : DisjunctionMaxId) :
    shingling.shinglesOf (query.recast recasting) left right =
      (shingling.shinglesOf query left right).map (Shingle.recast recasting) := by
  rw [Shingling.shinglesOf, Shingling.shinglesOf, recast_sources, recast_sources, List.flatMap_map, List.map_flatMap]
  refine List.flatMap_congr ?_
  intro l _
  have chosen : (Term.sameField (l.recast recasting)) ∘ Term.recast recasting = l.sameField :=
    funext fun r => recast_same_field recasting faithful l r
  rw [List.filter_map, chosen, List.map_map, List.map_map]
  refine List.map_congr_left ?_
  intro r _
  exact congrArg (Shingle.mk l.parent r.parent (recasting.field l.field)) (faithful.value l.value r.value).symm

theorem recast_shingles (faithful : recasting.Faithful) (shingling : Shingling) :
    shingling.shingles (query.recast recasting) = (shingling.shingles query).map (Shingle.recast recasting) := by
  rw [Shingling.shingles, Shingling.shingles, recast_places, List.map_flatMap]
  refine List.flatMap_congr ?_
  rintro ⟨left, right⟩ _
  cases left with
  | none => rfl
  | some left =>
      cases right with
      | none => rfl
      | some right => exact recast_shingles_of recasting query faithful shingling left right

theorem recast_adopt (id child : ClauseId) (node : Clause) :
    (node.recast recasting id).adopt child = (node.adopt child).recast recasting id := by
  cases node <;> rfl

theorem recast_push (node : Clause) :
    (query.recast recasting).push (node.recast recasting query.size) = (query.push node).recast recasting := by
  rw [Query.push, Query.push, Query.recast, Query.recast, Array.mapIdx_push]
  rfl

theorem recast_attach (parent : ClauseId) (node : Clause) :
    (query.recast recasting).attach parent (node.recast recasting query.size) =
      (query.attach parent node).recast recasting := by
  apply query_ext
  intro id
  rw [recast_clause, attach_read, attach_read, recast_push, recast_clause, recast_size]
  by_cases same : parent = id
  · rw [if_pos same, if_pos same, Option.map_map, Option.map_map]
    exact congrArg (Option.map · _) (funext (recast_adopt recasting id query.size))
  · rw [if_neg same, if_neg same]

theorem recast_attach_term (place : DisjunctionMaxId) (field : Option String) (value : String) (generated : Bool) :
    ((query.recast recasting).attachTerm place (recasting.field field) (recasting.value value) generated).1 =
      (query.attachTerm place field value generated).1.recast recasting :=
  recast_attach recasting query place.index (.term ⟨place, field, value, generated⟩)

theorem recast_add_shingle (shingle : Shingle) :
    Shingling.addShingle (query.recast recasting) (shingle.recast recasting) =
      (Shingling.addShingle query shingle).recast recasting := by
  rw [Shingling.addShingle, Shingling.addShingle, ← recast_attach_term, ← recast_attach_term]
  rfl

theorem recast_add_shingles (shingles : List Shingle) :
    (shingles.map (Shingle.recast recasting)).foldl Shingling.addShingle (query.recast recasting) =
      (shingles.foldl Shingling.addShingle query).recast recasting := by
  induction shingles generalizing query with
  | nil => rfl
  | cons shingle rest ih => rw [List.map_cons, List.foldl_cons, List.foldl_cons, recast_add_shingle, ih]

theorem recast_run (faithful : recasting.Faithful) (shingling : Shingling) :
    shingling.run (query.recast recasting) = (shingling.run query).recast recasting := by
  rw [run_all, run_all, recast_shingles recasting query faithful, recast_add_shingles]

theorem recast_run_guarded (linked : query.Linked) (faithful : recasting.Faithful) (shingling : Shingling) :
    shingling.runGuarded (query.recast recasting) = .ok ((shingling.run query).recast recasting) := by
  rw [← recast_run recasting query faithful shingling]
  apply run_guarded_there
  · exact recast_boolean_at recasting query 0 (root_boolean query linked)
  · intro id listed
    rw [recast_clauses] at listed
    rw [recast_size]
    exact (linked_child query linked 0 id listed).2.1
  · intro shingle member
    rw [recast_shingles recasting query faithful] at member
    obtain ⟨old, isOld, same⟩ := List.mem_map.mp member
    obtain ⟨left, right⟩ := shingles_there shingling query linked old isOld
    rw [← same]
    exact ⟨recast_disjunction_max_at recasting query _ left, recast_disjunction_max_at recasting query _ right⟩

end

namespace ClauseDocument

def word? : ClauseDocument → Option (Option String × String × Bool)
  | .term field value generated => some (field, value, generated)
  | _ => none

def outline : ClauseDocument → Option (List (Option String × String × Bool))
  | .disjunctionMax _ _ clauses => some (clauses.filterMap word?)
  | _ => none

end ClauseDocument

def Document.outline (document : Document) : List (Option (List (Option String × String × Bool))) :=
  document.clauses.map ClauseDocument.outline

theorem source_word (shingling : Shingling) (clause : ClauseDocument) :
    clause.source? shingling =
      clause.word?.bind fun word => if !word.2.2 || shingling.acceptGenerated then some (word.1, word.2.1) else none := by
  cases clause <;> rfl

def Shingling.outlineSources (shingling : Shingling) (outline : Option (List (Option String × String × Bool))) :
    List (Option String × String) :=
  (outline.getD []).filterMap fun word =>
    if !word.2.2 || shingling.acceptGenerated then some (word.1, word.2.1) else none

def Shingling.outlineShingles (shingling : Shingling) (left right : Option (List (Option String × String × Bool))) :
    List ClauseDocument :=
  (shingling.outlineSources left).flatMap fun l =>
    ((shingling.outlineSources right).filter fun r => l.1 = r.1).map fun r => .term l.1 (l.2 ++ r.2) true

theorem sources_outline (shingling : Shingling) (clause : ClauseDocument) :
    clause.sources shingling = shingling.outlineSources clause.outline := by
  cases clause with
  | boolean occur generated clauses => rfl
  | term field value generated => rfl
  | disjunctionMax occur generated clauses =>
      rw [ClauseDocument.sources, ClauseDocument.outline, Shingling.outlineSources, Option.getD_some,
        List.filterMap_filterMap]
      exact List.filterMap_congr fun clause _ => source_word shingling clause

theorem shingles_outline (shingling : Shingling) (left right : ClauseDocument) :
    ClauseDocument.shingles shingling left right = shingling.outlineShingles left.outline right.outline := by
  rw [ClauseDocument.shingles, sources_outline, sources_outline]
  rfl

theorem seam_outline (shingling : Shingling) (document : Document) (i : Nat) :
    seam (ClauseDocument.shingles shingling) document.clauses i = seam shingling.outlineShingles document.outline i := by
  rw [Document.outline, seam_map, ← funext₂ (shingles_outline shingling)]

theorem seam_before_outline (shingling : Shingling) (document : Document) (i : Nat) :
    seamBefore (ClauseDocument.shingles shingling) document.clauses i =
      seamBefore shingling.outlineShingles document.outline i := by
  cases i with
  | zero => rfl
  | succ i => exact seam_outline shingling document i

/-- Recasting a query before a pass is recasting it behind the pass, and the same shingles are added to any two
queries whose places have the same terms, whatever their groups are and whatever else is in them. -/
theorem passes_read_terms (query : Query) (reachable : query.Reachable) (shingling : Shingling) :
    (∀ recasting : Recasting, recasting.Faithful →
      shingling.run (query.recast recasting) = (shingling.run query).recast recasting ∧
      shingling.runGuarded (query.recast recasting) = .ok ((shingling.run query).recast recasting)) ∧
    ∀ other : Query, other.Reachable → other.toDocument.outline = query.toDocument.outline →
      ∃ added : Nat → List ClauseDocument, ∀ i,
        (shingling.run query).toDocument.clauses[i]? =
          query.toDocument.clauses[i]?.map (ClauseDocument.extend (added i)) ∧
        (shingling.run other).toDocument.clauses[i]? =
          other.toDocument.clauses[i]?.map (ClauseDocument.extend (added i)) := by
  have linked := reachable_linked query reachable
  constructor
  · intro recasting faithful
    exact ⟨recast_run recasting query faithful shingling, recast_run_guarded recasting query linked faithful shingling⟩
  · intro other otherReachable same
    refine ⟨fun i => seamBefore shingling.outlineShingles query.toDocument.outline i ++
      seam shingling.outlineShingles query.toDocument.outline i, ?_⟩
    intro i
    rw [run_document shingling query linked, run_document shingling other (reachable_linked other otherReachable),
      shingled_get, shingled_get]
    simp only [seam_before_outline, seam_outline, same, and_self]

theorem passes_read_terms_two_words :
    let query : Query := ⟨#[.boolean ⟨none, .should, false, [1, 6]⟩, .disjunctionMax ⟨⟨0⟩, .should, false, [2, 3]⟩,
      .term ⟨⟨1⟩, none, "a", false⟩, .boolean ⟨some 1, .should, false, [4]⟩,
      .disjunctionMax ⟨⟨3⟩, .must, true, [5]⟩, .term ⟨⟨4⟩, some "f", "z", false⟩,
      .disjunctionMax ⟨⟨0⟩, .must, false, [7]⟩, .term ⟨⟨6⟩, none, "b", true⟩]⟩
    let other : Query := ⟨#[.boolean ⟨none, .should, true, [1, 3]⟩, .disjunctionMax ⟨⟨0⟩, .mustNot, true, [2]⟩,
      .term ⟨⟨1⟩, none, "a", false⟩, .disjunctionMax ⟨⟨0⟩, .should, true, [4, 5]⟩,
      .term ⟨⟨3⟩, none, "b", true⟩, .boolean ⟨some 3, .should, true, []⟩]⟩
    let recasting : Recasting :=
      ⟨Equiv.swap none (some "f"), String.map Char.toUpper, fun _ => .mustNot, fun id => id = 1⟩
    let pass : Shingling := ⟨true⟩
    query.Reachable ∧ other.Reachable ∧ recasting.Faithful ∧
      other.toDocument.outline = query.toDocument.outline ∧
      pass.run (query.recast recasting) = (pass.run query).recast recasting ∧
      (pass.run (query.recast recasting)).clause? 9 = some (.term ⟨⟨6⟩, some "f", "AB", true⟩) ∧
      ∃ added, (pass.run query).toDocument.clauses[1]? =
          some (.disjunctionMax .must false (.term none "b" true :: added)) ∧
        (pass.run other).toDocument.clauses[1]? =
          some (.disjunctionMax .should true (.term none "b" true :: .boolean .should true [] :: added)) := by
  intro query other recasting pass
  have reachable : query.Reachable := ⟨_, .load ⟨false,
    [.disjunctionMax .should false
      [.term none "a" false, .boolean .must false [.disjunctionMax .must true [.term (some "f") "z" false]]],
     .disjunctionMax .must false [.term none "b" true]]⟩ query rfl⟩
  have otherReachable : other.Reachable := ⟨_, .load ⟨true,
    [.disjunctionMax .mustNot true [.term none "a" false],
     .disjunctionMax .should true [.term none "b" true, .boolean .must true []]]⟩ other rfl⟩
  have faithful : recasting.Faithful := ⟨(Equiv.swap _ _).injective, fun a b => String.ext (by simp [recasting])⟩
  have same : other.toDocument.outline = query.toDocument.outline := rfl
  obtain ⟨recast, both⟩ := passes_read_terms query reachable pass
  obtain ⟨added, each⟩ := both other otherReachable same
  obtain ⟨here, there⟩ := each 1
  have place : query.toDocument.clauses[1]? = some (.disjunctionMax .must false [.term none "b" true]) := rfl
  have otherPlace : other.toDocument.clauses[1]? =
      some (.disjunctionMax .should true [.term none "b" true, .boolean .should true []]) := rfl
  have renamed := (recast recasting faithful).1
  refine ⟨reachable, otherReachable, faithful, same, renamed, ?_, added 1, ?_, ?_⟩
  · rw [renamed]
    decide +kernel
  · rw [here, place]
    rfl
  · rw [there, otherPlace]
    rfl

end QueryShingles
