import QueryShingles.Expanded.Basic
import QueryShingles.Proofs.Seam
import QueryShingles.Proofs.Session
import QueryShingles.Proofs.View

/-!
A pass over a query, seen on its document: every place gets the seams at its two ends, and nothing
else changes.
-/

set_option autoImplicit false

namespace QueryShingles

def Shingle.document (shingle : Shingle) : ClauseDocument := .term shingle.field shingle.value true

def Shingle.additions (id : ClauseId) (shingle : Shingle) : List ClauseDocument :=
  (if shingle.left.index = id then [shingle.document] else []) ++
    (if shingle.right.index = id then [shingle.document] else [])

theorem place_not_root (query : Query) (linked : query.Linked) (id : ClauseId) (place : query.PlaceAt id) : id ≠ 0 :=
  (linked_child query linked 0 id place.1).2.2

theorem attach_term_contents (query : Query) (linked : query.Linked) (place : DisjunctionMaxId)
    (field : Option String) (value : String) (generated : Bool) (there : query.PlaceAt place.index) :
    let grown := (query.attachTerm place field value generated).1
    grown.clauses = query.clauses ∧ ∀ id ∈ query.clauses,
      grown.contents id = query.contents id ++ if place.index = id then [.term field value generated] else [] := by
  intro grown
  obtain ⟨group, found⟩ := there.2
  have grows : query.Grows grown := attach_term_grows query place field value generated there.2
  have grownLinked : grown.Linked := grows_linked query grown linked grows
  have listed : ∀ id, grown.childIds id =
      if id = place.index then query.childIds id ++ [query.size] else query.childIds id :=
    fun id => attach_child_ids query place.index id _ _ found rfl rfl
  have rootListed : grown.clauses = query.clauses :=
    (listed 0).trans (if_neg (Ne.symm (place_not_root query linked place.index there)))
  refine ⟨rootListed, ?_⟩
  -- Below the places nothing is touched: the new node is listed by a place.
  have below : ∀ id, id ≠ 0 → id ∉ query.clauses → id < query.size → grown.view id = query.view id := by
    intro id notRoot notPlace bound
    refine view_agree query grown linked grownLinked
      (fun id => id ≠ 0 ∧ id ∉ query.clauses ∧ id < query.size) ?_ ?_ id ⟨notRoot, notPlace, bound⟩
    · rintro other ⟨_, unlisted, old⟩
      exact attach_other query place.index other _ old (fun same => unlisted (same ▸ there.1))
    · rintro parent child ⟨notRoot, _, _⟩ member
      obtain ⟨_, bound, childNotRoot⟩ := linked_child query linked parent child member
      exact ⟨childNotRoot, fun atRoot => notRoot (listed_by_one query linked parent 0 child member atRoot), bound⟩
  intro id member
  have idNotRoot : id ≠ 0 := (linked_child query linked 0 id member).2.2
  have old : (query.childIds id).filterMap grown.view = query.contents id := by
    refine List.filterMap_congr ?_
    intro child isChild
    obtain ⟨_, bound, childNotRoot⟩ := linked_child query linked id child isChild
    exact below child childNotRoot
      (fun atRoot => idNotRoot (listed_by_one query linked id 0 child isChild atRoot)) bound
  have new : grown.view query.size = some (.term field value generated) :=
    view_found grown grownLinked query.size _ (attach_new query place.index _ (clause_bound _ _ _ found))
  rw [Query.contents, listed id]
  by_cases same : place.index = id
  · rw [if_pos same.symm, if_pos same, List.filterMap_append, old]
    simp [new]
  · rw [if_neg (Ne.symm same), if_neg same, old, List.append_nil]

theorem grows_place (query grown : Query) (grows : query.Grows grown) (kept : grown.clauses = query.clauses)
    (id : ClauseId) (place : query.PlaceAt id) : grown.PlaceAt id :=
  ⟨kept ▸ place.1, grows_disjunction_max query grown grows id place.2⟩

theorem add_shingle_contents (query : Query) (linked : query.Linked) (shingle : Shingle)
    (left : query.PlaceAt shingle.left.index) (right : query.PlaceAt shingle.right.index) :
    let grown := Shingling.addShingle query shingle
    grown.clauses = query.clauses ∧
      ∀ id ∈ query.clauses, grown.contents id = query.contents id ++ shingle.additions id := by
  intro grown
  have firstGrows := attach_term_grows query shingle.left shingle.field shingle.value true left.2
  obtain ⟨firstListed, first⟩ :=
    attach_term_contents query linked shingle.left shingle.field shingle.value true left
  obtain ⟨secondListed, second⟩ := attach_term_contents _ (grows_linked _ _ linked firstGrows) shingle.right
    shingle.field shingle.value true (grows_place _ _ firstGrows firstListed _ right)
  refine ⟨secondListed.trans firstListed, ?_⟩
  intro id member
  refine (second id (firstListed ▸ member)).trans ?_
  rw [first id member, List.append_assoc]
  rfl

theorem add_shingles_contents (query : Query) (linked : query.Linked) (shingles : List Shingle)
    (there : ∀ shingle ∈ shingles, query.PlaceAt shingle.left.index ∧ query.PlaceAt shingle.right.index) :
    let grown := shingles.foldl Shingling.addShingle query
    grown.clauses = query.clauses ∧
      ∀ id ∈ query.clauses, grown.contents id = query.contents id ++ shingles.flatMap (Shingle.additions id) := by
  induction shingles generalizing query with
  | nil => exact ⟨rfl, fun id _ => (List.append_nil _).symm⟩
  | cons shingle rest ih =>
      obtain ⟨left, right⟩ := there shingle (by simp)
      have grows := add_shingle_grows query shingle left.2 right.2
      obtain ⟨headListed, head⟩ := add_shingle_contents query linked shingle left right
      obtain ⟨tailListed, tail⟩ := ih (Shingling.addShingle query shingle) (grows_linked _ _ linked grows)
        (fun other member => ⟨grows_place _ _ grows headListed _ (there other (by simp [member])).1,
          grows_place _ _ grows headListed _ (there other (by simp [member])).2⟩)
      refine ⟨tailListed.trans headListed, ?_⟩
      intro id member
      refine (tail id (headListed ▸ member)).trans ?_
      rw [head id member, List.flatMap_cons, List.append_assoc]

theorem source_of_child (shingling : Shingling) (query : Query) (linked : query.Linked) (child : ClauseId) :
    (query.view child).bind (ClauseDocument.source? shingling) =
      ((query.term? child).filter shingling.isSource).map fun word => (word.field, word.value) := by
  cases found : query.clause? child with
  | none => simp [view_absent query child found, Query.term?, found]
  | some node =>
      rw [view_found query linked child node found]
      cases node with
      | boolean group => simp [Query.term?, found, Clause.asTerm?, Clause.document, ClauseDocument.source?]
      | disjunctionMax group => simp [Query.term?, found, Clause.asTerm?, Clause.document, ClauseDocument.source?]
      | term word =>
          by_cases accepted : (!word.generated || shingling.acceptGenerated) = true <;>
            simp [Query.term?, found, Clause.asTerm?, Clause.document, ClauseDocument.source?,
              Option.filter_some, Shingling.isSource, accepted]

theorem sources_document (shingling : Shingling) (query : Query) (linked : query.Linked) (id : ClauseId)
    (group : DisjunctionMaxQuery) :
    (Clause.document (.disjunctionMax group) (query.contents id)).sources shingling =
      (shingling.sources query ⟨id⟩).map fun word => (word.field, word.value) := by
  rw [Clause.document, ClauseDocument.sources, Query.contents, List.filterMap_filterMap, Shingling.sources,
    Query.termsOf, List.filter_filterMap, List.map_filterMap]
  exact List.filterMap_congr fun child _ => source_of_child shingling query linked child

theorem shingles_of_document (shingling : Shingling) (query : Query) (linked : query.Linked) (left right : ClauseId)
    (a b : DisjunctionMaxQuery) :
    (shingling.shinglesOf query ⟨left⟩ ⟨right⟩).map Shingle.document =
      ClauseDocument.shingles shingling (Clause.document (.disjunctionMax a) (query.contents left))
        (Clause.document (.disjunctionMax b) (query.contents right)) := by
  rw [ClauseDocument.shingles, sources_document shingling query linked left a,
    sources_document shingling query linked right b, Shingling.shinglesOf, List.map_flatMap,
    List.flatMap_map]
  simp only [List.filter_map, List.map_map]
  rfl

def Query.place? (query : Query) (id : ClauseId) : Option DisjunctionMaxId :=
  (query.disjunctionMax? id).map fun _ => ⟨id⟩

def Shingling.joined (shingling : Shingling) (query : Query) (left right : ClauseId) : List ClauseDocument :=
  (shingling.shinglesBetween query (query.place? left) (query.place? right)).map Shingle.document

theorem place_found (query : Query) (id : ClauseId) (node : Clause) (found : query.clause? id = some node) :
    query.place? id = node.asDisjunctionMax?.map fun _ => ⟨id⟩ := by
  simp [Query.place?, Query.disjunctionMax?, found]

theorem shingles_without_sources (shingling : Shingling) (left right : ClauseDocument)
    (none : left.sources shingling = [] ∨ right.sources shingling = []) :
    ClauseDocument.shingles shingling left right = [] := by
  rcases none with empty | empty <;> simp [ClauseDocument.shingles, empty]

theorem no_place_no_sources (shingling : Shingling) (node : Clause) (clauses : List ClauseDocument)
    (other : node.asDisjunctionMax? = none) : (node.document clauses).sources shingling = [] := by
  cases node with
  | disjunctionMax group => simp [Clause.asDisjunctionMax?] at other
  | boolean group => rfl
  | term word => rfl

theorem joined_document (shingling : Shingling) (query : Query) (linked : query.Linked) (left right : ClauseId)
    (a b : ClauseDocument) (viewLeft : query.view left = some a) (viewRight : query.view right = some b) :
    shingling.joined query left right = ClauseDocument.shingles shingling a b := by
  cases foundLeft : query.clause? left with
  | none => simp [view_absent query left foundLeft] at viewLeft
  | some first =>
      cases foundRight : query.clause? right with
      | none => simp [view_absent query right foundRight] at viewRight
      | some second =>
          rw [view_found query linked left first foundLeft] at viewLeft
          rw [view_found query linked right second foundRight] at viewRight
          cases viewLeft
          cases viewRight
          rw [Shingling.joined, place_found query left first foundLeft, place_found query right second foundRight]
          cases isFirst : first.asDisjunctionMax? with
          | none =>
              rw [shingles_without_sources _ _ _ (.inl (no_place_no_sources shingling first _ isFirst))]
              rfl
          | some one =>
              cases isSecond : second.asDisjunctionMax? with
              | none =>
                  rw [shingles_without_sources _ _ _ (.inr (no_place_no_sources shingling second _ isSecond))]
                  rfl
              | some two =>
                  cases first <;> simp [Clause.asDisjunctionMax?] at isFirst
                  cases second <;> simp [Clause.asDisjunctionMax?] at isSecond
                  exact shingles_of_document shingling query linked left right _ _

theorem additions_shared (shingling : Shingling) (query : Query) (linked : query.Linked) (left right id : ClauseId)
    (different : left ≠ right) :
    (shingling.shinglesBetween query (query.place? left) (query.place? right)).flatMap (Shingle.additions id) =
      share (shingling.joined query) id (left, right) := by
  have ends : ∀ shingle ∈ shingling.shinglesBetween query (query.place? left) (query.place? right),
      shingle.left.index = left ∧ shingle.right.index = right := by
    intro shingle member
    cases isLeft : query.disjunctionMax? left with
    | none => simp [Query.place?, isLeft, Shingling.shinglesBetween] at member
    | some a =>
        cases isRight : query.disjunctionMax? right with
        | none => simp [Query.place?, isLeft, isRight, Shingling.shinglesBetween] at member
        | some b =>
            simp only [Query.place?, isLeft, isRight, Option.map_some, Shingling.shinglesBetween] at member
            obtain ⟨atLeft, atRight⟩ := shingles_of_ends shingling query linked ⟨left⟩ ⟨right⟩ shingle member
            simp [atLeft, atRight]
  rw [share, Shingling.joined]
  generalize shingling.shinglesBetween query (query.place? left) (query.place? right) = shingles at ends
  induction shingles with
  | nil => simp
  | cons shingle rest ih =>
      obtain ⟨atLeft, atRight⟩ := ends shingle (by simp)
      rw [List.flatMap_cons, ih (fun other member => ends other (by simp [member])), Shingle.additions, atLeft, atRight]
      by_cases isLeft : left = id
      · have notRight : right ≠ id := fun same => different (isLeft.trans same.symm)
        simp [isLeft, notRight]
      · by_cases isRight : right = id <;> simp [isLeft, isRight]

theorem places_pairs (query : Query) :
    (Shingling.places query).zip (Shingling.places query).tail =
      (query.clauses.zip query.clauses.tail).map (Prod.map query.place? query.place?) := by
  rw [← List.zip_map, List.map_tail]
  rfl

theorem additions_seams (shingling : Shingling) (query : Query) (linked : query.Linked) (i : Nat) (id : ClauseId)
    (found : query.clauses[i]? = some id) :
    (shingling.shingles query).flatMap (Shingle.additions id) =
      seamBefore (shingling.joined query) query.clauses i ++ seam (shingling.joined query) query.clauses i := by
  have distinct := linked_distinct query linked Query.root.index
  rw [← share_seams (shingling.joined query) query.clauses distinct i id found, Shingling.shingles, places_pairs,
    List.flatMap_map, List.flatMap_assoc]
  refine List.flatMap_congr ?_
  rintro ⟨left, right⟩ member
  exact additions_shared shingling query linked left right id (neighbours_differ _ distinct left right member)

theorem view_present (query : Query) (linked : query.Linked) (id child : ClauseId) (listed : child ∈ query.childIds id) :
    ∃ document, query.view child = some document := by
  obtain ⟨node, found⟩ := clause_present query child (linked_child query linked id child listed).2.1
  exact ⟨_, view_found query linked child node found⟩

theorem filter_map_get {α β : Type} (f : α → Option β) (items : List α)
    (present : ∀ item ∈ items, ∃ value, f item = some value) (i : Nat) :
    (items.filterMap f)[i]? = items[i]?.bind f := by
  induction items generalizing i with
  | nil => rfl
  | cons item rest ih =>
      obtain ⟨value, here⟩ := present item (by simp)
      rw [List.filterMap_cons, here]
      cases i with
      | zero => simp [here]
      | succ i => simpa using ih (fun other member => present other (by simp [member])) i

theorem clauses_get (query : Query) (linked : query.Linked) (i : Nat) :
    query.toDocument.clauses[i]? = query.clauses[i]?.bind query.view :=
  filter_map_get query.view query.clauses (view_present query linked Query.root.index) i

theorem joined_seam (shingling : Shingling) (query : Query) (linked : query.Linked) (i : Nat) :
    seam (shingling.joined query) query.clauses i =
      seam (ClauseDocument.shingles shingling) query.toDocument.clauses i := by
  simp only [seam, clauses_get query linked]
  cases atLeft : query.clauses[i]? with
  | none => rfl
  | some left =>
      obtain ⟨a, viewLeft⟩ := view_present query linked _ left (List.mem_of_getElem? atLeft)
      cases atRight : query.clauses[i + 1]? with
      | none => simp [viewLeft]
      | some right =>
          obtain ⟨b, viewRight⟩ := view_present query linked _ right (List.mem_of_getElem? atRight)
          simp only [Option.bind_some, viewLeft, viewRight]
          exact joined_document shingling query linked left right a b viewLeft viewRight

theorem joined_seam_before (shingling : Shingling) (query : Query) (linked : query.Linked) (i : Nat) :
    seamBefore (shingling.joined query) query.clauses i =
      seamBefore (ClauseDocument.shingles shingling) query.toDocument.clauses i := by
  cases i with
  | zero => rfl
  | succ i => exact joined_seam shingling query linked i

theorem extended_document (shingling : Shingling) (query : Query) (linked : query.Linked) (id : ClauseId)
    (node : Clause) (found : query.clause? id = some node) :
    let more := (shingling.shingles query).flatMap (Shingle.additions id)
    node.document (query.contents id ++ more) = (node.document (query.contents id)).extend more := by
  intro more
  cases node with
  | disjunctionMax group => rfl
  | term word => rfl
  | boolean group =>
      have nothing : more = [] := by
        refine List.flatMap_eq_nil_iff.mpr ?_
        intro shingle member
        obtain ⟨⟨left, atLeft⟩, ⟨right, atRight⟩⟩ := shingles_there shingling query linked shingle member
        have notLeft : shingle.left.index ≠ id := by
          intro same
          rw [same, found] at atLeft
          cases atLeft
        have notRight : shingle.right.index ≠ id := by
          intro same
          rw [same, found] at atRight
          cases atRight
        simp [Shingle.additions, notLeft, notRight]
      rw [nothing, List.append_nil]
      rfl

theorem shingled_clauses (shingling : Shingling) (query : Query) (linked : query.Linked) :
    ((shingling.shingles query).foldl Shingling.addShingle query).toDocument.clauses =
      (query.toDocument.shingled shingling).clauses := by
  have grows := add_shingles_grow query _ (shingles_there shingling query linked)
  obtain ⟨listed, contents⟩ := add_shingles_contents query linked _ (shingles_placed shingling query linked)
  generalize (shingling.shingles query).foldl Shingling.addShingle query = grown at grows listed contents
  have grownLinked := grows_linked query grown linked grows
  refine List.ext_getElem? ?_
  intro i
  rw [clauses_get grown grownLinked, listed, Document.shingled, List.getElem?_mapIdx, clauses_get query linked]
  cases found : query.clauses[i]? with
  | none => rfl
  | some id =>
      have member := List.mem_of_getElem? found
      obtain ⟨node, read⟩ := clause_present query id (linked_child query linked _ id member).2.1
      obtain ⟨kept, keptRead, bare⟩ := grows_keeps query grown grows id node read
      rw [Option.bind_some, Option.bind_some, view_found grown grownLinked id kept keptRead, contents id member,
        view_found query linked id node read, bare_document kept node _ bare,
        extended_document shingling query linked id node read, additions_seams shingling query linked i id found,
        joined_seam_before shingling query linked, joined_seam shingling query linked]
      rfl

theorem shingled_short (shingling : Shingling) (document : Document) (short : document.clauses.length < 2) :
    document.shingled shingling = document := by
  cases document with
  | mk generated clauses =>
      cases clauses with
      | nil => rfl
      | cons clause rest =>
          cases rest with
          | nil => cases clause <;> simp [Document.shingled, seam, seamBefore, ClauseDocument.extend]
          | cons second others => exact absurd short (by simp)

theorem run_document (shingling : Shingling) (query : Query) (linked : query.Linked) :
    (shingling.run query).toDocument = query.toDocument.shingled shingling := by
  by_cases short : query.clauses.length < 2
  · have few : query.toDocument.clauses.length < 2 := Nat.lt_of_le_of_lt (List.length_filterMap_le _ _) short
    rw [Shingling.run, if_pos short, shingled_short shingling query.toDocument few]
  · have clauses := shingled_clauses shingling query linked
    have flag := grows_generated query _ linked (add_shingles_grow query _ (shingles_there shingling query linked))
    rw [Shingling.run, if_neg short]
    exact congr (congrArg Document.mk flag) clauses

/-- The document of a user query behind a pass is the one before it, but for the seams at the ends of its places. -/
theorem shingled_document (expanded : ExpandedQuery) (shingling : Shingling)
    (reachable : expanded.userQuery.Reachable) :
    (expanded.shingled shingling).userQuery.toDocument = expanded.userQuery.toDocument.shingled shingling :=
  run_document shingling expanded.userQuery (reachable_linked expanded.userQuery reachable)

theorem shingled_document_three_places :
    ∃ query : Query, Query.Reachable query ∧
      ((ExpandedQuery.new query).shingled ⟨false⟩).userQuery.toDocument = ⟨true,
        [.disjunctionMax .must false
          [.term none "a" false, .term (some "f") "b" false, .term (some "f") ("b" ++ "c") true],
         .disjunctionMax .should false
          [.term (some "f") "c" false, .term none "g" true, .boolean .should true [],
           .term (some "f") ("b" ++ "c") true],
         .boolean .mustNot false [],
         .disjunctionMax .should true [.term (some "f") "d" false]]⟩ := by
  have reachable : Query.Reachable _ := ⟨_, .load ⟨true,
    [.disjunctionMax .must false [.term none "a" false, .term (some "f") "b" false],
     .disjunctionMax .should false
      [.term (some "f") "c" false, .term none "g" true, .boolean .must true []],
     .boolean .mustNot false [],
     .disjunctionMax .should true [.term (some "f") "d" false]]⟩ _ rfl⟩
  exact ⟨_, reachable, (shingled_document (ExpandedQuery.new _) ⟨false⟩ reachable).trans rfl⟩

end QueryShingles
