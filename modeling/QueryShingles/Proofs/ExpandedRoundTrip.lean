import QueryShingles.Expanded.Reader
import QueryShingles.Expanded.Writer
import QueryShingles.Proofs.Reloading
import QueryShingles.Proofs.Singles

/-!
An expanded query that was written is read back, if each of its queries can be: none may hold an empty
disjunction max group or nest too deep for its place, and every boost has to be finite. What comes back
shows the same documents in the same places.
-/

set_option autoImplicit false

namespace QueryShingles

theorem read_query_iff (budget : Nat) (query again : Query) :
    Query.read budget (Draft.ofJson query.toJson) = .ok again ↔
      query.toDocument.nest ≤ budget ∧ query.toDocument.toQuery = .ok again := by
  rw [Query.read, Query.toJson, read_document]
  by_cases shallow : query.toDocument.nest ≤ budget
  · cases built : query.toDocument.toQuery <;> simp [within, shallow, built]
  · simp [within, shallow]

theorem query_read_back (budget : Nat) (query : Query) (linked : query.Linked) :
    ((∃ again, Query.read budget (Draft.ofJson query.toJson) = .ok again) ↔
      query.Filled ∧ query.toDocument.nest ≤ budget) ∧
    ∀ again, Query.read budget (Draft.ofJson query.toJson) = .ok again → again.toDocument = query.toDocument := by
  constructor
  · constructor
    · rintro ⟨again, read⟩
      obtain ⟨shallow, built⟩ := (read_query_iff budget query again).mp read
      exact ⟨((reload_iff query again linked).mp built).1, shallow⟩
    · rintro ⟨filled, shallow⟩
      exact ⟨_, (read_query_iff budget query _).mpr ⟨shallow, (reload_iff query _ linked).mpr ⟨filled, rfl⟩⟩⟩
  · intro again read
    obtain ⟨_, built⟩ := (read_query_iff budget query again).mp read
    rw [to_query_document _ again built, linked_settled query linked]

theorem single_read_back (x : Single) : (∃ again, Single.read (Draft.ofJson x.toJson) = .ok again) ↔ x.isFinite = true := by
  by_cases finite : x.isFinite = true
  · obtain ⟨numeral, spelled, _, moderate⟩ := single_spelled x finite
    obtain ⟨n, number⟩ := moderate_number numeral moderate
    rw [Single.toJson, spelled]
    simp [Draft.ofJson, Single.read, number, finite]
  · have null : x.toJson = .null := by rw [Single.toJson, Single.numeral?, if_neg finite]; rfl
    rw [null]
    constructor
    · rintro ⟨again, read⟩
      exact absurd read (refuse_never "f32" _ again)
    · exact fun isFinite => absurd isFinite finite

theorem read_boost_iff (budget : Nat) (boosted again : BoostQuery) :
    BoostQuery.read (budget + 1) (Draft.ofJson boosted.toJson) = .ok again ↔
      Query.read budget (Draft.ofJson boosted.query.toJson) = .ok again.query ∧
        Single.read (Draft.ofJson boosted.boost.toJson) = .ok again.boost := by
  have steps : BoostQuery.read (budget + 1) (Draft.ofJson boosted.toJson) =
      (Query.read budget (Draft.ofJson boosted.query.toJson) >>= fun query =>
        Single.read (Draft.ofJson boosted.boost.toJson) >>= fun boost => .ok ⟨query, boost⟩) := by
    simp only [BoostQuery.toJson, Draft.ofJson, Draft.ofJsonMembers, BoostQuery.read, Draft.enter, Draft.foldMembers,
      BoostQuery.readMember, Draft.fill, ok_bind]
    cases Query.read budget (Draft.ofJson boosted.query.toJson) with
    | error fault => rfl
    | ok query =>
        cases Single.read (Draft.ofJson boosted.boost.toJson) with
        | error fault => rfl
        | ok boost => rfl
  simp only [steps, bind_ok_iff]
  constructor
  · rintro ⟨query, first, boost, second, same⟩
    cases same
    exact ⟨first, second⟩
  · rintro ⟨first, second⟩
    exact ⟨again.query, first, again.boost, second, rfl⟩

theorem boost_read_back (budget : Nat) (boosted : BoostQuery) (linked : boosted.query.Linked) :
    ((∃ again, BoostQuery.read (budget + 1) (Draft.ofJson boosted.toJson) = .ok again) ↔
      boosted.query.Filled ∧ boosted.query.toDocument.nest ≤ budget ∧ boosted.boost.isFinite = true) ∧
    ∀ again, BoostQuery.read (budget + 1) (Draft.ofJson boosted.toJson) = .ok again →
      again.query.toDocument = boosted.query.toDocument := by
  obtain ⟨readable, shown⟩ := query_read_back budget boosted.query linked
  constructor
  · rw [← and_assoc, ← readable, ← single_read_back]
    simp only [read_boost_iff]
    constructor
    · rintro ⟨again, query, boost⟩
      exact ⟨⟨_, query⟩, _, boost⟩
    · rintro ⟨⟨query, first⟩, boost, second⟩
      exact ⟨⟨query, boost⟩, first, second⟩
  · intro again read
    exact shown _ ((read_boost_iff budget boosted again).mp read).1

section

variable {α β γ : Type} (read : Draft → Except ReadError β) (write : α → Json) (items : List α)

theorem items_read_iff :
    (∃ found, Draft.readItems read .closed (Draft.ofJsonItems (items.map write)) = .ok found) ↔
      ∀ item ∈ items, ∃ again, read (Draft.ofJson (write item)) = .ok again := by
  induction items with
  | nil => exact ⟨fun _ => by simp, fun _ => ⟨[], rfl⟩⟩
  | cons item rest ih =>
      rw [List.forall_mem_cons, ← ih]
      simp only [List.map_cons, Draft.ofJsonItems, Draft.readItems, bind_ok_iff]
      constructor
      · rintro ⟨_, again, first, others, behind, _⟩
        exact ⟨⟨again, first⟩, others, behind⟩
      · rintro ⟨⟨again, first⟩, others, behind⟩
        exact ⟨_, again, first, others, behind, rfl⟩

theorem items_read_map (shown : α → γ) (shows : β → γ)
    (each : ∀ item ∈ items, ∀ again, read (Draft.ofJson (write item)) = .ok again → shows again = shown item)
    (found : List β) (done : Draft.readItems read .closed (Draft.ofJsonItems (items.map write)) = .ok found) :
    found.map shows = items.map shown := by
  induction items generalizing found with
  | nil =>
      cases done
      rfl
  | cons item rest ih =>
      simp only [List.map_cons, Draft.ofJsonItems, Draft.readItems, bind_ok_iff] at done
      obtain ⟨again, first, others, behind, same⟩ := done
      cases same
      obtain ⟨here, later⟩ := List.forall_mem_cons.mp each
      rw [List.map_cons, List.map_cons, here again first, ih later others behind]

theorem items_read_back (readable : α → Prop) (shown : α → γ) (shows : β → γ)
    (each : ∀ item ∈ items, ((∃ again, read (Draft.ofJson (write item)) = .ok again) ↔ readable item) ∧
      ∀ again, read (Draft.ofJson (write item)) = .ok again → shows again = shown item) :
    ((∃ found, Draft.readItems read .closed (Draft.ofJsonItems (items.map write)) = .ok found) ↔
      ∀ item ∈ items, readable item) ∧
    ∀ found, Draft.readItems read .closed (Draft.ofJsonItems (items.map write)) = .ok found →
      found.map shows = items.map shown := by
  constructor
  · rw [items_read_iff]
    exact forall₂_congr fun item member => (each item member).1
  · exact items_read_map read write items shown shows fun item member => (each item member).2

end

namespace ExpandedQuery

def listed {α : Type} (items : List Json) (found : List α) : Option (List α) :=
  if items.isEmpty then none else some found

theorem listed_found {α : Type} (read : Draft → Except ReadError α) (items : List Json) (found : List α)
    (done : Draft.readItems read .closed (Draft.ofJsonItems items) = .ok found) :
    (listed items found).getD [] = found := by
  cases items with
  | nil =>
      cases done
      rfl
  | cons item rest => rfl

theorem fold_listed {σ α : Type} (step : σ → String → Draft → Except ReadError σ) (read : Draft → Except ReadError α)
    (name : String) (put : Option (List α) → σ) (items : List Json) (rest : List (String × Json))
    (fills : step (put none) name (.array (Draft.ofJsonItems items) .closed) =
      (Draft.readItems read .closed (Draft.ofJsonItems items)).map fun found => put (some found)) :
    Draft.foldMembers step .closed (put none) (Draft.ofJsonMembers (listMember name items ++ rest)) =
      Draft.readItems read .closed (Draft.ofJsonItems items) >>= fun found =>
        Draft.foldMembers step .closed (put (listed items found)) (Draft.ofJsonMembers rest) := by
  cases items with
  | nil => rfl
  | cons item others =>
      rw [listMember, if_neg (by simp), List.singleton_append, Draft.ofJsonMembers, Draft.ofJson, Draft.foldMembers,
        fills]
      cases Draft.readItems read .closed (Draft.ofJsonItems (item :: others)) <;> rfl

section

variable (budget : Nat) (userQuery : Query) (boostUp boostDown : Option (List BoostQuery)) (items : List Json)
  (rest : List (String × Json))

theorem fold_boost_up :
    Draft.foldMembers (readMember (budget + 1)) .closed ⟨some userQuery, none, none, none⟩
        (Draft.ofJsonMembers (listMember "boost_up_queries" items ++ rest)) =
      Draft.readItems (BoostQuery.read budget) .closed (Draft.ofJsonItems items) >>= fun found =>
        Draft.foldMembers (readMember (budget + 1)) .closed ⟨some userQuery, listed items found, none, none⟩
          (Draft.ofJsonMembers rest) := by
  refine fold_listed _ _ _ (fun found => ExpandedFields.mk (some userQuery) found none none) items rest ?_
  simp only [readMember, Draft.fill, readBoosts, Draft.readSequence, Draft.enter, ok_bind]
  cases Draft.readItems (BoostQuery.read budget) .closed (Draft.ofJsonItems items) <;> rfl

theorem fold_boost_down :
    Draft.foldMembers (readMember (budget + 1)) .closed ⟨some userQuery, boostUp, none, none⟩
        (Draft.ofJsonMembers (listMember "boost_down_queries" items ++ rest)) =
      Draft.readItems (BoostQuery.read budget) .closed (Draft.ofJsonItems items) >>= fun found =>
        Draft.foldMembers (readMember (budget + 1)) .closed ⟨some userQuery, boostUp, listed items found, none⟩
          (Draft.ofJsonMembers rest) := by
  refine fold_listed _ _ _ (fun found => ExpandedFields.mk (some userQuery) boostUp found none) items rest ?_
  simp only [readMember, Draft.fill, readBoosts, Draft.readSequence, Draft.enter, ok_bind]
  cases Draft.readItems (BoostQuery.read budget) .closed (Draft.ofJsonItems items) <;> rfl

theorem fold_filters :
    Draft.foldMembers (readMember (budget + 1)) .closed ⟨some userQuery, boostUp, boostDown, none⟩
        (Draft.ofJsonMembers (listMember "filter_queries" items ++ rest)) =
      Draft.readItems (Query.read budget) .closed (Draft.ofJsonItems items) >>= fun found =>
        Draft.foldMembers (readMember (budget + 1)) .closed ⟨some userQuery, boostUp, boostDown, listed items found⟩
          (Draft.ofJsonMembers rest) := by
  refine fold_listed _ _ _ (fun found => ExpandedFields.mk (some userQuery) boostUp boostDown found) items rest ?_
  simp only [readMember, Draft.fill, readFilters, Draft.readSequence, Draft.enter, ok_bind]
  cases Draft.readItems (Query.read budget) .closed (Draft.ofJsonItems items) <;> rfl

end

theorem fold_user_query (budget : Nat) (json : Json) (rest : List (String × Json)) :
    Draft.foldMembers (readMember budget) .closed ⟨none, none, none, none⟩
        (Draft.ofJsonMembers (("user_query", json) :: rest)) =
      Query.read budget (Draft.ofJson json) >>= fun userQuery =>
        Draft.foldMembers (readMember budget) .closed ⟨some userQuery, none, none, none⟩ (Draft.ofJsonMembers rest) := by
  simp only [Draft.ofJsonMembers, Draft.foldMembers, readMember, Draft.fill]
  cases Query.read budget (Draft.ofJson json) <;> rfl

theorem read_iff (budget : Nat) (expanded again : ExpandedQuery) :
    ExpandedQuery.read (budget + 3) (Draft.ofJson expanded.toJson) = .ok again ↔
      Query.read (budget + 2) (Draft.ofJson expanded.userQuery.toJson) = .ok again.userQuery ∧
      Draft.readItems (BoostQuery.read (budget + 1)) .closed
        (Draft.ofJsonItems (expanded.boostUp.map BoostQuery.toJson)) = .ok again.boostUp ∧
      Draft.readItems (BoostQuery.read (budget + 1)) .closed
        (Draft.ofJsonItems (expanded.boostDown.map BoostQuery.toJson)) = .ok again.boostDown ∧
      Draft.readItems (Query.read (budget + 1)) .closed
        (Draft.ofJsonItems (expanded.filters.map Query.toJson)) = .ok again.filters := by
  have members : Draft.ofJson expanded.toJson = .object (Draft.ofJsonMembers (("user_query", expanded.userQuery.toJson) ::
      (listMember "boost_up_queries" (expanded.boostUp.map BoostQuery.toJson) ++
      (listMember "boost_down_queries" (expanded.boostDown.map BoostQuery.toJson) ++
      (listMember "filter_queries" (expanded.filters.map Query.toJson) ++ []))))) .closed := by
    simp only [ExpandedQuery.toJson, Draft.ofJson, List.cons_append, List.append_assoc, List.append_nil]
  have ended : ∀ seen, Draft.foldMembers (readMember (budget + 2)) .closed seen (Draft.ofJsonMembers []) = .ok seen :=
    fun _ => rfl
  rw [members]
  simp only [ExpandedQuery.read, Draft.enter, ok_bind, fold_user_query, fold_boost_up, fold_boost_down, fold_filters,
    bind_ok_iff, ended]
  constructor
  · rintro ⟨seen, ⟨userQuery, user, up, ups, down, downs, filters, allFilters, last⟩, required, found, same⟩
    cases last
    cases found
    cases same
    rw [listed_found _ _ _ ups, listed_found _ _ _ downs, listed_found _ _ _ allFilters]
    exact ⟨user, ups, downs, allFilters⟩
  · rintro ⟨user, ups, downs, allFilters⟩
    refine ⟨_, ⟨_, user, _, ups, _, downs, _, allFilters, rfl⟩, _, rfl, ?_⟩
    rw [listed_found _ _ _ ups, listed_found _ _ _ downs, listed_found _ _ _ allFilters]
    rfl

theorem list_member_proper (name : String) (items : List Json) (rest : List (String × Json))
    (proper : ∀ item ∈ items, item.Proper) (behind : Json.ProperMembers rest) :
    Json.ProperMembers (listMember name items ++ rest) := by
  cases items with
  | nil => exact behind
  | cons item others => exact ⟨(proper_items_iff _).mpr proper, behind⟩

theorem query_proper (query : Query) : query.toJson.Proper :=
  numberless_proper _ (document_numberless query.toDocument)

theorem boosts_proper (boosts : List BoostQuery) : ∀ item ∈ boosts.map BoostQuery.toJson, item.Proper := by
  intro item member
  obtain ⟨boosted, _, same⟩ := List.mem_map.mp member
  have boost : boosted.boost.toJson.Proper := by
    by_cases finite : boosted.boost.isFinite = true
    · obtain ⟨numeral, spelled, proper, _⟩ := single_spelled boosted.boost finite
      rw [Single.toJson, spelled]
      exact proper
    · rw [Single.toJson, Single.numeral?, if_neg finite]
      trivial
  rw [← same]
  exact ⟨query_proper boosted.query, boost, trivial⟩

theorem expanded_proper (expanded : ExpandedQuery) : expanded.toJson.Proper := by
  have filters : ∀ item ∈ expanded.filters.map Query.toJson, item.Proper := by
    intro item member
    obtain ⟨query, _, same⟩ := List.mem_map.mp member
    exact same ▸ query_proper query
  have lists := list_member_proper "boost_up_queries" _ _ (boosts_proper expanded.boostUp)
    (list_member_proper "boost_down_queries" _ _ (boosts_proper expanded.boostDown)
      (list_member_proper "filter_queries" _ [] filters trivial))
  rw [List.append_nil, ← List.append_assoc] at lists
  exact ⟨query_proper expanded.userQuery, lists⟩

theorem of_text_written (expanded : ExpandedQuery) (layout : Json.Layout) :
    ExpandedQuery.ofText (expanded.toJson.text layout) =
      ExpandedQuery.read nestingLimit (Draft.ofJson expanded.toJson) := by
  have scanned := of_chars_text layout _ (expanded_proper expanded) [] (by simp)
  rw [List.append_nil] at scanned
  rw [ExpandedQuery.ofText, Draft.readText, Json.text, String.toList_ofList, scanned]
  cases read : ExpandedQuery.read nestingLimit (Draft.ofJson expanded.toJson) <;> simp [read, Scan.skipBlank]

structure Reachable (expanded : ExpandedQuery) : Prop where
  user : expanded.userQuery.Reachable
  boosts : ∀ boosted ∈ expanded.boostUp ++ expanded.boostDown, boosted.query.Reachable
  filters : ∀ filter ∈ expanded.filters, filter.Reachable

/-- The brackets around a query count as well as its own. -/
structure Readable (expanded : ExpandedQuery) : Prop where
  user : expanded.userQuery.Filled ∧ 1 + expanded.userQuery.toDocument.nest ≤ nestingLimit
  boosts : ∀ boosted ∈ expanded.boostUp ++ expanded.boostDown,
    boosted.query.Filled ∧ 3 + boosted.query.toDocument.nest ≤ nestingLimit ∧ boosted.boost.isFinite = true
  filters : ∀ filter ∈ expanded.filters, filter.Filled ∧ 2 + filter.toDocument.nest ≤ nestingLimit

theorem readable_iff (expanded : ExpandedQuery) :
    expanded.Readable ↔
      (expanded.userQuery.Filled ∧ expanded.userQuery.toDocument.nest ≤ 126) ∧
      (∀ boosted ∈ expanded.boostUp,
        boosted.query.Filled ∧ boosted.query.toDocument.nest ≤ 124 ∧ boosted.boost.isFinite = true) ∧
      (∀ boosted ∈ expanded.boostDown,
        boosted.query.Filled ∧ boosted.query.toDocument.nest ≤ 124 ∧ boosted.boost.isFinite = true) ∧
      ∀ filter ∈ expanded.filters, filter.Filled ∧ filter.toDocument.nest ≤ 125 := by
  constructor
  · rintro ⟨⟨filled, nest⟩, boosts, filters⟩
    have each : ∀ boosted ∈ expanded.boostUp ++ expanded.boostDown,
        boosted.query.Filled ∧ boosted.query.toDocument.nest ≤ 124 ∧ boosted.boost.isFinite = true := by
      intro boosted member
      obtain ⟨filled, nest, finite⟩ := boosts boosted member
      exact ⟨filled, Nat.le_of_add_le_add_left nest, finite⟩
    obtain ⟨up, down⟩ := List.forall_mem_append.mp each
    refine ⟨⟨filled, Nat.le_of_add_le_add_left nest⟩, up, down, ?_⟩
    intro filter member
    obtain ⟨filled, nest⟩ := filters filter member
    exact ⟨filled, Nat.le_of_add_le_add_left nest⟩
  · rintro ⟨⟨filled, nest⟩, up, down, filters⟩
    refine ⟨⟨filled, Nat.add_le_add_left nest 1⟩, ?_, ?_⟩
    · intro boosted member
      obtain ⟨filled, nest, finite⟩ := List.forall_mem_append.mpr ⟨up, down⟩ boosted member
      exact ⟨filled, Nat.add_le_add_left nest 3, finite⟩
    · intro filter member
      obtain ⟨filled, nest⟩ := filters filter member
      exact ⟨filled, Nat.add_le_add_left nest 2⟩

end ExpandedQuery

/-- What is read back is complete and in order. The boosts may have been rounded on the way. -/
theorem expanded_round_trip (expanded : ExpandedQuery) (reachable : expanded.Reachable) (layout : Json.Layout) :
    ((∃ again, ExpandedQuery.ofText (expanded.toJson.text layout) = .ok again) ↔ expanded.Readable) ∧
    ∀ again, ExpandedQuery.ofText (expanded.toJson.text layout) = .ok again →
      again.userQuery.toDocument = expanded.userQuery.toDocument ∧
      again.boostUp.map (fun boosted => boosted.query.toDocument) =
        expanded.boostUp.map (fun boosted => boosted.query.toDocument) ∧
      again.boostDown.map (fun boosted => boosted.query.toDocument) =
        expanded.boostDown.map (fun boosted => boosted.query.toDocument) ∧
      again.filters.map Query.toDocument = expanded.filters.map Query.toDocument := by
  have user := query_read_back 126 expanded.userQuery (reachable_linked _ reachable.user)
  have boosts := fun boosted member =>
    boost_read_back 124 boosted (reachable_linked _ (reachable.boosts boosted member))
  obtain ⟨inUp, inDown⟩ := List.forall_mem_append.mp boosts
  have up := items_read_back _ _ expanded.boostUp _ _ _ inUp
  have down := items_read_back _ _ expanded.boostDown _ _ _ inDown
  have filters := items_read_back _ _ expanded.filters _ _ _ fun filter member =>
    query_read_back 125 filter (reachable_linked _ (reachable.filters filter member))
  rw [ExpandedQuery.of_text_written, show nestingLimit = 124 + 3 from rfl]
  simp only [ExpandedQuery.read_iff]
  constructor
  · rw [ExpandedQuery.readable_iff, ← user.1, ← up.1, ← down.1, ← filters.1]
    constructor
    · rintro ⟨again, query, ups, downs, allFilters⟩
      exact ⟨⟨_, query⟩, ⟨_, ups⟩, ⟨_, downs⟩, _, allFilters⟩
    · rintro ⟨⟨query, read⟩, ⟨up, ups⟩, ⟨down, downs⟩, others, allFilters⟩
      exact ⟨⟨query, up, down, others⟩, read, ups, downs, allFilters⟩
  · rintro again ⟨query, ups, downs, allFilters⟩
    exact ⟨user.2 _ query, up.2 _ ups, down.2 _ downs, filters.2 _ allFilters⟩

theorem expanded_round_trip_two_boosts :
    let query : Query := ((Query.new false).addToken none "a" false).1
    let finite : ExpandedQuery := ⟨query, [⟨query, ⟨0x3fc00000⟩⟩], [], [query]⟩
    let infinite : ExpandedQuery := ⟨query, [], [⟨query, Single.infinity true⟩], []⟩
    finite.Reachable ∧ infinite.Reachable ∧
    (∃ again, ExpandedQuery.ofText (finite.toJson.text .pretty) = .ok again ∧
      again.userQuery.toDocument = query.toDocument ∧ again.boostUp.length = 1 ∧ again.boostDown = [] ∧
      again.filters.map Query.toDocument = [query.toDocument]) ∧
    ¬ ∃ again, ExpandedQuery.ofText (infinite.toJson.text .compact) = .ok again := by
  intro query finite infinite
  have reachable : query.Reachable := ⟨_, .step _ _ (.new false)
    (.add (.token none "a" false) _ _ (by simp [Addition.parent?]) rfl)⟩
  have filled : query.Filled := (fits_iff_filled query (reachable_linked query reachable)).mp rfl
  have nest : query.toDocument.nest = 5 := rfl
  have reachableFinite : finite.Reachable := ⟨reachable, by simp [finite, reachable], by simp [finite, reachable]⟩
  have reachableInfinite : infinite.Reachable := ⟨reachable, by simp [infinite, reachable], by simp [infinite]⟩
  obtain ⟨readable, shown⟩ := expanded_round_trip finite reachableFinite .pretty
  obtain ⟨again, read⟩ := readable.mpr
    ⟨⟨filled, by rw [nest]; decide⟩, by simp [finite, filled, nest, nestingLimit]; decide,
      by simp [finite, filled, nest, nestingLimit]⟩
  obtain ⟨user, up, down, filters⟩ := shown again read
  refine ⟨reachableFinite, reachableInfinite, ⟨again, read, user, ?_, List.map_eq_nil_iff.mp down, filters⟩, ?_⟩
  · have lengths := congrArg List.length up
    rw [List.length_map, List.length_map] at lengths
    exact lengths
  · intro read
    have boosts := ((expanded_round_trip infinite reachableInfinite .compact).1.mp read).boosts _ List.mem_cons_self
    exact absurd boosts.2.2 (by decide)

end QueryShingles
