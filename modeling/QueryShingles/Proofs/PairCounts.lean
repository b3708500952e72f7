import Mathlib.Algebra.BigOperators.Group.Finset.Piecewise
import QueryShingles.Command.Run
import QueryShingles.Proofs.Reloading
import QueryShingles.Proofs.Segments
import QueryShingles.Proofs.ShingledTerms
import QueryShingles.Proofs.UserShingles

/-!
How many terms a pass adds. Between two neighbouring places each source of the one meets each source of
the other that has its field, so for every field the numbers of sources are multiplied. What is glued is
added to both places.
-/

set_option autoImplicit false

namespace QueryShingles

open ClauseDocument

namespace Query

def sourceCount (query : Query) (shingling : Shingling) (field : Option String) (i : Nat) : Nat :=
  ((query.termsAt i).filter shingling.isSource).countP fun word => word.field = field

def pairCount (query : Query) (shingling : Shingling) (field : Option String) (i : Nat) : Nat :=
  query.sourceCount shingling field i * query.sourceCount shingling field (i + 1)

def pairCountBefore (query : Query) (shingling : Shingling) (field : Option String) : Nat → Nat
  | 0 => 0
  | i + 1 => query.pairCount shingling field i

def fields (query : Query) : Finset (Option String) :=
  ((query.nodes.toList.filterMap Clause.asTerm?).map Term.field).toFinset

def pairTotal (query : Query) (shingling : Shingling) : Nat :=
  ∑ i ∈ Finset.range query.clauses.length, ∑ field ∈ query.fields, query.pairCount shingling field i

end Query

namespace ClauseDocument

def gluedTo (rights : List (Option String × String)) (l : Option String × String) : List ClauseDocument :=
  (rights.filter fun r => l.1 = r.1).map fun r => .term l.1 (l.2 ++ r.2) true

def glued (lefts rights : List (Option String × String)) : List ClauseDocument := lefts.flatMap (gluedTo rights)

def tally (sources : List (Option String × String)) (field : Option String) : Nat :=
  sources.countP fun source => source.1 = field

end ClauseDocument

theorem glued_cons (l : Option String × String) (rest rights : List (Option String × String)) :
    glued (l :: rest) rights = gluedTo rights l ++ glued rest rights := List.flatMap_cons

theorem tally_cons (source : Option String × String) (rest : List (Option String × String)) (field : Option String) :
    tally (source :: rest) field = tally rest field + if source.1 = field then 1 else 0 := by
  rw [tally, List.countP_cons]
  simp only [tally, decide_eq_true_eq]

theorem glued_to_length (rights : List (Option String × String)) (l : Option String × String) :
    (gluedTo rights l).length = tally rights l.1 := by
  rw [gluedTo, List.length_map, tally, List.countP_eq_length_filter]
  simp only [eq_comm]

theorem glued_to_field (rights : List (Option String × String)) (l : Option String × String) (clause : ClauseDocument)
    (member : clause ∈ gluedTo rights l) : clause.field? = some l.1 := by
  obtain ⟨r, _, same⟩ := List.mem_map.mp member
  rw [← same]
  rfl

theorem glued_to_count (rights : List (Option String × String)) (l : Option String × String) (field : Option String) :
    (gluedTo rights l).countP (fun clause => clause.field? = some field) =
      if l.1 = field then tally rights field else 0 := by
  by_cases same : l.1 = field
  · rw [if_pos same, ← same, ← glued_to_length]
    apply List.countP_eq_length.mpr
    intro clause member
    exact decide_eq_true (glued_to_field rights l clause member)
  · rw [if_neg same]
    apply List.countP_eq_zero.mpr
    intro clause member found
    have here := glued_to_field rights l clause member
    rw [of_decide_eq_true found] at here
    exact same (Option.some.inj here).symm

theorem glued_count (lefts rights : List (Option String × String)) (field : Option String) :
    (glued lefts rights).countP (fun clause => clause.field? = some field) = tally lefts field * tally rights field := by
  induction lefts with
  | nil => simp [glued, tally]
  | cons l rest ih =>
      rw [glued_cons, List.countP_append, glued_to_count, ih, tally_cons, Nat.add_mul, ite_mul, Nat.one_mul,
        Nat.zero_mul]
      exact Nat.add_comm _ _

theorem glued_length (lefts rights : List (Option String × String)) (fields : Finset (Option String))
    (known : ∀ source ∈ lefts, source.1 ∈ fields) :
    (glued lefts rights).length = ∑ field ∈ fields, tally lefts field * tally rights field := by
  induction lefts with
  | nil => simp [glued, tally]
  | cons l rest ih =>
      obtain ⟨here, later⟩ := List.forall_mem_cons.mp known
      rw [glued_cons, List.length_append, glued_to_length, ih later]
      simp only [tally_cons, Nat.add_mul, ite_mul, Nat.one_mul, Nat.zero_mul, Finset.sum_add_distrib,
        Finset.sum_ite_eq, if_pos here]
      exact Nat.add_comm _ _

theorem seam_glued (shingling : Shingling) (clauses : List ClauseDocument) (i : Nat) :
    seam (ClauseDocument.shingles shingling) clauses i =
      glued (clauses[i]?.elim [] (sources shingling)) (clauses[i + 1]?.elim [] (sources shingling)) := by
  rw [seam]
  cases clauses[i]? with
  | none => rfl
  | some left =>
      cases clauses[i + 1]? with
      | none => simp [glued, gluedTo]
      | some right => rfl

theorem sources_at (shingling : Shingling) (query : Query) (linked : query.Linked) (i : Nat) :
    query.toDocument.clauses[i]?.elim [] (sources shingling) =
      ((query.termsAt i).filter shingling.isSource).map fun word => (word.field, word.value) := by
  rw [clauses_get query linked, Query.termsAt, place_at_clause]
  cases listed : query.clauses[i]? with
  | none => rfl
  | some id =>
      obtain ⟨node, found⟩ := clause_present query id (linked_child query linked _ id (List.mem_of_getElem? listed)).2.1
      rw [Option.bind_some, Option.bind_some, view_found query linked id node found, place_found query id node found]
      cases node with
      | boolean group => rfl
      | term word => rfl
      | disjunctionMax group => exact sources_document shingling query linked id group

theorem tally_sources_at (shingling : Shingling) (query : Query) (linked : query.Linked) (field : Option String) (i : Nat) :
    tally (query.toDocument.clauses[i]?.elim [] (sources shingling)) field = query.sourceCount shingling field i := by
  rw [sources_at shingling query linked, tally, List.countP_map]
  rfl

theorem seam_count (shingling : Shingling) (query : Query) (linked : query.Linked) (field : Option String) (i : Nat) :
    (seam (ClauseDocument.shingles shingling) query.toDocument.clauses i).countP
      (fun clause => clause.field? = some field) = query.pairCount shingling field i := by
  rw [seam_glued, glued_count, tally_sources_at shingling query linked, tally_sources_at shingling query linked,
    Query.pairCount]

theorem term_field_known (query : Query) (id : ClauseId) (word : Term) (found : query.term? id = some word) :
    word.field ∈ query.fields := by
  obtain ⟨node, read, isTerm⟩ := Option.bind_eq_some_iff.mp found
  have member : node ∈ query.nodes.toList := Array.mem_toList_iff.mpr (Array.mem_of_getElem? read)
  exact List.mem_toFinset.mpr (List.mem_map.mpr ⟨word, List.mem_filterMap.mpr ⟨node, member, isTerm⟩, rfl⟩)

theorem source_field_known (query : Query) (i : Nat) (word : Term) (member : word ∈ query.termsAt i) :
    word.field ∈ query.fields := by
  obtain ⟨place, _, inside⟩ := terms_at_place query i word member
  obtain ⟨id, _, isTerm⟩ := List.mem_filterMap.mp inside
  exact term_field_known query id word isTerm

theorem seam_length (shingling : Shingling) (query : Query) (linked : query.Linked) (i : Nat) :
    (seam (ClauseDocument.shingles shingling) query.toDocument.clauses i).length =
      ∑ field ∈ query.fields, query.pairCount shingling field i := by
  have known : ∀ source ∈ query.toDocument.clauses[i]?.elim [] (sources shingling), source.1 ∈ query.fields := by
    intro source member
    rw [sources_at shingling query linked] at member
    obtain ⟨word, inside, same⟩ := List.mem_map.mp member
    rw [← same]
    exact source_field_known query i word (List.mem_filter.mp inside).1
  rw [seam_glued, glued_length _ _ query.fields known]
  simp only [tally_sources_at shingling query linked, Query.pairCount]

theorem run_pair_total (shingling : Shingling) (query : Query) (linked : query.Linked) :
    (shingling.run query).size = query.size + 2 * query.pairTotal shingling := by
  rw [run_size shingling query linked, clauses_length query linked, Query.pairTotal]
  simp only [seam_length shingling query linked]
  rfl

theorem source_counted (shingling : Shingling) (query : Query) (field : Option String) (i : Nat)
    (counted : query.sourceCount shingling field i ≠ 0) : i < query.clauses.length ∧ field ∈ query.fields := by
  obtain ⟨word, member, named⟩ := List.countP_pos_iff.mp (Nat.pos_of_ne_zero counted)
  have inside := (List.mem_filter.mp member).1
  obtain ⟨place, found, _⟩ := terms_at_place query i word inside
  obtain ⟨bound, _⟩ := List.getElem?_eq_some_iff.mp (place_at_listed query i place found)
  refine ⟨bound, ?_⟩
  rw [← of_decide_eq_true named]
  exact source_field_known query i word inside

theorem run_place_pairs (shingling : Shingling) (query : Query) (linked : query.Linked) (i : Nat) (occur : Occur)
    (generated : Bool) (clauses : List ClauseDocument)
    (place : query.toDocument.clauses[i]? = some (.disjunctionMax occur generated clauses)) :
    ∃ added, (shingling.run query).toDocument.clauses[i]? = some (.disjunctionMax occur generated (clauses ++ added)) ∧
      (∀ clause ∈ added, clause.GeneratedTerm) ∧
      ∀ field, added.countP (fun clause => clause.field? = some field) =
        query.pairCountBefore shingling field i + query.pairCount shingling field i := by
  refine ⟨seamBefore (ClauseDocument.shingles shingling) query.toDocument.clauses i ++
    seam (ClauseDocument.shingles shingling) query.toDocument.clauses i, ?_, seams_are_terms shingling _ i, ?_⟩
  · rw [run_document shingling query linked, shingled_get, place]
    rfl
  · intro field
    rw [List.countP_append, seam_count shingling query linked]
    cases i with
    | zero => rfl
    | succ i => rw [seamBefore, seam_count shingling query linked, Query.pairCountBefore]

theorem report_pair_total (shingling : Shingling) (query : Query) (linked : query.Linked) :
    query.size ≤ ((ExpandedQuery.new query).shingled shingling).userQuery.size ∧
      (ShingleReport.ofRun shingling query).termsAdded = 2 * query.pairTotal shingling := by
  have size : ((ExpandedQuery.new query).shingled shingling).userQuery.size = query.size + 2 * query.pairTotal shingling :=
    run_pair_total shingling query linked
  refine ⟨?_, ?_⟩
  · rw [size]
    exact Nat.le_add_right _ _
  · rw [ShingleReport.ofRun, size]
    exact Nat.add_sub_cancel_left _ _

theorem of_words_reachable (words : List String) (query : Query) (loaded : Query.ofWords words = .ok query) :
    query.Reachable := by
  obtain ⟨tokens, added⟩ := add_words_clauses (Query.new false) query words loaded
  exact ⟨_, .load ⟨false, tokens.map Token.clause⟩ query added⟩

theorem of_text_reachable (text : String) (query : Query) (loaded : Query.ofText text = .ok query) : query.Reachable := by
  obtain ⟨document, _, built⟩ := of_text_steps text query loaded
  exact ⟨_, .load document query built⟩

theorem load_query_reachable (inputs : Inputs) (arguments : Arguments) (query : Query)
    (loaded : Command.loadQuery inputs arguments = .ok query) : query.Reachable := by
  unfold Command.loadQuery at loaded
  split at loaded
  · cases loaded
  · cases loaded
  · exact of_words_reachable _ query (map_error_ok _ _ query loaded)
  · split at loaded
    · cases loaded
    · exact of_text_reachable _ query (map_error_ok _ _ query loaded)

/-- A pass adds to a place, for each field, the products of the numbers of sources at its two ends, all of them
generated terms, and to the whole query twice the sum of all products. The report of a run of the program says this
number, which is the difference of two sizes of which the second is no smaller. -/
theorem run_adds_pairs :
    (∀ query : Query, query.Reachable → ∀ shingling : Shingling,
      (∀ (i : Nat) (occur : Occur) (generated : Bool) (clauses : List ClauseDocument),
        query.toDocument.clauses[i]? = some (.disjunctionMax occur generated clauses) →
        ∃ added,
          (shingling.run query).toDocument.clauses[i]? = some (.disjunctionMax occur generated (clauses ++ added)) ∧
          (∀ clause ∈ added, clause.GeneratedTerm) ∧
          ∀ field, added.countP (fun clause => clause.field? = some field) =
            query.pairCountBefore shingling field i + query.pairCount shingling field i) ∧
      (∀ field i, query.sourceCount shingling field i ≠ 0 → i < query.clauses.length ∧ field ∈ query.fields) ∧
      (shingling.run query).size = query.size + 2 * query.pairTotal shingling) ∧
    ∀ (inputs : Inputs) (arguments : Arguments) (query : Query) (shingling : Shingling),
      Command.loadQuery inputs arguments = .ok query → Command.loadShingling inputs arguments = .ok shingling →
      Command.execute inputs arguments =
        .ok ((ShingleReport.ofRun shingling query).output "Shingled query" arguments) ∧
      query.size ≤ ((ExpandedQuery.new query).shingled shingling).userQuery.size ∧
      (ShingleReport.ofRun shingling query).termsAdded = 2 * query.pairTotal shingling := by
  constructor
  · intro query reachable shingling
    have linked := reachable_linked query reachable
    exact ⟨run_place_pairs shingling query linked, source_counted shingling query, run_pair_total shingling query linked⟩
  · intro inputs arguments query shingling loaded settings
    have linked := reachable_linked query (load_query_reachable inputs arguments query loaded)
    refine ⟨?_, report_pair_total shingling query linked⟩
    rw [Command.execute, loaded, settings]
    rfl

theorem run_adds_pairs_three_places :
    let query : Query := ⟨#[.boolean ⟨none, .should, false, [1, 5, 8]⟩,
      .disjunctionMax ⟨⟨0⟩, .should, false, [2, 3, 4]⟩, .term ⟨⟨1⟩, none, "a", false⟩,
      .term ⟨⟨1⟩, some "f", "b", false⟩, .term ⟨⟨1⟩, some "f", "c", true⟩,
      .disjunctionMax ⟨⟨0⟩, .should, false, [6, 7]⟩, .term ⟨⟨5⟩, none, "d", false⟩, .term ⟨⟨5⟩, some "f", "e", false⟩,
      .disjunctionMax ⟨⟨0⟩, .should, false, [9]⟩, .term ⟨⟨8⟩, some "f", "g", false⟩]⟩
    let inputs : Inputs := ⟨fun _ => .error .notFound, .ok ""⟩
    let arguments : Arguments := ⟨0, false, .human, false, ["a", "b", "c"], none, none, false⟩
    query.Reachable ∧ query.pairTotal ⟨true⟩ = 4 ∧ ((Shingling.mk true).run query).size = 18 ∧
      (∃ added, ((Shingling.mk true).run query).toDocument.clauses[1]? =
          some (.disjunctionMax .should false ([.term none "d" false, .term (some "f") "e" false] ++ added)) ∧
        added.countP (fun clause => clause.field? = some none) = 1 ∧
        added.countP (fun clause => clause.field? = some (some "f")) = 3) ∧
      Command.execute inputs arguments =
        .ok "Shingled query\n\nRewritten:   (\x7ba | ab*\x7d \x7bb | ab* | bc*\x7d \x7bc | bc*\x7d)\nTerms added: 4\n" := by
  intro query inputs arguments
  have reachable : query.Reachable := ⟨_, .load ⟨false,
    [.disjunctionMax .should false
      [.term none "a" false, .term (some "f") "b" false, .term (some "f") "c" true],
     .disjunctionMax .should false [.term none "d" false, .term (some "f") "e" false],
     .disjunctionMax .should false [.term (some "f") "g" false]]⟩ query rfl⟩
  have total : query.pairTotal ⟨true⟩ = 4 := by decide +kernel
  obtain ⟨places, _, size⟩ := run_adds_pairs.1 query reachable ⟨true⟩
  obtain ⟨added, shown, _, counts⟩ := places 1 .should false _ rfl
  rw [total] at size
  refine ⟨reachable, total, size, ⟨added, shown, ?_, ?_⟩, ?_⟩
  · exact (counts none).trans (by decide +kernel)
  · exact (counts (some "f")).trans (by decide +kernel)
  · have loaded : Command.loadQuery inputs arguments = .ok ⟨#[.boolean ⟨none, .should, false, [1, 3, 5]⟩,
        .disjunctionMax ⟨⟨0⟩, .should, false, [2]⟩, .term ⟨⟨1⟩, none, "a", false⟩,
        .disjunctionMax ⟨⟨0⟩, .should, false, [4]⟩, .term ⟨⟨3⟩, none, "b", false⟩,
        .disjunctionMax ⟨⟨0⟩, .should, false, [6]⟩, .term ⟨⟨5⟩, none, "c", false⟩]⟩ := by decide +kernel
    exact ((run_adds_pairs.2 inputs arguments _ ⟨false⟩ loaded rfl).1).trans (by decide +kernel)

end QueryShingles
