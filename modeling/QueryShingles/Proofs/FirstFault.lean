import Mathlib.Data.List.Basic
import QueryShingles.Error
import QueryShingles.Proofs.Results
import QueryShingles.Proofs.Spots

/-!
What is wrong with a document that does not load. Whether a clause may stand where it stands can be said
without looking further inside than whether it is empty. Loading fails at the first clause that may not,
in reading order, and a document that holds none is one of the grammar.
-/

set_option autoImplicit false

namespace QueryShingles

open ClauseDocument

def ClauseDocument.isTerm : ClauseDocument → Bool
  | .term _ _ _ => true
  | _ => false

def Spot.fault? (spot : Spot) : Option StructureError :=
  match spot.alternative, spot.clause with
  | false, .disjunctionMax _ _ clauses => if clauses.isEmpty then some .emptyDisjunctionMax else none
  | false, .term _ value _ => some (.bareTerm value)
  | true, .disjunctionMax _ _ _ => some .nestedDisjunctionMax
  | _, _ => none

/-- The clauses of boolean groups, and those of the document itself, are groups; those of disjunction max groups are
terms and boolean groups, and there is at least one of them. -/
structure Document.InGrammar (document : Document) : Prop where
  top : ∀ clause ∈ document.clauses, clause.isTerm = false
  boolean : ∀ spot ∈ document.spots, ∀ occur generated clauses, spot.clause = .boolean occur generated clauses →
    ∀ clause ∈ clauses, clause.isTerm = false
  disjunctionMax : ∀ spot ∈ document.spots, ∀ occur generated clauses,
    spot.clause = .disjunctionMax occur generated clauses →
      clauses ≠ [] ∧ ∀ clause ∈ clauses, clause.isPlace = false

def faultOf? {α : Type} : Except StructureError α → Option StructureError
  | .ok _ => none
  | .error fault => some fault

theorem fault_of_some_iff {α : Type} (result : Except StructureError α) (fault : StructureError) :
    faultOf? result = some fault ↔ result = .error fault := by
  cases result <;> simp [faultOf?]

theorem fault_of_none_iff {α : Type} (result : Except StructureError α) :
    faultOf? result = none ↔ ∃ value, result = .ok value := by
  cases result <;> simp [faultOf?]

mutual
theorem add_clause_fault (up : BooleanId) (query : Query) (parent index : ClauseId) (clause : ClauseDocument) :
    faultOf? (query.addClause up clause) = (clause.spots parent index false).findSome? Spot.fault? := by
  cases clause with
  | boolean occur generated clauses => exact add_clauses_fault _ _ index (index + 1) clauses
  | disjunctionMax occur generated clauses =>
      rw [spots, List.findSome?_cons]
      by_cases empty : clauses.isEmpty
      · simp only [Query.addClause, Spot.fault?, if_pos empty, faultOf?]
      · simp only [Query.addClause, Spot.fault?, if_neg empty]
        exact add_alternatives_fault _ _ index (index + 1) clauses
  | term field value generated => rfl
theorem add_clauses_fault (up : BooleanId) (query : Query) (parent index : ClauseId) (clauses : List ClauseDocument) :
    faultOf? (query.addClauses up clauses) = (spotsAll parent index false clauses).findSome? Spot.fault? := by
  cases clauses with
  | nil => rfl
  | cons clause rest =>
      rw [spotsAll, List.findSome?_append, ← add_clause_fault up query parent index clause]
      cases first : query.addClause up clause with
      | error fault => simp [Query.addClauses, first, faultOf?]
      | ok next =>
          rw [← add_clauses_fault up next parent (index + clause.count) rest]
          simp [Query.addClauses, first, faultOf?]
theorem add_alternative_fault (up : DisjunctionMaxId) (query : Query) (parent index : ClauseId)
    (clause : ClauseDocument) :
    faultOf? (query.addAlternativeTree up clause) = (clause.spots parent index true).findSome? Spot.fault? := by
  cases clause with
  | boolean occur generated clauses => exact add_clauses_fault _ _ index (index + 1) clauses
  | disjunctionMax occur generated clauses => rfl
  | term field value generated => rfl
theorem add_alternatives_fault (up : DisjunctionMaxId) (query : Query) (parent index : ClauseId)
    (clauses : List ClauseDocument) :
    faultOf? (query.addAlternatives up clauses) = (spotsAll parent index true clauses).findSome? Spot.fault? := by
  cases clauses with
  | nil => rfl
  | cons clause rest =>
      rw [spotsAll, List.findSome?_append, ← add_alternative_fault up query parent index clause]
      cases first : query.addAlternativeTree up clause with
      | error fault => simp [Query.addAlternatives, first, faultOf?]
      | ok next =>
          rw [← add_alternatives_fault up next parent (index + clause.count) rest]
          simp [Query.addAlternatives, first, faultOf?]
end

theorem to_query_fault (document : Document) :
    faultOf? document.toQuery = document.spots.findSome? Spot.fault? :=
  add_clauses_fault Query.root (Query.new document.generated) 0 1 document.clauses

theorem group_fault_none_iff (spot : Spot) (ordinary : spot.alternative = false) :
    spot.fault? = none ↔ spot.clause.isTerm = false ∧ (spot.clause.isPlace = true → spot.clause.inner ≠ []) := by
  obtain ⟨index, parent, alternative, clause⟩ := spot
  cases ordinary
  cases clause <;> simp [Spot.fault?, ClauseDocument.isTerm, ClauseDocument.isPlace, ClauseDocument.inner]

theorem alternative_fault_none_iff (spot : Spot) (alternative : spot.alternative = true) :
    spot.fault? = none ↔ spot.clause.isPlace = false := by
  obtain ⟨index, parent, flag, clause⟩ := spot
  cases alternative
  cases clause <;> simp [Spot.fault?, ClauseDocument.isPlace]

theorem grammar_fault_free (document : Document) (grammatical : document.InGrammar) :
    ∀ spot ∈ document.spots, spot.fault? = none := by
  intro spot member
  have filled : spot.clause.isPlace = true → spot.clause.inner ≠ [] := by
    intro place
    cases same : spot.clause with
    | boolean occur generated clauses => simp [same, ClauseDocument.isPlace] at place
    | term field value generated => simp [same, ClauseDocument.isPlace] at place
    | disjunctionMax occur generated clauses =>
        exact (grammatical.disjunctionMax spot member occur generated clauses same).1
  rcases document_spots_up document spot member with ⟨_, ordinary, listed⟩ | ⟨outer, above, _, kind, inside⟩
  · exact (group_fault_none_iff spot ordinary).mpr ⟨grammatical.top spot.clause listed, filled⟩
  · cases same : outer.clause with
    | boolean occur generated clauses =>
        rw [same] at kind inside
        have group := grammatical.boolean outer above occur generated clauses same spot.clause inside
        exact (group_fault_none_iff spot kind).mpr ⟨group, filled⟩
    | disjunctionMax occur generated clauses =>
        rw [same] at kind inside
        exact (alternative_fault_none_iff spot kind).mpr
          ((grammatical.disjunctionMax outer above occur generated clauses same).2 spot.clause inside)
    | term field value generated =>
        rw [same] at inside
        cases inside

theorem fault_free_grammar (document : Document) (sound : ∀ spot ∈ document.spots, spot.fault? = none) :
    document.InGrammar where
  top := by
    intro clause member
    obtain ⟨spot, listed, _, ordinary, same⟩ := spots_all_direct 0 1 false document.clauses clause member
    rw [← same]
    exact ((group_fault_none_iff spot ordinary).mp (sound spot listed)).1
  boolean := by
    intro outer member occur generated clauses boolean clause inside
    obtain ⟨spot, listed, same, _, kind, _⟩ := document_spots_inner document outer member clause (boolean ▸ inside)
    rw [boolean] at kind
    rw [← same]
    exact ((group_fault_none_iff spot kind).mp (sound spot listed)).1
  disjunctionMax := by
    intro outer member occur generated clauses place
    constructor
    · -- Inside another group of its kind it would be a fault, so it stands where it is asked to be filled.
      intro empty
      have fault := sound outer member
      cases kind : outer.alternative with
      | false => exact ((group_fault_none_iff outer kind).mp fault).2 (place ▸ rfl) (place ▸ empty)
      | true =>
          have other := (alternative_fault_none_iff outer kind).mp fault
          rw [place] at other
          cases other
    · intro clause inside
      obtain ⟨spot, listed, same, _, kind, _⟩ := document_spots_inner document outer member clause (place ▸ inside)
      rw [place] at kind
      rw [← same]
      exact (alternative_fault_none_iff spot kind).mp (sound spot listed)

theorem structure_message_injective : Function.Injective StructureError.message := by
  intro a b same
  have heads := congrArg (fun text => text.toList.head?) same
  cases a <;> cases b
  case emptyDisjunctionMax.emptyDisjunctionMax | nestedDisjunctionMax.nestedDisjunctionMax => rfl
  case emptyDisjunctionMax.nestedDisjunctionMax | nestedDisjunctionMax.emptyDisjunctionMax =>
    simp [StructureError.message] at same
  case bareTerm.bareTerm => simpa [StructureError.message] using same
  -- A bare term is told from the others by the letter that its message starts with.
  all_goals simp [StructureError.message] at heads

theorem query_message_injective (a b : StructureError) (same : (Error.query a).message = (Error.query b).message) :
    a = b :=
  structure_message_injective (String.append_right_inj _ |>.mp same)

theorem first_fault_iff (document : Document) (fault : StructureError) :
    document.toQuery = .error fault ↔
      ∃ before spot behind, document.spots = before ++ spot :: behind ∧ spot.fault? = some fault ∧
        ∀ earlier ∈ before, earlier.fault? = none := by
  rw [← fault_of_some_iff, to_query_fault, List.findSome?_eq_some_iff]

/-- A document loads if it is one of the grammar, and else fails for its first clause that may not stand where it
stands. The text of the report tells which fault that is. -/
theorem loads_or_first_fault (document : Document) :
    ((∃ query, document.toQuery = .ok query) ↔ document.InGrammar) ∧
    ∀ error, document.toQuery.mapError Error.query = .error error ↔
      ∃ before spot behind fault, document.spots = before ++ spot :: behind ∧
        (∀ earlier ∈ before, earlier.fault? = none) ∧ spot.fault? = some fault ∧ error = .query fault ∧
        ∀ other : StructureError, (Error.query other).message = error.message → other = fault := by
  constructor
  · rw [← fault_of_none_iff, to_query_fault, List.findSome?_eq_none_iff]
    exact ⟨fault_free_grammar document, grammar_fault_free document⟩
  · intro error
    rw [map_error_error_iff]
    constructor
    · rintro ⟨fault, failed, rfl⟩
      obtain ⟨before, spot, behind, order, found, earlier⟩ := (first_fault_iff document fault).mp failed
      exact ⟨before, spot, behind, fault, order, earlier, found, rfl, fun other => query_message_injective other fault⟩
    · rintro ⟨before, spot, behind, fault, order, earlier, found, rfl, _⟩
      exact ⟨fault, (first_fault_iff document fault).mpr ⟨before, spot, behind, order, found, earlier⟩, rfl⟩

example : (Document.mk false
    [.boolean .must false [.disjunctionMax .should false [.term none "a" false, .disjunctionMax .should false []]],
     .disjunctionMax .should false [], .term none "b" false]).toQuery = .error .nestedDisjunctionMax := rfl

end QueryShingles
