import QueryShingles.Proofs.Numbering

/-!
The clauses of a document, at all depths, in the order in which they are read. A clause stands in front
of those in it, and is numbered by its place in this order, from 1 on; 0 is the document itself.
-/

set_option autoImplicit false

namespace QueryShingles

/-- A clause with its number, the number of what it is directly in, and whether that is a disjunction max group. -/
structure Spot where
  index : ClauseId
  parent : ClauseId
  alternative : Bool
  clause : ClauseDocument

namespace ClauseDocument

def inner : ClauseDocument → List ClauseDocument
  | .boolean _ _ clauses => clauses
  | .disjunctionMax _ _ clauses => clauses
  | .term _ _ _ => []

def isPlace : ClauseDocument → Bool
  | .disjunctionMax _ _ _ => true
  | _ => false

mutual
def spots (parent index : ClauseId) (alternative : Bool) : ClauseDocument → List Spot
  | .boolean occur generated clauses =>
      ⟨index, parent, alternative, .boolean occur generated clauses⟩ :: spotsAll index (index + 1) false clauses
  | .disjunctionMax occur generated clauses =>
      ⟨index, parent, alternative, .disjunctionMax occur generated clauses⟩ :: spotsAll index (index + 1) true clauses
  | .term field value generated => [⟨index, parent, alternative, .term field value generated⟩]
def spotsAll (parent index : ClauseId) (alternative : Bool) : List ClauseDocument → List Spot
  | [] => []
  | clause :: rest =>
      spots parent index alternative clause ++ spotsAll parent (index + clause.count) alternative rest
end

end ClauseDocument

def Document.spots (document : Document) : List Spot := ClauseDocument.spotsAll 0 1 false document.clauses

def Spot.Holds (outer spot : Spot) : Prop :=
  spot.parent = outer.index ∧ spot.alternative = outer.clause.isPlace ∧ spot.clause ∈ outer.clause.inner

open ClauseDocument

theorem spots_step (parent index : ClauseId) (alternative : Bool) (clause : ClauseDocument) :
    clause.spots parent index alternative =
      ⟨index, parent, alternative, clause⟩ :: spotsAll index (index + 1) clause.isPlace clause.inner := by
  cases clause <;> rfl

mutual
theorem spots_indices (parent index : ClauseId) (alternative : Bool) (clause : ClauseDocument) :
    (clause.spots parent index alternative).map Spot.index = List.range' index clause.count := by
  cases clause with
  | boolean occur generated clauses =>
      rw [spots, List.map_cons, spots_all_indices, count, Nat.add_comm 1, List.range'_succ]
  | disjunctionMax occur generated clauses =>
      rw [spots, List.map_cons, spots_all_indices, count, Nat.add_comm 1, List.range'_succ]
  | term field value generated => rfl
theorem spots_all_indices (parent index : ClauseId) (alternative : Bool) (clauses : List ClauseDocument) :
    (spotsAll parent index alternative clauses).map Spot.index = List.range' index (countAll clauses) := by
  cases clauses with
  | nil => rfl
  | cons clause rest =>
      rw [spotsAll, List.map_append, spots_indices, spots_all_indices, List.range'_append_1, countAll]
end

theorem document_spots_indices (document : Document) :
    document.spots.map Spot.index = List.range' 1 (countAll document.clauses) :=
  spots_all_indices 0 1 false document.clauses

theorem spots_all_direct (parent index : ClauseId) (alternative : Bool) (clauses : List ClauseDocument)
    (clause : ClauseDocument) (member : clause ∈ clauses) :
    ∃ spot ∈ spotsAll parent index alternative clauses, spot.parent = parent ∧ spot.alternative = alternative ∧
      spot.clause = clause := by
  induction clauses generalizing index with
  | nil => cases member
  | cons first rest ih =>
      rw [spotsAll]
      rcases List.mem_cons.mp member with here | later
      · refine ⟨⟨index, parent, alternative, first⟩, List.mem_append_left _ ?_, rfl, rfl, here.symm⟩
        rw [spots_step]
        exact List.mem_cons_self
      · obtain ⟨spot, listed, same⟩ := ih (index + first.count) later
        exact ⟨spot, List.mem_append_right _ listed, same⟩

mutual
theorem spots_up (parent index : ClauseId) (alternative : Bool) (clause : ClauseDocument) (spot : Spot)
    (member : spot ∈ clause.spots parent index alternative) :
    spot = ⟨index, parent, alternative, clause⟩ ∨
      ∃ outer ∈ clause.spots parent index alternative, outer.Holds spot := by
  cases clause with
  | boolean occur generated clauses =>
      rw [spots] at member ⊢
      rcases List.mem_cons.mp member with here | deeper
      · exact .inl here
      · exact .inr ((List.exists_mem_cons_iff _ _ _).mpr (spots_all_up index (index + 1) false clauses spot deeper))
  | disjunctionMax occur generated clauses =>
      rw [spots] at member ⊢
      rcases List.mem_cons.mp member with here | deeper
      · exact .inl here
      · exact .inr ((List.exists_mem_cons_iff _ _ _).mpr (spots_all_up index (index + 1) true clauses spot deeper))
  | term field value generated => exact .inl (List.mem_singleton.mp member)
theorem spots_all_up (parent index : ClauseId) (alternative : Bool) (clauses : List ClauseDocument) (spot : Spot)
    (member : spot ∈ spotsAll parent index alternative clauses) :
    (spot.parent = parent ∧ spot.alternative = alternative ∧ spot.clause ∈ clauses) ∨
      ∃ outer ∈ spotsAll parent index alternative clauses, outer.Holds spot := by
  cases clauses with
  | nil => cases member
  | cons clause rest =>
      rw [spotsAll] at member ⊢
      rcases List.mem_append.mp member with first | later
      · rcases spots_up parent index alternative clause spot first with same | ⟨outer, listed, holds⟩
        · rw [same]
          exact .inl ⟨rfl, rfl, List.mem_cons_self⟩
        · exact .inr ⟨outer, List.mem_append_left _ listed, holds⟩
      · rcases spots_all_up parent _ alternative rest spot later with ⟨up, kind, direct⟩ | ⟨outer, listed, holds⟩
        · exact .inl ⟨up, kind, List.mem_cons_of_mem _ direct⟩
        · exact .inr ⟨outer, List.mem_append_right _ listed, holds⟩
end

theorem document_spots_up (document : Document) (spot : Spot) (member : spot ∈ document.spots) :
    (spot.parent = 0 ∧ spot.alternative = false ∧ spot.clause ∈ document.clauses) ∨
      ∃ outer ∈ document.spots, outer.Holds spot :=
  spots_all_up 0 1 false document.clauses spot member

mutual
theorem spots_within (parent index : ClauseId) (alternative : Bool) (clause : ClauseDocument) (spot : Spot)
    (member : spot ∈ clause.spots parent index alternative) :
    spot.clause.spots spot.parent spot.index spot.alternative ⊆ clause.spots parent index alternative := by
  cases clause with
  | boolean occur generated clauses =>
      rcases List.mem_cons.mp member with here | deeper
      · rw [here]
        exact List.Subset.refl _
      · exact List.subset_cons_of_subset _ (spots_all_within index (index + 1) false clauses spot deeper)
  | disjunctionMax occur generated clauses =>
      rcases List.mem_cons.mp member with here | deeper
      · rw [here]
        exact List.Subset.refl _
      · exact List.subset_cons_of_subset _ (spots_all_within index (index + 1) true clauses spot deeper)
  | term field value generated =>
      rw [List.mem_singleton.mp member]
      exact List.Subset.refl _
theorem spots_all_within (parent index : ClauseId) (alternative : Bool) (clauses : List ClauseDocument) (spot : Spot)
    (member : spot ∈ spotsAll parent index alternative clauses) :
    spot.clause.spots spot.parent spot.index spot.alternative ⊆ spotsAll parent index alternative clauses := by
  cases clauses with
  | nil => cases member
  | cons clause rest =>
      rcases List.mem_append.mp member with first | later
      · exact List.subset_append_of_subset_left _ (spots_within parent index alternative clause spot first)
      · exact List.subset_append_of_subset_right _ (spots_all_within parent _ alternative rest spot later)
end

theorem document_spots_inner (document : Document) (outer : Spot) (member : outer ∈ document.spots)
    (clause : ClauseDocument) (inside : clause ∈ outer.clause.inner) :
    ∃ spot ∈ document.spots, spot.clause = clause ∧ outer.Holds spot := by
  have within := spots_all_within 0 1 false document.clauses outer member
  rw [spots_step] at within
  obtain ⟨spot, listed, up, kind, same⟩ := spots_all_direct outer.index (outer.index + 1) outer.clause.isPlace
    outer.clause.inner clause inside
  exact ⟨spot, within (List.mem_cons_of_mem _ listed), same, up, kind, same ▸ inside⟩

end QueryShingles
