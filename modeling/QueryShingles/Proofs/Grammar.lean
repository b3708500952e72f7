import QueryShingles.Json.Reader
import QueryShingles.Proofs.Seam

/-!
Three things that can be said of a document without building its query: whether its clauses stand
where they may, what it is read back as, and how deep its text nests. A pass of the shingles leaves
each of them as it is.
-/

set_option autoImplicit false

namespace QueryShingles

namespace ClauseDocument

mutual
def fits (alternative : Bool) : ClauseDocument → Bool
  | .boolean _ _ clauses => fitsAll false clauses
  | .disjunctionMax _ _ clauses => !alternative && !clauses.isEmpty && fitsAll true clauses
  | .term _ _ _ => alternative
def fitsAll (alternative : Bool) : List ClauseDocument → Bool
  | [] => true
  | clause :: rest => fits alternative clause && fitsAll alternative rest
end

mutual
/-- A clause as it is read back: a boolean group among alternatives loses its occurrence. -/
def settle (alternative : Bool) : ClauseDocument → ClauseDocument
  | .boolean occur generated clauses =>
      .boolean (if alternative then .should else occur) generated (settleAll false clauses)
  | .disjunctionMax occur generated clauses => .disjunctionMax occur generated (settleAll true clauses)
  | .term field value generated => .term field value generated
def settleAll (alternative : Bool) : List ClauseDocument → List ClauseDocument
  | [] => []
  | clause :: rest => settle alternative clause :: settleAll alternative rest
end

mutual
/-- How many brackets of a text are open at once inside a clause. A group has two of its own. -/
def nest : ClauseDocument → Nat
  | .boolean _ _ clauses => 2 + nestAll clauses
  | .disjunctionMax _ _ clauses => 2 + nestAll clauses
  | .term _ _ _ => 1
def nestAll : List ClauseDocument → Nat
  | [] => 0
  | clause :: rest => max (nest clause) (nestAll rest)
end

end ClauseDocument

def Document.fits (document : Document) : Bool := ClauseDocument.fitsAll false document.clauses

def Document.settle (document : Document) : Document :=
  { document with clauses := ClauseDocument.settleAll false document.clauses }

def Document.nest (document : Document) : Nat := 2 + ClauseDocument.nestAll document.clauses

open ClauseDocument

theorem fits_all_iff (alternative : Bool) (clauses : List ClauseDocument) :
    fitsAll alternative clauses = true ↔ ∀ clause ∈ clauses, clause.fits alternative = true := by
  induction clauses with
  | nil => simp [fitsAll]
  | cons clause rest ih => simp [fitsAll, ih]

theorem settle_all_map (alternative : Bool) (clauses : List ClauseDocument) :
    settleAll alternative clauses = clauses.map (settle alternative) := by
  induction clauses with
  | nil => rfl
  | cons clause rest ih => rw [settleAll, ih, List.map_cons]

theorem nest_all_le_iff (clauses : List ClauseDocument) (bound : Nat) :
    nestAll clauses ≤ bound ↔ ∀ clause ∈ clauses, clause.nest ≤ bound := by
  induction clauses with
  | nil => simp [nestAll]
  | cons clause rest ih => rw [nestAll, Nat.max_le, ih, List.forall_mem_cons]

theorem document_nest (generated : Bool) (clauses : List ClauseDocument) :
    (Document.mk generated clauses).nest = 1 + (1 + nestAll clauses) := by
  rw [Document.nest, ← Nat.add_assoc]

theorem nest_positive (clause : ClauseDocument) : 1 ≤ clause.nest := by
  cases clause <;> simp [ClauseDocument.nest] <;> omega

mutual
theorem settle_fits (outer alternative : Bool) (clause : ClauseDocument) :
    (clause.settle outer).fits alternative = clause.fits alternative := by
  cases clause with
  | boolean occur generated clauses =>
      rw [settle, ClauseDocument.fits, ClauseDocument.fits, settle_all_fits]
  | disjunctionMax occur generated clauses =>
      rw [settle, ClauseDocument.fits, ClauseDocument.fits, settle_all_fits]
      cases clauses <;> rfl
  | term field value generated => rfl
theorem settle_all_fits (outer alternative : Bool) (clauses : List ClauseDocument) :
    fitsAll alternative (settleAll outer clauses) = fitsAll alternative clauses := by
  cases clauses with
  | nil => rfl
  | cons clause rest => rw [settleAll, fitsAll, fitsAll, settle_fits, settle_all_fits]
end

mutual
theorem settle_settle (alternative : Bool) (clause : ClauseDocument) :
    (clause.settle alternative).settle alternative = clause.settle alternative := by
  cases clause with
  | boolean occur generated clauses => cases alternative <;> simp [settle, settle_all_settle]
  | disjunctionMax occur generated clauses => simp [settle, settle_all_settle]
  | term field value generated => rfl
theorem settle_all_settle (alternative : Bool) (clauses : List ClauseDocument) :
    settleAll alternative (settleAll alternative clauses) = settleAll alternative clauses := by
  cases clauses with
  | nil => rfl
  | cons clause rest => simp [settleAll, settle_settle, settle_all_settle]
end

mutual
theorem settle_nest (alternative : Bool) (clause : ClauseDocument) :
    (clause.settle alternative).nest = clause.nest := by
  cases clause with
  | boolean occur generated clauses => simp [settle, ClauseDocument.nest, settle_all_nest]
  | disjunctionMax occur generated clauses => simp [settle, ClauseDocument.nest, settle_all_nest]
  | term field value generated => rfl
theorem settle_all_nest (alternative : Bool) (clauses : List ClauseDocument) :
    nestAll (settleAll alternative clauses) = nestAll clauses := by
  cases clauses with
  | nil => rfl
  | cons clause rest => simp [settleAll, nestAll, settle_nest, settle_all_nest]
end

theorem shingled_member (shingling : Shingling) (document : Document) (clause : ClauseDocument)
    (member : clause ∈ (document.shingled shingling).clauses) :
    ∃ old ∈ document.clauses, ∃ more : List ClauseDocument, clause = old.extend more ∧
      ∀ word ∈ more, ∃ field value, word = .term field value true := by
  obtain ⟨i, bound, same⟩ := List.mem_mapIdx.mp member
  exact ⟨_, List.getElem_mem bound, _, same.symm, seams_are_terms shingling document.clauses i⟩

theorem extend_fits (clause : ClauseDocument) (more : List ClauseDocument)
    (terms : ∀ word ∈ more, ∃ field value, word = .term field value true) (fitting : clause.fits false = true) :
    (clause.extend more).fits false = true := by
  cases clause with
  | boolean occur generated clauses => exact fitting
  | term field value generated => exact fitting
  | disjunctionMax occur generated clauses =>
      have parts : clauses ≠ [] ∧ ∀ clause ∈ clauses, clause.fits true = true := by
        simpa [ClauseDocument.fits, fits_all_iff] using fitting
      have all : ∀ clause ∈ clauses ++ more, clause.fits true = true := by
        intro clause member
        rcases List.mem_append.mp member with old | new
        · exact parts.2 clause old
        · obtain ⟨field, value, same⟩ := terms clause new
          rw [same, ClauseDocument.fits]
      simp only [extend, ClauseDocument.fits, (fits_all_iff true _).mpr all]
      simp [parts.1]

theorem shingled_fits (shingling : Shingling) (document : Document) (fitting : document.fits = true) :
    (document.shingled shingling).fits = true := by
  refine (fits_all_iff false _).mpr ?_
  intro clause member
  obtain ⟨old, isOld, more, same, terms⟩ := shingled_member shingling document clause member
  rw [same]
  exact extend_fits old more terms ((fits_all_iff false _).mp fitting old isOld)

theorem extend_settled (clause : ClauseDocument) (more : List ClauseDocument)
    (terms : ∀ word ∈ more, ∃ field value, word = .term field value true) (settled : clause.settle false = clause) :
    (clause.extend more).settle false = clause.extend more := by
  cases clause with
  | boolean occur generated clauses => exact settled
  | term field value generated => rfl
  | disjunctionMax occur generated clauses =>
      have old : settleAll true clauses = clauses := by simpa [settle] using settled
      have new : more.map (settle true) = more := by
        have same : more.map (settle true) = more.map id := by
          refine List.map_congr_left ?_
          intro word member
          obtain ⟨field, value, isTerm⟩ := terms word member
          rw [isTerm]
          rfl
        rw [same, List.map_id]
      rw [extend, settle, settle_all_map, List.map_append, ← settle_all_map, old, new]

theorem shingled_settled (shingling : Shingling) (document : Document) (settled : document.settle = document) :
    (document.shingled shingling).settle = document.shingled shingling := by
  have each : ∀ clause ∈ document.clauses, clause.settle false = clause := by
    have all : document.clauses.map (settle false) = document.clauses := by
      rw [← settle_all_map]
      exact congrArg Document.clauses settled
    rw [← List.map_id document.clauses, List.map_map] at all
    exact fun clause member => List.map_inj_left.mp all clause member
  have all : (document.shingled shingling).clauses.map (settle false) = (document.shingled shingling).clauses := by
    have same : (document.shingled shingling).clauses.map (settle false) =
        (document.shingled shingling).clauses.map id := by
      refine List.map_congr_left ?_
      intro clause member
      obtain ⟨old, isOld, more, extended, terms⟩ := shingled_member shingling document clause member
      rw [extended]
      exact extend_settled old more terms (each old isOld)
    rw [same, List.map_id]
  rw [Document.settle, settle_all_map, all]

theorem extend_nest (clause : ClauseDocument) (more : List ClauseDocument)
    (terms : ∀ word ∈ more, ∃ field value, word = .term field value true) (fitting : clause.fits false = true) :
    (clause.extend more).nest ≤ clause.nest := by
  cases clause with
  | boolean occur generated clauses => exact Nat.le_refl _
  | term field value generated => exact Nat.le_refl _
  | disjunctionMax occur generated clauses =>
      have nonempty : clauses ≠ [] := by
        intro empty
        simp [empty, ClauseDocument.fits] at fitting
      obtain ⟨first, member⟩ := List.exists_mem_of_ne_nil clauses nonempty
      have positive : 1 ≤ nestAll clauses :=
        Nat.le_trans (nest_positive first) ((nest_all_le_iff clauses _).mp (Nat.le_refl _) first member)
      have all : nestAll (clauses ++ more) ≤ nestAll clauses := by
        refine (nest_all_le_iff _ _).mpr ?_
        intro clause member
        rcases List.mem_append.mp member with old | new
        · exact (nest_all_le_iff clauses _).mp (Nat.le_refl _) clause old
        · obtain ⟨field, value, same⟩ := terms clause new
          rw [same]
          exact positive
      exact Nat.add_le_add_left all 2

theorem shingled_nest (shingling : Shingling) (document : Document) (fitting : document.fits = true) :
    (document.shingled shingling).nest ≤ document.nest := by
  refine Nat.add_le_add_left ((nest_all_le_iff _ _).mpr ?_) 2
  intro clause member
  obtain ⟨old, isOld, more, same, terms⟩ := shingled_member shingling document clause member
  rw [same]
  exact Nat.le_trans (extend_nest old more terms ((fits_all_iff false _).mp fitting old isOld))
    ((nest_all_le_iff _ _).mp (Nat.le_refl _) old isOld)

end QueryShingles
