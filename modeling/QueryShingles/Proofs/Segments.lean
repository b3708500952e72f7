import Mathlib.Data.List.Basic
import QueryShingles.Proofs.Loading
import QueryShingles.Proofs.Passes

/-!
Where two neighbours share no field, a query falls into segments. Nothing is glued over such a seam,
now or in a later pass, for what a pass adds to a clause has a field that the clause has already. So
each segment becomes what it would have become alone.
-/

set_option autoImplicit false

namespace QueryShingles

open ClauseDocument

section

variable {α β : Type} (join : α → α → List β) (front back : List α)

def Severed : Prop := ∀ left ∈ front.getLast?, ∀ right ∈ back.head?, join left right = []

theorem seam_front (severed : Severed join front back) (i : Nat) (inside : i < front.length) :
    seam join (front ++ back) i = seam join front i := by
  rcases Nat.lt_or_ge (i + 1) front.length with next | final
  · rw [seam, seam, List.getElem?_append_left inside, List.getElem?_append_left next]
  · have length : front.length = i + 1 := Nat.le_antisymm final inside
    have isLast : front[i]? = front.getLast? := by
      rw [List.getLast?_eq_getElem?, length, Nat.add_sub_cancel]
    have isHead : (front ++ back)[i + 1]? = back.head? := by
      rw [List.getElem?_append_right final, length, Nat.sub_self, List.head?_eq_getElem?]
    rw [seam, seam, List.getElem?_append_left inside, isHead, isLast, List.getElem?_eq_none final]
    cases last : front.getLast? with
    | none => rfl
    | some left =>
        cases head : back.head? with
        | none => rfl
        | some right => exact severed left last right head

theorem seam_back (i : Nat) : seam join (front ++ back) (i + front.length) = seam join back i := by
  have shift : ∀ j, (front ++ back)[j + front.length]? = back[j]? := by
    intro j
    rw [List.getElem?_append_right (Nat.le_add_left _ _), Nat.add_sub_cancel]
  rw [seam, seam, shift, Nat.add_right_comm, shift]

theorem seam_before_front (severed : Severed join front back) (i : Nat) (inside : i < front.length) :
    seamBefore join (front ++ back) i = seamBefore join front i := by
  cases i with
  | zero => rfl
  | succ i => exact seam_front join front back severed i (Nat.lt_of_succ_lt inside)

theorem seam_before_back (severed : Severed join front back) (i : Nat) :
    seamBefore join (front ++ back) (i + front.length) = seamBefore join back i := by
  cases i with
  | succ i =>
      rw [Nat.add_right_comm]
      exact seam_back join front back i
  | zero =>
      cases length : front.length with
      | zero => rfl
      | succ last =>
          have nothing : seam join front last = [] := by
            rw [seam, List.getElem?_eq_none (Nat.le_of_eq length)]
            cases front[last]? <;> rfl
          rw [Nat.zero_add]
          exact (seam_front join front back severed last (by omega)).trans nothing

end

namespace ClauseDocument

def field? : ClauseDocument → Option (Option String)
  | .term field _ _ => some field
  | _ => none

def fields : ClauseDocument → List (Option String)
  | .disjunctionMax _ _ clauses => clauses.filterMap field?
  | _ => []

end ClauseDocument

/-- The two clauses that meet are no two disjunction max groups with a field in common. -/
def Apart (front back : List ClauseDocument) : Prop :=
  ∀ left ∈ front.getLast?, ∀ right ∈ back.head?, left.fields.Disjoint right.fields

theorem source_field (shingling : Shingling) (clause : ClauseDocument) (source : Option String × String)
    (member : source ∈ clause.sources shingling) : source.1 ∈ clause.fields := by
  cases clause with
  | boolean occur generated clauses => cases member
  | term field value generated => cases member
  | disjunctionMax occur generated clauses =>
      obtain ⟨inner, inside, isSource⟩ := List.mem_filterMap.mp member
      refine List.mem_filterMap.mpr ⟨inner, inside, ?_⟩
      cases inner with
      | boolean occur generated clauses => simp [source?] at isSource
      | disjunctionMax occur generated clauses => simp [source?] at isSource
      | term field value generated =>
          rw [source?, Option.ite_none_right_eq_some] at isSource
          cases isSource.2
          rfl

theorem shingle_field (shingling : Shingling) (left right clause : ClauseDocument)
    (member : clause ∈ ClauseDocument.shingles shingling left right) :
    ∃ field value, clause = .term field value true ∧ field ∈ left.fields ∧ field ∈ right.fields := by
  obtain ⟨l, fromLeft, member⟩ := List.mem_flatMap.mp member
  obtain ⟨r, chosen, same⟩ := List.mem_map.mp member
  obtain ⟨fromRight, equal⟩ := List.mem_filter.mp chosen
  have shared : l.1 = r.1 := of_decide_eq_true equal
  refine ⟨l.1, l.2 ++ r.2, same.symm, source_field shingling left l fromLeft, ?_⟩
  rw [shared]
  exact source_field shingling right r fromRight

theorem apart_severed (shingling : Shingling) (front back : List ClauseDocument) (apart : Apart front back) :
    Severed (ClauseDocument.shingles shingling) front back := by
  intro left isLast right isHead
  apply List.eq_nil_iff_forall_not_mem.mpr
  intro clause member
  obtain ⟨field, value, _, inLeft, inRight⟩ := shingle_field shingling left right clause member
  exact apart left isLast right isHead inLeft inRight

theorem seams_field (shingling : Shingling) (clauses : List ClauseDocument) (i : Nat) (clause added : ClauseDocument)
    (found : clauses[i]? = some clause)
    (member : added ∈ seamBefore (ClauseDocument.shingles shingling) clauses i ++
      seam (ClauseDocument.shingles shingling) clauses i) :
    ∃ field ∈ clause.fields, added.field? = some field := by
  obtain ⟨left, right, joined, place⟩ := seams_member _ clauses i added member
  obtain ⟨field, value, same, inLeft, inRight⟩ := shingle_field shingling left right added joined
  refine ⟨field, ?_, by rw [same]; rfl⟩
  rcases place with atLeft | atRight
  · cases Option.some.inj (atLeft.symm.trans found)
    exact inLeft
  · cases Option.some.inj (atRight.symm.trans found)
    exact inRight

theorem extend_fields (clause : ClauseDocument) (more : List ClauseDocument)
    (known : ∀ added ∈ more, ∃ field ∈ clause.fields, added.field? = some field) :
    (clause.extend more).fields ⊆ clause.fields := by
  cases clause with
  | boolean occur generated clauses => exact fun _ member => member
  | term field value generated => exact fun _ member => member
  | disjunctionMax occur generated clauses =>
      intro field member
      obtain ⟨inner, inside, isField⟩ := List.mem_filterMap.mp member
      rcases List.mem_append.mp inside with old | new
      · exact List.mem_filterMap.mpr ⟨inner, old, isField⟩
      · obtain ⟨own, present, same⟩ := known inner new
        cases Option.some.inj (same.symm.trans isField)
        exact present

def shingledAll (shingling : Shingling) (clauses : List ClauseDocument) : List ClauseDocument :=
  clauses.mapIdx fun i clause => clause.extend (seamBefore (ClauseDocument.shingles shingling) clauses i ++
    seam (ClauseDocument.shingles shingling) clauses i)

def shingledBy (accepts : List Bool) (clauses : List ClauseDocument) : List ClauseDocument :=
  accepts.foldl (fun clauses accept => shingledAll ⟨accept⟩ clauses) clauses

theorem shingled_all_append (shingling : Shingling) (front back : List ClauseDocument) (apart : Apart front back) :
    shingledAll shingling (front ++ back) = shingledAll shingling front ++ shingledAll shingling back := by
  have severed := apart_severed shingling front back apart
  rw [shingledAll, List.mapIdx_append]
  refine congr (congrArg _ ?_) ?_
  · apply List.mapIdx_eq_mapIdx_iff.mpr
    intro i inside
    rw [seam_before_front _ front back severed i inside, seam_front _ front back severed i inside]
  · apply List.mapIdx_eq_mapIdx_iff.mpr
    intro i inside
    rw [seam_before_back _ front back severed i, seam_back _ front back i]

theorem shingled_all_fields (shingling : Shingling) (clauses : List ClauseDocument) (i : Nat) (after : ClauseDocument)
    (found : (shingledAll shingling clauses)[i]? = some after) :
    ∃ before, clauses[i]? = some before ∧ after.fields ⊆ before.fields := by
  rw [shingledAll, List.getElem?_mapIdx, Option.map_eq_some_iff] at found
  obtain ⟨before, atPlace, same⟩ := found
  refine ⟨before, atPlace, ?_⟩
  rw [← same]
  exact extend_fields before _ fun added member => seams_field shingling clauses i before added atPlace member

theorem shingled_all_apart (shingling : Shingling) (front back : List ClauseDocument) (apart : Apart front back) :
    Apart (shingledAll shingling front) (shingledAll shingling back) := by
  intro left isLast right isHead
  rw [List.getLast?_eq_getElem?, shingledAll, List.length_mapIdx] at isLast
  rw [List.head?_eq_getElem?] at isHead
  obtain ⟨first, atLast, fewerLeft⟩ := shingled_all_fields shingling front _ left isLast
  obtain ⟨second, atHead, fewerRight⟩ := shingled_all_fields shingling back _ right isHead
  have apartBefore := apart first (by rw [List.getLast?_eq_getElem?]; exact atLast) second
    (by rw [List.head?_eq_getElem?]; exact atHead)
  exact fun field inLeft inRight => apartBefore (fewerLeft inLeft) (fewerRight inRight)

theorem shingled_by_append (accepts : List Bool) (front back : List ClauseDocument) (apart : Apart front back) :
    shingledBy accepts (front ++ back) = shingledBy accepts front ++ shingledBy accepts back := by
  induction accepts generalizing front back with
  | nil => rfl
  | cons accept rest ih =>
      calc shingledBy (accept :: rest) (front ++ back)
          = shingledBy rest (shingledAll ⟨accept⟩ front ++ shingledAll ⟨accept⟩ back) :=
            congrArg (shingledBy rest) (shingled_all_append ⟨accept⟩ front back apart)
        _ = shingledBy (accept :: rest) front ++ shingledBy (accept :: rest) back :=
            ih _ _ (shingled_all_apart ⟨accept⟩ front back apart)

theorem passes_shingled_by (query : Query) (linked : query.Linked) (accepts : List Bool) :
    (query.passes accepts).toDocument.clauses = shingledBy accepts query.toDocument.clauses := by
  induction accepts using List.reverseRecOn with
  | nil => rfl
  | append_singleton accepts accept ih =>
      have last : shingledBy (accepts ++ [accept]) query.toDocument.clauses =
          shingledAll ⟨accept⟩ (shingledBy accepts query.toDocument.clauses) := List.foldl_append
      rw [passes_next_document query linked, last, ← ih]
      rfl

def Query.Shows (query : Query) (clauses : List ClauseDocument) : Prop :=
  query.Reachable ∧ ∃ generated loaded, (Document.mk generated clauses).toQuery = .ok loaded ∧
    query.toDocument.clauses = loaded.toDocument.clauses

theorem shows_settled (query : Query) (clauses : List ClauseDocument) (shows : query.Shows clauses) :
    fitsAll false clauses = true ∧ query.toDocument.clauses = clauses.map (settle false) := by
  obtain ⟨_, generated, loaded, built, same⟩ := shows
  refine ⟨(to_query_ok_iff _).mp ⟨loaded, built⟩, ?_⟩
  rw [same, to_query_document _ loaded built, ← settle_all_map]
  rfl

theorem loaded_shows (clauses : List ClauseDocument) (query : Query)
    (built : (Document.mk false clauses).toQuery = .ok query) : query.Shows clauses :=
  ⟨⟨_, .load ⟨false, clauses⟩ query built⟩, false, query, built, rfl⟩

theorem settle_fields (clause : ClauseDocument) : (clause.settle false).fields = clause.fields := by
  have same : ∀ inner : ClauseDocument, (inner.settle true).field? = inner.field? := by
    intro inner
    cases inner <;> simp [settle, field?]
  cases clause with
  | boolean occur generated clauses => simp [settle, fields]
  | term field value generated => simp [settle]
  | disjunctionMax occur generated clauses => simp [settle, fields, settle_all_map, List.filterMap_map, same]

theorem settle_apart (front back : List ClauseDocument) (apart : Apart front back) :
    Apart (front.map (settle false)) (back.map (settle false)) := by
  intro left isLast right isHead
  rw [List.getLast?_map, Option.mem_def, Option.map_eq_some_iff] at isLast
  rw [List.head?_map, Option.mem_def, Option.map_eq_some_iff] at isHead
  obtain ⟨first, atLast, sameLeft⟩ := isLast
  obtain ⟨second, atHead, sameRight⟩ := isHead
  rw [← sameLeft, ← sameRight, settle_fields, settle_fields]
  exact apart first atLast second atHead

/-- Whatever the passes are, two segments that stand apart become together what each becomes alone. A segment of
fewer than two clauses is one that a pass alone would not even look at. -/
theorem segments_independent (front back : List ClauseDocument) (left right : Query) (showsFront : left.Shows front)
    (showsBack : right.Shows back) (apart : Apart front back) :
    (∃ whole : Query, whole.Shows (front ++ back)) ∧
    ∀ whole : Query, whole.Shows (front ++ back) → ∀ accepts : List Bool,
      (whole.passes accepts).toDocument.clauses =
        (left.passes accepts).toDocument.clauses ++ (right.passes accepts).toDocument.clauses := by
  obtain ⟨frontFits, frontShown⟩ := shows_settled left front showsFront
  obtain ⟨backFits, backShown⟩ := shows_settled right back showsBack
  constructor
  · rw [fits_all_iff] at frontFits backFits
    have fits := (fits_all_iff false (front ++ back)).mpr (List.forall_mem_append.mpr ⟨frontFits, backFits⟩)
    obtain ⟨whole, built⟩ := (to_query_ok_iff ⟨false, front ++ back⟩).mpr fits
    exact ⟨whole, loaded_shows _ whole built⟩
  · intro whole shows accepts
    have shown := (shows_settled whole _ shows).2
    rw [List.map_append] at shown
    rw [passes_shingled_by whole (reachable_linked whole shows.1),
      passes_shingled_by left (reachable_linked left showsFront.1),
      passes_shingled_by right (reachable_linked right showsBack.1), shown, frontShown, backShown]
    exact shingled_by_append accepts _ _ (settle_apart front back apart)

theorem segments_independent_two_fields :
    ∃ whole : Query, whole.Shows
        ([.disjunctionMax .should false [.term none "a" false],
          .disjunctionMax .should false [.term none "b" false, .term (some "f") "c" false]] ++
         [.disjunctionMax .should false [.term (some "g") "d" false]]) ∧
      (whole.passes [false, true]).toDocument.clauses =
        [.disjunctionMax .should false
          [.term none "a" false, .term none ("a" ++ "b") true, .term none ("a" ++ "b") true,
           .term none ("a" ++ ("a" ++ "b")) true, .term none (("a" ++ "b") ++ "b") true,
           .term none (("a" ++ "b") ++ ("a" ++ "b")) true],
         .disjunctionMax .should false
          [.term none "b" false, .term (some "f") "c" false, .term none ("a" ++ "b") true,
           .term none ("a" ++ "b") true, .term none ("a" ++ ("a" ++ "b")) true,
           .term none (("a" ++ "b") ++ "b") true, .term none (("a" ++ "b") ++ ("a" ++ "b")) true]] ++
        [.disjunctionMax .should false [.term (some "g") "d" false]] := by
  have front : Query.Shows
      ⟨#[.boolean ⟨none, .should, false, [1, 3]⟩, .disjunctionMax ⟨⟨0⟩, .should, false, [2]⟩,
        .term ⟨⟨1⟩, none, "a", false⟩, .disjunctionMax ⟨⟨0⟩, .should, false, [4, 5]⟩,
        .term ⟨⟨3⟩, none, "b", false⟩, .term ⟨⟨3⟩, some "f", "c", false⟩]⟩
      [.disjunctionMax .should false [.term none "a" false],
        .disjunctionMax .should false [.term none "b" false, .term (some "f") "c" false]] :=
    loaded_shows _ _ rfl
  have back : Query.Shows
      ⟨#[.boolean ⟨none, .should, false, [1]⟩, .disjunctionMax ⟨⟨0⟩, .should, false, [2]⟩,
        .term ⟨⟨1⟩, some "g", "d", false⟩]⟩
      [.disjunctionMax .should false [.term (some "g") "d" false]] := loaded_shows _ _ rfl
  obtain ⟨⟨whole, shows⟩, split⟩ := segments_independent _ _ _ _ front back (by simp [Apart, fields, field?])
  exact ⟨whole, shows, (split whole shows [false, true]).trans rfl⟩

end QueryShingles
