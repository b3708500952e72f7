import Mathlib.Data.List.Flatten
import Mathlib.Data.List.Forall2
import QueryShingles.Proofs.Segments
import QueryShingles.Proofs.UserShingles

/-!
A pass that takes generated terms adds all that a pass without them adds, in the same order, and maybe
more in between. This carries on over passes in a row: whoever has the better sources stays ahead, as
the shingles of two places only become more when their terms do.
-/

set_option autoImplicit false

namespace QueryShingles

open ClauseDocument

section

variable {α β : Type}

theorem flat_map_sublist (f g : α → List β) (few many : List α) (fewer : few.Sublist many)
    (each : ∀ item ∈ few, (f item).Sublist (g item)) : (few.flatMap f).Sublist (many.flatMap g) :=
  (List.Sublist.flatMap_right few each).trans (fewer.flatMap g)

theorem filter_map_sublist (f g : α → Option β) (few many : List α) (fewer : few.Sublist many)
    (each : ∀ item value, f item = some value → g item = some value) : (few.filterMap f).Sublist (many.filterMap g) := by
  rw [List.filterMap_eq_flatMap_toList, List.filterMap_eq_flatMap_toList]
  refine flat_map_sublist _ _ few many fewer ?_
  intro item _
  cases found : f item with
  | none => exact List.nil_sublist _
  | some value => rw [each item value found]

end

section

variable (less more : Shingling) (gate : less.acceptGenerated = true → more.acceptGenerated = true)

include gate

theorem is_source_gated (word : Term) (accepted : less.isSource word = true) : more.isSource word = true := by
  rw [Shingling.isSource, Bool.or_eq_true] at accepted ⊢
  exact accepted.imp_right gate

theorem sources_gated (query : Query) (place : DisjunctionMaxId) :
    (less.sources query place).Sublist (more.sources query place) :=
  List.monotone_filter_right _ (is_source_gated less more gate)

theorem shingles_of_gated (query : Query) (left right : DisjunctionMaxId) :
    (less.shinglesOf query left right).Sublist (more.shinglesOf query left right) := by
  refine flat_map_sublist _ _ _ _ (sources_gated less more gate query left) ?_
  intro l _
  exact ((sources_gated less more gate query right).filter _).map _

theorem shingles_gated (query : Query) : (less.shingles query).Sublist (more.shingles query) := by
  refine List.Sublist.flatMap_right _ ?_
  intro pair _
  obtain ⟨left, right⟩ := pair
  cases left with
  | none => exact .refl _
  | some left =>
      cases right with
      | none => exact .refl _
      | some right => exact shingles_of_gated less more gate query left right

end

/-- The same clause, with some of its alternatives left out. -/
inductive ClauseDocument.Within : ClauseDocument → ClauseDocument → Prop where
  | same (clause : ClauseDocument) : Within clause clause
  | fewer (occur : Occur) (generated : Bool) (few many : List ClauseDocument) (fewer : few.Sublist many) :
      Within (.disjunctionMax occur generated few) (.disjunctionMax occur generated many)

def Covered (few many : List ClauseDocument) : Prop := ∀ i : Nat, Option.Rel ClauseDocument.Within few[i]? many[i]?

theorem covered_self (clauses : List ClauseDocument) : Covered clauses clauses := by
  intro i
  cases clauses[i]? with
  | none => exact .none
  | some clause => exact .some (.same clause)

theorem within_clauses (occur : Occur) (generated : Bool) (few many : List ClauseDocument)
    (within : ClauseDocument.Within (.disjunctionMax occur generated few) (.disjunctionMax occur generated many)) :
    few.Sublist many := by
  cases within with
  | same => exact .refl _
  | fewer _ _ _ _ fewer => exact fewer

theorem within_extend (a b : ClauseDocument) (few many : List ClauseDocument) (within : a.Within b)
    (fewer : few.Sublist many) : (a.extend few).Within (b.extend many) := by
  cases within with
  | fewer occur generated before behind ahead => exact .fewer occur generated _ _ (ahead.append fewer)
  | same =>
      cases a with
      | boolean occur generated clauses => exact .same _
      | term field value generated => exact .same _
      | disjunctionMax occur generated clauses => exact .fewer occur generated _ _ (fewer.append_left clauses)

section

variable (less more : Shingling) (gate : less.acceptGenerated = true → more.acceptGenerated = true)

include gate

theorem source_gated (clause : ClauseDocument) (source : Option String × String)
    (found : clause.source? less = some source) : clause.source? more = some source := by
  cases clause with
  | boolean occur generated clauses => cases found
  | disjunctionMax occur generated clauses => cases found
  | term field value generated =>
      rw [source?, Option.ite_none_right_eq_some, Bool.or_eq_true] at found ⊢
      exact ⟨found.1.imp_right gate, found.2⟩

theorem within_sources (a b : ClauseDocument) (within : a.Within b) : (a.sources less).Sublist (b.sources more) := by
  cases within with
  | fewer occur generated few many fewer => exact filter_map_sublist _ _ few many fewer (source_gated less more gate)
  | same =>
      cases a with
      | boolean occur generated clauses => exact .refl _
      | term field value generated => exact .refl _
      | disjunctionMax occur generated clauses =>
          exact filter_map_sublist _ _ clauses clauses (.refl _) (source_gated less more gate)

theorem within_shingles (a b c d : ClauseDocument) (left : a.Within b) (right : c.Within d) :
    (ClauseDocument.shingles less a c).Sublist (ClauseDocument.shingles more b d) := by
  refine flat_map_sublist _ _ _ _ (within_sources less more gate a b left) ?_
  intro l _
  exact ((within_sources less more gate c d right).filter _).map _

theorem covered_seam (few many : List ClauseDocument) (covered : Covered few many) (i : Nat) :
    (seam (ClauseDocument.shingles less) few i).Sublist (seam (ClauseDocument.shingles more) many i) := by
  have left := covered i
  have right := covered (i + 1)
  rw [seam, seam]
  generalize few[i]? = a, many[i]? = b, few[i + 1]? = c, many[i + 1]? = d at left right
  cases left with
  | none => exact List.nil_sublist _
  | some left =>
      cases right with
      | none => exact List.nil_sublist _
      | some right => exact within_shingles less more gate _ _ _ _ left right

theorem covered_seams (few many : List ClauseDocument) (covered : Covered few many) (i : Nat) :
    (seamBefore (ClauseDocument.shingles less) few i ++ seam (ClauseDocument.shingles less) few i).Sublist
      (seamBefore (ClauseDocument.shingles more) many i ++ seam (ClauseDocument.shingles more) many i) := by
  have behind := covered_seam less more gate few many covered i
  cases i with
  | zero => exact behind
  | succ i => exact (covered_seam less more gate few many covered i).append behind

theorem covered_shingled (few many : List ClauseDocument) (covered : Covered few many) :
    Covered (shingledAll less few) (shingledAll more many) := by
  intro i
  have seams := covered_seams less more gate few many covered i
  have here := covered i
  rw [shingledAll, shingledAll, List.getElem?_mapIdx, List.getElem?_mapIdx]
  generalize few[i]? = a, many[i]? = b at here
  cases here with
  | none => exact .none
  | some within => exact .some (within_extend _ _ _ _ within seams)

end

theorem covered_passes (less more : List Bool)
    (gates : List.Forall₂ (fun accept accept' => accept = true → accept' = true) less more)
    (few many : List ClauseDocument) (covered : Covered few many) :
    Covered (shingledBy less few) (shingledBy more many) := by
  -- Both runs go on from their own clauses, which are no longer the same after the first pass.
  induction gates generalizing few many with
  | nil => exact covered
  | cons gate _ ih => exact ih _ _ (covered_shingled ⟨_⟩ ⟨_⟩ gate few many covered)

/-- Where each pass of the one run takes generated terms only if that of the other does, every place has behind the
one run what it has behind the other, with some alternatives left out. The shingles of a pass without generated terms
are among those of a pass with them, in order. -/
theorem gated_passes_within (query : Query) (reachable : query.Reachable) (less more : List Bool)
    (gates : List.Forall₂ (fun accept accept' => accept = true → accept' = true) less more) :
    (∀ (i : Nat) (occur : Occur) (generated : Bool) (clauses : List ClauseDocument),
      query.toDocument.clauses[i]? = some (.disjunctionMax occur generated clauses) →
      ∃ few many,
        (query.passes less).toDocument.clauses[i]? = some (.disjunctionMax occur generated (clauses ++ few)) ∧
        (query.passes more).toDocument.clauses[i]? = some (.disjunctionMax occur generated (clauses ++ many)) ∧
        (clauses ++ few).Sublist (clauses ++ many)) ∧
    ((Shingling.mk false).shingles query).Sublist ((Shingling.mk true).shingles query) := by
  have linked := reachable_linked query reachable
  refine ⟨?_, shingles_gated ⟨false⟩ ⟨true⟩ (fun _ => rfl) query⟩
  intro i occur generated clauses place
  obtain ⟨few, behindLess⟩ := passes_keep query linked less i occur generated clauses place
  obtain ⟨many, behindMore⟩ := passes_keep query linked more i occur generated clauses place
  refine ⟨few, many, behindLess, behindMore, ?_⟩
  have within := covered_passes less more gates _ _ (covered_self query.toDocument.clauses) i
  rw [← passes_shingled_by query linked, ← passes_shingled_by query linked, behindLess, behindMore] at within
  cases within with
  | some within => exact within_clauses occur generated _ _ within

theorem gated_passes_within_two_words :
    let query : Query := ⟨#[.boolean ⟨none, .should, false, [1, 3]⟩, .disjunctionMax ⟨⟨0⟩, .should, false, [2]⟩,
      .term ⟨⟨1⟩, none, "a", false⟩, .disjunctionMax ⟨⟨0⟩, .should, true, [4]⟩, .term ⟨⟨3⟩, none, "b", true⟩]⟩
    let few : List ClauseDocument := [.term none "b" true, .term none "ab" true]
    let many : List ClauseDocument := [.term none "b" true, .term none "ab" true, .term none "ab" true,
      .term none "aab" true, .term none "abb" true, .term none "abab" true]
    query.Reachable ∧
      (query.passes [false, true]).toDocument.clauses[1]? = some (.disjunctionMax .should true few) ∧
      (query.passes [true, true]).toDocument.clauses[1]? = some (.disjunctionMax .should true many) ∧
      few.Sublist many := by
  intro query few many
  have reachable : query.Reachable := ⟨_, .load ⟨false,
    [.disjunctionMax .should false [.term none "a" false], .disjunctionMax .should true [.term none "b" true]]⟩ query rfl⟩
  have gates : List.Forall₂ (fun accept accept' => accept = true → accept' = true) [false, true] [true, true] := by simp
  have places := (gated_passes_within query reachable [false, true] [true, true] gates).1
  obtain ⟨behindFew, behindMany, atLess, atMore, within⟩ := places 1 .should true [.term none "b" true] rfl
  have ranLess : query.passes [false, true] = ⟨#[.boolean ⟨none, .should, false, [1, 3]⟩,
    .disjunctionMax ⟨⟨0⟩, .should, false, [2, 5]⟩, .term ⟨⟨1⟩, none, "a", false⟩,
    .disjunctionMax ⟨⟨0⟩, .should, true, [4, 6]⟩, .term ⟨⟨3⟩, none, "b", true⟩,
    .term ⟨⟨1⟩, none, "ab", true⟩, .term ⟨⟨3⟩, none, "ab", true⟩]⟩ := by decide +kernel
  have ranMore : query.passes [true, true] = ⟨#[.boolean ⟨none, .should, false, [1, 3]⟩,
    .disjunctionMax ⟨⟨0⟩, .should, false, [2, 5, 7, 9, 11, 13]⟩, .term ⟨⟨1⟩, none, "a", false⟩,
    .disjunctionMax ⟨⟨0⟩, .should, true, [4, 6, 8, 10, 12, 14]⟩, .term ⟨⟨3⟩, none, "b", true⟩,
    .term ⟨⟨1⟩, none, "ab", true⟩, .term ⟨⟨3⟩, none, "ab", true⟩,
    .term ⟨⟨1⟩, none, "ab", true⟩, .term ⟨⟨3⟩, none, "ab", true⟩,
    .term ⟨⟨1⟩, none, "aab", true⟩, .term ⟨⟨3⟩, none, "aab", true⟩,
    .term ⟨⟨1⟩, none, "abb", true⟩, .term ⟨⟨3⟩, none, "abb", true⟩,
    .term ⟨⟨1⟩, none, "abab", true⟩, .term ⟨⟨3⟩, none, "abab", true⟩]⟩ := by decide +kernel
  have shownLess : (query.passes [false, true]).toDocument.clauses[1]? = some (.disjunctionMax .should true few) := by
    rw [ranLess]
    rfl
  have shownMore : (query.passes [true, true]).toDocument.clauses[1]? = some (.disjunctionMax .should true many) := by
    rw [ranMore]
    rfl
  have isFew := (ClauseDocument.disjunctionMax.inj (Option.some.inj (atLess.symm.trans shownLess))).2.2
  have isMany := (ClauseDocument.disjunctionMax.inj (Option.some.inj (atMore.symm.trans shownMore))).2.2
  rw [isFew, isMany] at within
  exact ⟨reachable, shownLess, shownMore, within⟩

end QueryShingles
