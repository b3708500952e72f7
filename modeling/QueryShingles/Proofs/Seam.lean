import QueryShingles.Document.Tree
import QueryShingles.Shingle.Basic

/-!
Shingles as a function of documents. What is built from two neighbours stands in a seam between
them; a place gets the seam in front of it, then the seam behind it.
-/

set_option autoImplicit false

namespace QueryShingles

section

variable {α β : Type}

/-- What is joined from the item at `i` and the one behind it. -/
def seam (join : α → α → List β) (items : List α) (i : Nat) : List β :=
  match items[i]?, items[i + 1]? with
  | some left, some right => join left right
  | _, _ => []

def seamBefore (join : α → α → List β) (items : List α) : Nat → List β
  | 0 => []
  | i + 1 => seam join items i

theorem seam_map {γ : Type} (f : γ → α) (join : α → α → List β) (items : List γ) (i : Nat) :
    seam join (items.map f) i = seam (fun left right => join (f left) (f right)) items i := by
  rw [seam, seam, List.getElem?_map, List.getElem?_map]
  cases items[i]? <;> cases items[i + 1]? <;> rfl

theorem seam_cons (join : α → α → List β) (item : α) (rest : List α) (i : Nat) :
    seam join (item :: rest) (i + 1) = seam join rest i := by
  simp [seam]

theorem seam_before_cons (join : α → α → List β) (item : α) (rest : List α) (i : Nat) :
    seamBefore join (item :: rest) (i + 2) = seamBefore join rest (i + 1) :=
  seam_cons join item rest i

theorem seam_member (join : α → α → List β) (items : List α) (i : Nat) (made : β)
    (member : made ∈ seam join items i) :
    ∃ left right, items[i]? = some left ∧ items[i + 1]? = some right ∧ made ∈ join left right := by
  rw [seam] at member
  split at member
  next left right atLeft atRight => exact ⟨left, right, atLeft, atRight, member⟩
  · cases member

theorem seams_member (join : α → α → List β) (items : List α) (i : Nat) (made : β)
    (member : made ∈ seamBefore join items i ++ seam join items i) :
    ∃ left right, made ∈ join left right ∧ (items[i]? = some left ∨ items[i]? = some right) := by
  rcases List.mem_append.mp member with before | behind
  · cases i with
    | zero => cases before
    | succ i =>
        obtain ⟨left, right, _, atRight, joined⟩ := seam_member join items i made before
        exact ⟨left, right, joined, .inr atRight⟩
  · obtain ⟨left, right, atLeft, _, joined⟩ := seam_member join items i made behind
    exact ⟨left, right, joined, .inl atLeft⟩

theorem zip_seams (join : α → α → List β) (items : List α) :
    (items.zip items.tail).flatMap (fun pair => join pair.1 pair.2) =
      (List.range items.length).flatMap (seam join items) := by
  induction items with
  | nil => rfl
  | cons first rest ih =>
      rw [List.length_cons, List.range_succ_eq_map, List.flatMap_cons, List.flatMap_map]
      simp only [seam_cons, ← ih]
      cases rest <;> rfl

theorem neighbours_differ (items : List α) (distinct : items.Nodup) (left right : α)
    (pair : (left, right) ∈ items.zip items.tail) : left ≠ right := by
  induction items with
  | nil => simp at pair
  | cons first rest ih =>
      obtain ⟨fresh, restDistinct⟩ := List.nodup_cons.mp distinct
      cases rest with
      | nil => simp at pair
      | cons second others =>
          rcases List.mem_cons.mp pair with atHead | later
          · cases atHead
            exact fun same => fresh (by simp [same])
          · exact ih restDistinct later

def share [DecidableEq α] (join : α → α → List β) (item : α) (pair : α × α) : List β :=
  (if pair.1 = item then join pair.1 pair.2 else []) ++ (if pair.2 = item then join pair.1 pair.2 else [])

theorem share_absent [DecidableEq α] (join : α → α → List β) (items : List α) (item : α) (absent : item ∉ items) :
    (items.zip items.tail).flatMap (share join item) = [] := by
  refine List.flatMap_eq_nil_iff.mpr ?_
  rintro ⟨a, b⟩ member
  obtain ⟨first, second⟩ := List.of_mem_zip member
  have left : a ≠ item := fun same => absent (same ▸ first)
  have right : b ≠ item := fun same => absent (same ▸ List.mem_of_mem_tail second)
  simp [share, left, right]

/-- Among distinct items, each is handed the seam in front of it and the seam behind it. -/
theorem share_seams [DecidableEq α] (join : α → α → List β) (items : List α) (distinct : items.Nodup)
    (i : Nat) (item : α) (found : items[i]? = some item) :
    (items.zip items.tail).flatMap (share join item) = seamBefore join items i ++ seam join items i := by
  induction items generalizing i with
  | nil => simp at found
  | cons first rest ih =>
      obtain ⟨fresh, restDistinct⟩ := List.nodup_cons.mp distinct
      cases rest with
      | nil => cases i <;> simp [seamBefore, seam] at found ⊢
      | cons second others =>
          have fresh' : first ≠ second := fun same => fresh (by simp [same])
          have tail : (first :: second :: others).zip (second :: others) =
              (first, second) :: (second :: others).zip (second :: others).tail := rfl
          rw [List.tail_cons, tail, List.flatMap_cons]
          cases i with
          | zero =>
              have here : first = item := by simpa using found
              subst here
              rw [share_absent join (second :: others) first fresh]
              simp [share, seamBefore, seam, Ne.symm fresh']
          | succ i =>
              have behind : (second :: others)[i]? = some item := by simpa using found
              rw [ih restDistinct i behind, seam_cons]
              cases i with
              | zero =>
                  have here : second = item := by simpa using behind
                  subst here
                  simp [share, seamBefore, seam, fresh']
              | succ i =>
                  have member : item ∈ others := List.mem_of_getElem? (by simpa using behind)
                  have notFirst : first ≠ item := fun same => fresh (by simp [same, member])
                  have notSecond : second ≠ item := fun same =>
                    (List.nodup_cons.mp restDistinct).1 (by simp [same, member])
                  rw [seam_before_cons]
                  simp [share, notFirst, notSecond]

end

namespace ClauseDocument

def source? (shingling : Shingling) : ClauseDocument → Option (Option String × String)
  | .term field value generated =>
      if !generated || shingling.acceptGenerated then some (field, value) else none
  | _ => none

def sources (shingling : Shingling) : ClauseDocument → List (Option String × String)
  | .disjunctionMax _ _ clauses => clauses.filterMap (source? shingling)
  | _ => []

def shingles (shingling : Shingling) (left right : ClauseDocument) : List ClauseDocument :=
  (left.sources shingling).flatMap fun l =>
    ((right.sources shingling).filter fun r => l.1 = r.1).map fun r => .term l.1 (l.2 ++ r.2) true

def extend (more : List ClauseDocument) : ClauseDocument → ClauseDocument
  | .disjunctionMax occur generated clauses => .disjunctionMax occur generated (clauses ++ more)
  | other => other

end ClauseDocument

theorem shingle_is_term (shingling : Shingling) (left right clause : ClauseDocument)
    (member : clause ∈ ClauseDocument.shingles shingling left right) :
    ∃ field value, clause = .term field value true := by
  obtain ⟨l, _, member⟩ := List.mem_flatMap.mp member
  obtain ⟨r, _, same⟩ := List.mem_map.mp member
  exact ⟨_, _, same.symm⟩

theorem seam_is_terms (shingling : Shingling) (clauses : List ClauseDocument) (i : Nat) (clause : ClauseDocument)
    (member : clause ∈ seam (ClauseDocument.shingles shingling) clauses i) :
    ∃ field value, clause = .term field value true := by
  obtain ⟨left, right, _, _, joined⟩ := seam_member _ clauses i clause member
  exact shingle_is_term shingling left right clause joined

theorem seams_are_terms (shingling : Shingling) (clauses : List ClauseDocument) (i : Nat) (clause : ClauseDocument)
    (member : clause ∈ seamBefore (ClauseDocument.shingles shingling) clauses i ++
      seam (ClauseDocument.shingles shingling) clauses i) :
    ∃ field value, clause = .term field value true := by
  obtain ⟨left, right, joined, _⟩ := seams_member _ clauses i clause member
  exact shingle_is_term shingling left right clause joined

/-- The document behind a pass of the shingles. -/
def Document.shingled (shingling : Shingling) (document : Document) : Document :=
  let join := ClauseDocument.shingles shingling
  { document with
    clauses := document.clauses.mapIdx fun i clause =>
      clause.extend (seamBefore join document.clauses i ++ seam join document.clauses i) }

end QueryShingles
