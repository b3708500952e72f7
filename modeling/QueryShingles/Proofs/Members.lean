import Mathlib.Data.List.Basic
import QueryShingles.Document.Reader
import QueryShingles.Proofs.Nesting

/-!
Readers that go over the members of an object. Such a reader has a place for every name it knows, and a member of that
name fills it once; so what is read depends neither on the order of the members nor on those of other names.
-/

set_option autoImplicit false

namespace QueryShingles

section

variable {κ α β ε : Type} [DecidableEq κ]

/-- What a place holds in front of some members and behind them. -/
def Fills (name : κ) (read : β → Except ε α) : Option α → List (κ × β) → Option α → Prop
  | place, [], filled => filled = place
  | place, (key, item) :: rest, filled =>
      if key = name then place = none ∧ ∃ value, read item = .ok value ∧ Fills name read (some value) rest filled
      else Fills name read place rest filled

variable (name : κ) (read : β → Except ε α)

@[simp] theorem fills_nil (place filled : Option α) : Fills name read place [] filled ↔ filled = place := Iff.rfl

@[simp] theorem fills_here (place filled : Option α) (item : β) (rest : List (κ × β)) :
    Fills name read place ((name, item) :: rest) filled ↔
      place = none ∧ ∃ value, read item = .ok value ∧ Fills name read (some value) rest filled := by
  rw [Fills, if_pos rfl]

theorem fills_other (place filled : Option α) (key : κ) (item : β) (rest : List (κ × β)) (other : key ≠ name) :
    Fills name read place ((key, item) :: rest) filled ↔ Fills name read place rest filled := by
  rw [Fills, if_neg other]

theorem fills_first (place filled : Option α) (key : κ) (item : β) (rest : List (κ × β)) :
    Fills name read place ((key, item) :: rest) filled ↔
      ∃ between, Fills name read place [(key, item)] between ∧ Fills name read between rest filled := by
  by_cases here : key = name
  · subst here
    simp only [fills_here, fills_nil]
    grind
  · simp [fills_other name read _ _ key item _ here]

theorem fills_absent (place filled : Option α) (members : List (κ × β)) (others : ∀ member ∈ members, member.1 ≠ name) :
    Fills name read place members filled ↔ filled = place := by
  induction members with
  | nil => rfl
  | cons member rest ih =>
      obtain ⟨key, item⟩ := member
      rw [fills_other name read place filled key item rest (others _ List.mem_cons_self)]
      exact ih fun member behind => others member (List.mem_cons_of_mem _ behind)

theorem fills_named (place filled : Option α) (members : List (κ × β)) :
    Fills name read place (members.filter (·.1 = name)) filled ↔ Fills name read place members filled := by
  induction members generalizing place with
  | nil => rfl
  | cons member rest ih =>
      obtain ⟨key, item⟩ := member
      by_cases here : key = name
      · rw [List.filter_cons_of_pos (by simpa using here)]
        simp only [Fills, ih]
      · rw [List.filter_cons_of_neg (by simpa using here), fills_other name read place filled key item rest here]
        exact ih place

theorem fills_map {γ : Type} (shown : γ → β) (place filled : Option α) (members : List (κ × γ)) :
    Fills name read place (members.map (Prod.map id shown)) filled ↔
      Fills name (read ∘ shown) place members filled := by
  induction members generalizing place with
  | nil => rfl
  | cons member rest ih =>
      obtain ⟨key, item⟩ := member
      rw [List.map_cons, Prod.map, Fills, Fills]
      simp only [ih]
      rfl

theorem fills_filter (place filled : Option α) (members : List (κ × β)) (other : κ) (different : other ≠ name) :
    Fills name read place (members.filter (·.1 ≠ other)) filled ↔ Fills name read place members filled := by
  induction members generalizing place with
  | nil => rfl
  | cons member rest ih =>
      obtain ⟨key, item⟩ := member
      by_cases here : key = other
      · subst here
        rw [fills_other name read place filled key item rest different, List.filter_cons_of_neg (by simp)]
        exact ih place
      · rw [List.filter_cons_of_pos (by simpa using here)]
        simp only [Fills, ih]

theorem fills_once (place filled : Option α) (members : List (κ × β)) (fills : Fills name read place members filled) :
    (members.map Prod.fst).count name + (if place.isSome then 1 else 0) ≤ 1 := by
  induction members generalizing place with
  | nil => cases place <;> simp
  | cons member rest ih =>
      obtain ⟨key, item⟩ := member
      by_cases here : key = name
      · subst here
        obtain ⟨empty, value, _, behind⟩ := (fills_here key read place filled item rest).mp fills
        have once := ih (some value) behind
        simp only [Option.isSome_some, if_true] at once
        simp [empty]
        omega
      · have behind := (fills_other name read place filled key item rest here).mp fills
        rw [List.map_cons, List.count_cons_of_ne here]
        exact ih place behind

theorem fills_kept (value : α) (filled : Option α) (members : List (κ × β))
    (fills : Fills name read (some value) members filled) : filled = some value := by
  induction members with
  | nil => exact fills
  | cons member rest ih =>
      obtain ⟨key, item⟩ := member
      by_cases here : key = name
      · subst here
        obtain ⟨empty, _⟩ := (fills_here key read _ filled item rest).mp fills
        cases empty
      · exact ih ((fills_other name read _ filled key item rest here).mp fills)

theorem fills_member (place filled : Option α) (members : List (κ × β)) (item : β)
    (fills : Fills name read place members filled) (member : (name, item) ∈ members) :
    ∃ value, read item = .ok value ∧ filled = some value := by
  induction members generalizing place with
  | nil => cases member
  | cons first rest ih =>
      obtain ⟨key, other⟩ := first
      by_cases here : key = name
      · subst here
        obtain ⟨_, value, found, behind⟩ := (fills_here key read place filled other rest).mp fills
        rcases List.mem_cons.mp member with same | later
        · cases same
          exact ⟨value, found, fills_kept key read value filled rest behind⟩
        · exact ih _ behind later
      · have behind := (fills_other name read place filled key other rest here).mp fills
        rcases List.mem_cons.mp member with same | later
        · cases same
          exact absurd rfl here
        · exact ih place behind later

theorem fills_source (value : α) (members : List (κ × β)) (fills : Fills name read none members (some value)) :
    ∃ item, (name, item) ∈ members ∧ read item = .ok value := by
  induction members with
  | nil => cases fills
  | cons member rest ih =>
      obtain ⟨key, item⟩ := member
      by_cases here : key = name
      · subst here
        obtain ⟨_, found, reads, behind⟩ := (fills_here key read none _ item rest).mp fills
        cases fills_kept key read found _ rest behind
        exact ⟨item, List.mem_cons_self, reads⟩
      · obtain ⟨item, listed, reads⟩ := ih ((fills_other name read none _ key item rest here).mp fills)
        exact ⟨item, List.mem_cons_of_mem _ listed, reads⟩

end

open ClauseDocument

theorem json_fill_iff {α : Type} (name : String) (place filled : Option α) (read : Except Mismatch α) :
    Json.fill name place read = .ok filled ↔ place = none ∧ ∃ value, read = .ok value ∧ filled = some value := by
  cases place with
  | some old => simp [Json.fill]
  | none => cases read <;> simp [Json.fill, eq_comm]

theorem json_require_iff {α : Type} (name : String) (place : Option α) (value : α) :
    Json.require name place = .ok value ↔ place = some value := by
  cases place <;> simp [Json.require]

theorem of_term_members_iff (fields : TermFields) (members : List (String × Json)) (clause : ClauseDocument) :
    ofTermMembers fields members = .ok clause ↔ ∃ filled : TermFields,
      Fills "field" Json.readOptionalString fields.field members filled.field ∧
      Fills "value" Json.readString fields.value members filled.value ∧
      Fills "generated" Json.readBool fields.generated members filled.generated ∧ finishTerm filled = .ok clause := by
  induction members generalizing fields with
  | nil =>
      constructor
      · intro read
        exact ⟨fields, rfl, rfl, rfl, read⟩
      · rintro ⟨⟨field, value, generated⟩, rfl, rfl, rfl, finished⟩
        exact finished
  | cons member rest ih =>
      obtain ⟨key, item⟩ := member
      by_cases isField : key = "field"
      · subst isField
        simp only [ofTermMembers, bind_ok_iff, json_fill_iff, ih, Fills, reduceIte, String.reduceEq]
        grind
      · by_cases isValue : key = "value"
        · subst isValue
          simp only [ofTermMembers, bind_ok_iff, json_fill_iff, ih, Fills, reduceIte, String.reduceEq]
          grind
        · by_cases isGenerated : key = "generated"
          · subst isGenerated
            simp only [ofTermMembers, bind_ok_iff, json_fill_iff, ih, Fills, reduceIte, String.reduceEq]
            grind
          · simp [ofTermMembers, ih, Fills, isField, isValue, isGenerated]

theorem of_group_members_iff (kind : ClauseKind) (fields : GroupFields) (members : List (String × Json))
    (clause : ClauseDocument) :
    ofGroupMembers kind fields members = .ok clause ↔ ∃ filled : GroupFields,
      Fills "occur" Json.readOccur fields.occur members filled.occur ∧
      Fills "generated" Json.readBool fields.generated members filled.generated ∧
      Fills "clauses" readClauses fields.clauses members filled.clauses ∧ finishGroup kind filled = .ok clause := by
  induction members generalizing fields with
  | nil =>
      rw [ofGroupMembers]
      constructor
      · intro read
        exact ⟨fields, rfl, rfl, rfl, read⟩
      · rintro ⟨⟨occur, generated, clauses⟩, rfl, rfl, rfl, finished⟩
        exact finished
  | cons member rest ih =>
      obtain ⟨key, item⟩ := member
      by_cases isOccur : key = "occur"
      · subst isOccur
        simp only [ofGroupMembers, bind_ok_iff, json_fill_iff, ih, Fills, reduceIte, String.reduceEq]
        grind
      · by_cases isGenerated : key = "generated"
        · subst isGenerated
          simp only [ofGroupMembers, bind_ok_iff, json_fill_iff, ih, Fills, reduceIte, String.reduceEq]
          grind
        · by_cases isClauses : key = "clauses"
          · subst isClauses
            simp only [ofGroupMembers, bind_ok_iff, json_fill_iff, ih, Fills, reduceIte, String.reduceEq]
            grind
          · simp [ofGroupMembers, ih, Fills, isOccur, isGenerated, isClauses]

theorem kind_of_iff (place : Option ClauseKind) (members : List (String × Json)) (kind : ClauseKind) :
    kindOf place members = .ok kind ↔ Fills "type" Json.readKind place members (some kind) := by
  induction members generalizing place with
  | nil => rw [kindOf, json_require_iff, fills_nil, eq_comm]
  | cons member rest ih =>
      obtain ⟨key, item⟩ := member
      by_cases isType : key = "type"
      · subst isType
        simp only [kindOf, bind_ok_iff, json_fill_iff, ih, fills_here, reduceIte]
        grind
      · rw [kindOf, if_neg isType, fills_other _ _ _ _ _ _ _ isType]
        exact ih place

theorem draft_fill_iff {α : Type} (name : String) (place filled : Option α) (read : Except ReadError α) :
    Draft.fill name place read = .ok filled ↔ place = none ∧ ∃ value, read = .ok value ∧ filled = some value := by
  cases place with
  | some old => simp [Draft.fill]
  | none => cases read <;> simp [Draft.fill, eq_comm]

theorem draft_require_iff {α : Type} (name : String) (place : Option α) (value : α) :
    Draft.require name place = .ok value ↔ place = some value := by
  cases place <;> simp [Draft.require]

theorem refuse_never {α : Type} (expected : String) (draft : Draft) (value : α) :
    draft.refuse expected ≠ .ok value := by
  intro read
  rw [Draft.refuse] at read
  obtain ⟨_, _, read⟩ := bind_ok_steps _ _ _ read
  cases read

theorem lift_iff {α : Type} (read : Except Mismatch α) (value : α) :
    ReadError.lift read = .ok value ↔ read = .ok value := by
  cases read <;> simp [ReadError.lift]

theorem read_bool_iff (draft : Draft) (b : Bool) : draft.readBool = .ok b ↔ draft = .bool b := by
  cases draft with
  | bool other => simp [Draft.readBool]
  | _ => simp [Draft.readBool, refuse_never]

theorem next_item_iff (ending : Ending) (items : List Draft) (next : Option (Draft × List Draft)) :
    Draft.nextItem ending items = .ok next ↔
      items = [] ∧ ending = .closed ∧ next = none ∨ ∃ item rest, items = item :: rest ∧ next = some (item, rest) := by
  cases items with
  | nil =>
      simp only [Draft.nextItem, bind_ok_iff, close_iff, pure_is_ok, Except.ok.injEq]
      grind
  | cons item rest => simp [Draft.nextItem, eq_comm]

theorem no_more_items_iff (ending : Ending) (items : List Draft) (last : Unit) :
    Draft.noMoreItems ending items = .ok last ↔ items = [] ∧ ending = .closed := by
  cases items with
  | nil => simp [Draft.noMoreItems, close_iff]
  | cons item rest => simp [Draft.noMoreItems]

theorem fold_members_iff {σ : Type} (step : σ → String → Draft → Except ReadError σ) (ending : Ending)
    (state result : σ) (members : List (Option String × Draft)) :
    Draft.foldMembers step ending state members = .ok result ↔ ending = .closed ∧ ∃ named : List (String × Draft),
      members = named.map (Prod.map some id) ∧
      named.foldlM (fun state member => step state member.1 member.2) state = .ok result := by
  induction members generalizing state with
  | nil =>
      simp only [Draft.foldMembers, bind_ok_iff, close_iff]
      constructor
      · rintro ⟨_, closed, same⟩
        exact ⟨closed, [], rfl, same⟩
      · rintro ⟨closed, named, none, folded⟩
        rw [List.map_eq_nil_iff.mp none.symm] at folded
        exact ⟨(), closed, folded⟩
  | cons member rest ih =>
      obtain ⟨key, item⟩ := member
      cases key with
      | none =>
          constructor
          · intro folded
            cases folded
          · rintro ⟨_, named, same, _⟩
            cases named <;> cases same
      | some key =>
          simp only [Draft.foldMembers, bind_ok_iff, ih]
          constructor
          · rintro ⟨next, taken, closed, named, same, folded⟩
            refine ⟨closed, (key, item) :: named, by rw [same]; rfl, ?_⟩
            rw [List.foldlM_cons, taken]
            exact folded
          · rintro ⟨closed, named, same, folded⟩
            cases named with
            | nil => cases same
            | cons first named =>
                obtain ⟨here, behind⟩ := List.cons.inj same
                obtain ⟨sameKey, sameItem⟩ := Prod.mk.inj here
                cases sameKey
                cases sameItem
                rw [List.foldlM_cons] at folded
                obtain ⟨next, taken, folded⟩ := bind_ok_steps _ _ _ folded
                exact ⟨next, taken, closed, named, behind, folded⟩

theorem document_fold_iff (budget : Nat) (seen filled : DocumentFields) (named : List (String × Draft)) :
    named.foldlM (fun seen member => Document.readMember budget seen member.1 member.2) seen = .ok filled ↔
      Fills "generated" Draft.readBool seen.generated named filled.generated ∧
      Fills "clauses" (Draft.readSequence ClauseDocument.read budget) seen.clauses named filled.clauses ∧
      ∀ member ∈ named, member.1 ≠ "generated" → member.1 ≠ "clauses" → member.2.skip = .ok () := by
  induction named generalizing seen with
  | nil =>
      obtain ⟨generated, clauses⟩ := filled
      obtain ⟨before, others⟩ := seen
      simp [eq_comm]
  | cons member rest ih =>
      obtain ⟨key, item⟩ := member
      simp only [List.foldlM_cons, bind_ok_iff, ih, List.forall_mem_cons]
      by_cases isGenerated : key = "generated"
      · subst isGenerated
        simp only [Document.readMember, bind_ok_iff, draft_fill_iff, pure_is_ok, Except.ok.injEq, Fills, reduceIte,
          String.reduceEq, not_true_eq_false, false_implies, true_and, ne_eq]
        grind
      · by_cases isClauses : key = "clauses"
        · subst isClauses
          simp only [Document.readMember, bind_ok_iff, draft_fill_iff, pure_is_ok, Except.ok.injEq, Fills, reduceIte,
            String.reduceEq, not_true_eq_false, not_false_eq_true, false_implies, forall_const, true_and, ne_eq]
          grind
        · simp [Document.readMember, bind_ok_iff, Fills, isGenerated, isClauses, Unique.exists_iff, and_left_comm]

end QueryShingles
