import QueryShingles.Json.Reader
import QueryShingles.Proofs.Results
import QueryShingles.Proofs.Scanning

/-!
How deep a value nests, and that a reader takes in what its limit allows and nothing deeper.
-/

set_option autoImplicit false

namespace QueryShingles

mutual
def Json.nest : Json → Nat
  | .array items => 1 + Json.nestItems items
  | .object members => 1 + Json.nestMembers members
  | _ => 0
def Json.nestItems : List Json → Nat
  | [] => 0
  | item :: rest => max item.nest (Json.nestItems rest)
def Json.nestMembers : List (String × Json) → Nat
  | [] => 0
  | (_, item) :: rest => max item.nest (Json.nestMembers rest)
end

mutual
def Json.InRange (range : Numeral → Prop) : Json → Prop
  | .number numeral => range numeral
  | .array items => Json.InRangeItems range items
  | .object members => Json.InRangeMembers range members
  | _ => True
def Json.InRangeItems (range : Numeral → Prop) : List Json → Prop
  | [] => True
  | item :: rest => item.InRange range ∧ Json.InRangeItems range rest
def Json.InRangeMembers (range : Numeral → Prop) : List (String × Json) → Prop
  | [] => True
  | (_, item) :: rest => item.InRange range ∧ Json.InRangeMembers range rest
end

def Numeral.Readable (numeral : Numeral) : Prop := numeral.number?.isSome = true

mutual
theorem numberless_in_range (json : Json) (plain : json.numberless = true) : json.InRange Numeral.Readable := by
  cases json with
  | null => trivial
  | bool b => trivial
  | number numeral => simp [Json.numberless] at plain
  | string text => trivial
  | array items => exact numberless_items_in_range items plain
  | object members => exact numberless_members_in_range members plain
theorem numberless_items_in_range (items : List Json) (plain : Json.numberlessItems items = true) :
    Json.InRangeItems Numeral.Readable items := by
  cases items with
  | nil => trivial
  | cons item rest =>
      rw [Json.numberlessItems, Bool.and_eq_true] at plain
      exact ⟨numberless_in_range item plain.1, numberless_items_in_range rest plain.2⟩
theorem numberless_members_in_range (members : List (String × Json)) (plain : Json.numberlessMembers members = true) :
    Json.InRangeMembers Numeral.Readable members := by
  cases members with
  | nil => trivial
  | cons member rest =>
      rw [Json.numberlessMembers, Bool.and_eq_true] at plain
      exact ⟨numberless_in_range member.2 plain.1, numberless_members_in_range rest plain.2⟩
end

def within {α : Type} (budget depth : Nat) (value : α) : Except ReadError α :=
  if depth ≤ budget then .ok value else .error (.text .malformed)

theorem within_ok {α : Type} (budget depth : Nat) (value : α) (shallow : depth ≤ budget) :
    within budget depth value = .ok value := if_pos shallow

theorem within_ok_iff {α : Type} (budget depth : Nat) (value other : α) :
    within budget depth value = .ok other ↔ value = other ∧ depth ≤ budget := by
  by_cases shallow : depth ≤ budget <;> simp [within, shallow]

theorem within_map {α β : Type} (budget depth : Nat) (value : α) (f : α → β) :
    (within budget depth value >>= fun value => pure (f value)) = within budget depth (f value) := by
  by_cases shallow : depth ≤ budget <;> simp [within, shallow]

theorem within_then {α β : Type} (budget first second : Nat) (a : α) (f : α → β) :
    (within budget first a >>= fun a => within budget second (f a)) = within budget (max first second) (f a) := by
  by_cases shallow : first ≤ budget
  · by_cases alsoShallow : second ≤ budget
    · rw [within_ok _ _ _ shallow, ok_bind, within_ok _ _ _ alsoShallow,
        within_ok _ _ _ (Nat.max_le.mpr ⟨shallow, alsoShallow⟩)]
    · rw [within_ok _ _ _ shallow, ok_bind, within, if_neg alsoShallow, within,
        if_neg fun both => alsoShallow (Nat.max_le.mp both).2]
  · rw [within, if_neg shallow, error_bind, within, if_neg fun both => shallow (Nat.max_le.mp both).1]

theorem within_both {α β γ : Type} (budget first second : Nat) (a : α) (b : β) (f : α → β → γ) :
    (within budget first a >>= fun a => within budget second b >>= fun b => pure (f a b)) =
      within budget (max first second) (f a b) := by
  simp only [within_map]
  exact within_then budget first second a fun a => f a b

theorem within_enter {α : Type} (budget depth : Nat) (value : α) :
    (Draft.enter budget >>= fun left => within left depth value) = within budget (1 + depth) value := by
  cases budget with
  | zero => simp [Draft.enter, within]
  | succ left => simp [Draft.enter, within, Nat.add_comm 1 depth]

mutual
theorem to_json_of_json (budget : Nat) (json : Json) (ranged : json.InRange Numeral.Readable) :
    (Draft.ofJson json).toJson budget = within budget json.nest json := by
  cases json with
  | null => rfl
  | bool b => rfl
  | number numeral =>
      have inRange : numeral.number?.isSome = true := ranged
      rw [Draft.ofJson, Draft.toJson, if_pos inRange]
      rfl
  | string text => rfl
  | array items =>
      rw [Draft.ofJson, Draft.toJson, Json.nest, ← within_enter]
      refine bind_congr fun left => ?_
      rw [to_json_items_of_json left items ranged, within_map]
  | object members =>
      rw [Draft.ofJson, Draft.toJson, Json.nest, ← within_enter]
      refine bind_congr fun left => ?_
      rw [to_json_members_of_json left members ranged, within_map]
theorem to_json_items_of_json (budget : Nat) (items : List Json)
    (ranged : Json.InRangeItems Numeral.Readable items) :
    Draft.toJsonItems budget .closed (Draft.ofJsonItems items) = within budget (Json.nestItems items) items := by
  cases items with
  | nil => rfl
  | cons item rest =>
      rw [Draft.ofJsonItems, Draft.toJsonItems, to_json_of_json budget item ranged.1, Json.nestItems,
        to_json_items_of_json budget rest ranged.2]
      exact within_both budget _ _ item rest List.cons
theorem to_json_members_of_json (budget : Nat) (members : List (String × Json))
    (ranged : Json.InRangeMembers Numeral.Readable members) :
    Draft.toJsonMembers budget .closed (Draft.ofJsonMembers members) =
      within budget (Json.nestMembers members) members := by
  cases members with
  | nil => rfl
  | cons member rest =>
      obtain ⟨key, item⟩ := member
      rw [Draft.ofJsonMembers, Draft.toJsonMembers, to_json_of_json budget item ranged.1, Json.nestMembers,
        to_json_members_of_json budget rest ranged.2]
      exact within_both budget _ _ item rest fun item rest => (key, item) :: rest
end

theorem nest_members_le_iff (members : List (String × Json)) (bound : Nat) :
    Json.nestMembers members ≤ bound ↔ ∀ member ∈ members, member.2.nest ≤ bound := by
  induction members with
  | nil => simp [Json.nestMembers]
  | cons member rest ih => rw [Json.nestMembers, Nat.max_le, ih, List.forall_mem_cons]

theorem enter_iff (budget left : Nat) : Draft.enter budget = .ok left ↔ budget = 1 + left := by
  cases budget <;> simp [Draft.enter, Nat.add_comm 1, eq_comm]

theorem close_iff (ending : Ending) (closed : Unit) : Draft.close ending = .ok closed ↔ ending = .closed := by
  cases ending <;> simp [Draft.close]

mutual
/-- What is read as a value is the draft of just this value. -/
theorem to_json_draft (budget : Nat) (draft : Draft) (json : Json) (read : draft.toJson budget = .ok json) :
    draft = Draft.ofJson json ∧ json.InRange Numeral.Readable := by
  cases draft with
  | null =>
      cases read
      exact ⟨rfl, trivial⟩
  | bool b =>
      cases read
      exact ⟨rfl, trivial⟩
  | number numeral =>
      rw [Draft.toJson] at read
      split at read
      · cases read
        exact ⟨rfl, by assumption⟩
      · cases read
  | string text =>
      cases text <;> cases read
      exact ⟨rfl, trivial⟩
  | array items ending =>
      rw [Draft.toJson] at read
      obtain ⟨left, entered, read⟩ := bind_ok_steps _ _ _ read
      obtain ⟨values, readItems, read⟩ := bind_ok_steps _ _ _ read
      cases read
      obtain ⟨closed, same, ranged⟩ := to_json_items_draft left ending items values readItems
      rw [closed, same, Draft.ofJson]
      exact ⟨rfl, ranged⟩
  | object members ending =>
      rw [Draft.toJson] at read
      obtain ⟨left, entered, read⟩ := bind_ok_steps _ _ _ read
      obtain ⟨values, readMembers, read⟩ := bind_ok_steps _ _ _ read
      cases read
      obtain ⟨closed, same, ranged⟩ := to_json_members_draft left ending members values readMembers
      rw [closed, same, Draft.ofJson]
      exact ⟨rfl, ranged⟩
  | broken fault => cases read
theorem to_json_items_draft (budget : Nat) (ending : Ending) (items : List Draft) (values : List Json)
    (read : Draft.toJsonItems budget ending items = .ok values) :
    ending = .closed ∧ items = Draft.ofJsonItems values ∧ Json.InRangeItems Numeral.Readable values := by
  cases items with
  | nil =>
      rw [Draft.toJsonItems] at read
      obtain ⟨_, closed, read⟩ := bind_ok_steps _ _ _ read
      cases read
      exact ⟨(close_iff ending ()).mp closed, rfl, trivial⟩
  | cons item rest =>
      rw [Draft.toJsonItems] at read
      obtain ⟨value, first, read⟩ := bind_ok_steps _ _ _ read
      obtain ⟨others, behind, read⟩ := bind_ok_steps _ _ _ read
      cases read
      obtain ⟨here, ranged⟩ := to_json_draft budget item value first
      obtain ⟨closed, same, others⟩ := to_json_items_draft budget ending rest others behind
      rw [here, same, Draft.ofJsonItems]
      exact ⟨closed, rfl, ranged, others⟩
theorem to_json_members_draft (budget : Nat) (ending : Ending) (members : List (Option String × Draft))
    (values : List (String × Json)) (read : Draft.toJsonMembers budget ending members = .ok values) :
    ending = .closed ∧ members = Draft.ofJsonMembers values ∧ Json.InRangeMembers Numeral.Readable values := by
  cases members with
  | nil =>
      rw [Draft.toJsonMembers] at read
      obtain ⟨_, closed, read⟩ := bind_ok_steps _ _ _ read
      cases read
      exact ⟨(close_iff ending ()).mp closed, rfl, trivial⟩
  | cons member rest =>
      obtain ⟨key, item⟩ := member
      cases key with
      | none => cases read
      | some key =>
          rw [Draft.toJsonMembers] at read
          obtain ⟨value, first, read⟩ := bind_ok_steps _ _ _ read
          obtain ⟨others, behind, read⟩ := bind_ok_steps _ _ _ read
          cases read
          obtain ⟨here, ranged⟩ := to_json_draft budget item value first
          obtain ⟨closed, same, others⟩ := to_json_members_draft budget ending rest others behind
          rw [here, same, Draft.ofJsonMembers]
          exact ⟨closed, rfl, ranged, others⟩
end

theorem to_json_iff (budget : Nat) (draft : Draft) (json : Json) :
    draft.toJson budget = .ok json ↔
      draft = Draft.ofJson json ∧ json.InRange Numeral.Readable ∧ json.nest ≤ budget := by
  constructor
  · intro read
    obtain ⟨same, ranged⟩ := to_json_draft budget draft json read
    rw [same, to_json_of_json budget json ranged] at read
    exact ⟨same, ranged, ((within_ok_iff _ _ _ _).mp read).2⟩
  · rintro ⟨same, ranged, shallow⟩
    rw [same, to_json_of_json budget json ranged, within_ok _ _ _ shallow]

theorem to_json_items_iff (budget : Nat) (ending : Ending) (items : List Draft) (values : List Json) :
    Draft.toJsonItems budget ending items = .ok values ↔
      ending = .closed ∧ items = Draft.ofJsonItems values ∧ Json.InRangeItems Numeral.Readable values ∧
        Json.nestItems values ≤ budget := by
  constructor
  · intro read
    obtain ⟨closed, same, ranged⟩ := to_json_items_draft budget ending items values read
    rw [closed, same, to_json_items_of_json budget values ranged] at read
    exact ⟨closed, same, ranged, ((within_ok_iff _ _ _ _).mp read).2⟩
  · rintro ⟨closed, same, ranged, shallow⟩
    rw [closed, same, to_json_items_of_json budget values ranged, within_ok _ _ _ shallow]

theorem to_json_nest (budget : Nat) (draft : Draft) (json : Json) (read : draft.toJson budget = .ok json) :
    json.nest ≤ budget :=
  ((to_json_iff budget draft json).mp read).2.2

theorem to_json_items_nest (budget : Nat) (ending : Ending) (items : List Draft) (values : List Json)
    (read : Draft.toJsonItems budget ending items = .ok values) : Json.nestItems values ≤ budget :=
  ((to_json_items_iff budget ending items values).mp read).2.2.2

theorem fold_members_keeps {σ : Type} (step : σ → String → Draft → Except ReadError σ) (ending : Ending)
    (holds : σ → Prop) (each : ∀ state key item next, holds state → step state key item = .ok next → holds next)
    (members : List (Option String × Draft)) (state result : σ) (start : holds state)
    (folded : Draft.foldMembers step ending state members = .ok result) : holds result := by
  induction members generalizing state with
  | nil =>
      rw [Draft.foldMembers] at folded
      obtain ⟨_, _, folded⟩ := bind_ok_steps _ _ _ folded
      cases folded
      exact start
  | cons member rest ih =>
      obtain ⟨key, item⟩ := member
      cases key with
      | none => cases folded
      | some key =>
          rw [Draft.foldMembers] at folded
          obtain ⟨next, taken, folded⟩ := bind_ok_steps _ _ _ folded
          exact ih next (each state key item next start taken) folded

end QueryShingles
