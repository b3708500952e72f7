import Mathlib.Data.List.Forall2
import QueryShingles.Proofs.Members
import QueryShingles.Proofs.RoundTrip

/-!
What is read out of a text as a clause or as a document, and when. A clause of a document is read just as one inside
another clause, but for its type, which has to be a name.
-/

set_option autoImplicit false

namespace QueryShingles

open ClauseDocument

def Json.TypeNamed : Json → Prop
  | .object members => ∀ member ∈ members, member.1 = "type" → ∃ name, member.2 = .string name
  | .array (tag :: _) => ∃ name, tag = .string name
  | _ => True

theorem in_range_members_iff (range : Numeral → Prop) (members : List (String × Json)) :
    Json.InRangeMembers range members ↔ ∀ member ∈ members, member.2.InRange range := by
  induction members with
  | nil => simp [Json.InRangeMembers]
  | cons member rest ih => rw [Json.InRangeMembers, ih, List.forall_mem_cons]

theorem read_kind_iff (draft : Draft) (kind : ClauseKind) :
    ClauseDocument.readKind draft = .ok kind ↔
      ∃ name, draft = .string (some name) ∧ (Json.string name).readKind = .ok kind := by
  constructor
  · intro read
    unfold ClauseDocument.readKind at read
    split at read
    · exact ⟨_, rfl, (lift_iff _ _).mp read⟩
    · exact absurd read (refuse_never _ _ kind)
  · rintro ⟨name, rfl, read⟩
    exact (lift_iff _ _).mpr read

theorem read_type_iff (budget : Nat) (seen next : ClauseMembers) (item : Draft) :
    ClauseDocument.readMember budget seen "type" item = .ok next ↔ seen.kind = none ∧ ∃ name kind,
      item = .string (some name) ∧ (Json.string name).readKind = .ok kind ∧ next = ⟨some kind, seen.others⟩ := by
  simp only [ClauseDocument.readMember, reduceIte, bind_ok_iff, draft_fill_iff, read_kind_iff, pure_is_ok,
    Except.ok.injEq]
  grind

theorem read_other_iff (budget : Nat) (seen next : ClauseMembers) (key : String) (item : Draft) (other : key ≠ "type") :
    ClauseDocument.readMember budget seen key item = .ok next ↔ ∃ json, item = Draft.ofJson json ∧
      json.InRange Numeral.Readable ∧ json.nest ≤ budget ∧ next = ⟨seen.kind, (key, json) :: seen.others⟩ := by
  simp only [ClauseDocument.readMember, if_neg other, bind_ok_iff, to_json_iff, pure_is_ok, Except.ok.injEq]
  grind

theorem read_member_iff (budget : Nat) (seen next : ClauseMembers) (key : String) (item : Draft) :
    ClauseDocument.readMember budget seen key item = .ok next ↔ ∃ json, item = Draft.ofJson json ∧
      (json.InRange Numeral.Readable ∧ json.nest ≤ budget ∧ (key = "type" → ∃ name, json = .string name)) ∧
      Fills "type" Json.readKind seen.kind [(key, json)] next.kind ∧
      next.others = [(key, json)].filter (·.1 ≠ "type") ++ seen.others := by
  obtain ⟨kind, others⟩ := next
  by_cases isType : key = "type"
  · subst isType
    rw [read_type_iff]
    constructor
    · rintro ⟨empty, name, found, rfl, read, same⟩
      cases same
      exact ⟨.string name, rfl, ⟨trivial, Nat.zero_le _, fun _ => ⟨name, rfl⟩⟩,
        (fills_here _ _ _ _ _ _).mpr ⟨empty, found, read, rfl⟩, rfl⟩
    · rintro ⟨json, rfl, ⟨_, _, isName⟩, fills, same⟩
      obtain ⟨name, rfl⟩ := isName rfl
      obtain ⟨empty, found, read, filled⟩ := (fills_here _ _ _ _ _ _).mp fills
      cases filled
      cases same
      exact ⟨empty, name, found, rfl, read, rfl⟩
  · rw [read_other_iff budget seen _ key item isType]
    simp [fills_other _ _ _ _ _ _ _ isType, isType, and_assoc]

theorem clause_fold_iff (budget : Nat) (seen filled : ClauseMembers) (named : List (String × Draft)) :
    named.foldlM (fun seen member => ClauseDocument.readMember budget seen member.1 member.2) seen = .ok filled ↔
      ∃ members : List (String × Json), named = members.map (Prod.map id Draft.ofJson) ∧
      (∀ member ∈ members, member.2.InRange Numeral.Readable ∧ member.2.nest ≤ budget ∧
        (member.1 = "type" → ∃ name, member.2 = .string name)) ∧
      Fills "type" Json.readKind seen.kind members filled.kind ∧
      filled.others = (members.filter (·.1 ≠ "type")).reverse ++ seen.others := by
  induction named generalizing seen with
  | nil =>
      obtain ⟨kind, others⟩ := filled
      obtain ⟨before, listed⟩ := seen
      constructor
      · intro folded
        cases folded
        exact ⟨[], rfl, by simp, rfl, rfl⟩
      · rintro ⟨members, none, _, kinds, behind⟩
        cases List.map_eq_nil_iff.mp none.symm
        cases kinds
        cases behind
        rfl
  | cons member rest ih =>
      obtain ⟨key, item⟩ := member
      have kept (json : Json) (members : List (String × Json)) :
          (members.filter (·.1 ≠ "type")).reverse ++ ([(key, json)].filter (·.1 ≠ "type") ++ seen.others) =
            (((key, json) :: members).filter (·.1 ≠ "type")).reverse ++ seen.others := by
        by_cases isType : key = "type" <;> simp [isType]
      simp only [List.foldlM_cons, bind_ok_iff, ih, read_member_iff]
      constructor
      · rintro ⟨next, ⟨json, rfl, sound, here, taken⟩, members, rfl, each, kinds, behind⟩
        refine ⟨(key, json) :: members, rfl, List.forall_mem_cons.mpr ⟨sound, each⟩,
          (fills_first _ _ _ _ _ _ _).mpr ⟨next.kind, here, kinds⟩, ?_⟩
        rw [behind, taken, kept]
      · rintro ⟨members, same, each, kinds, behind⟩
        cases members with
        | nil => cases same
        | cons first members =>
            obtain ⟨other, json⟩ := first
            obtain ⟨here, others⟩ := List.cons.inj same
            obtain ⟨rfl, rfl⟩ : key = other ∧ item = Draft.ofJson json := Prod.mk.inj here
            obtain ⟨sound, rest⟩ := List.forall_mem_cons.mp each
            obtain ⟨kind, here, kinds⟩ := (fills_first _ _ _ _ _ _ _).mp kinds
            exact ⟨⟨kind, _⟩, ⟨json, rfl, sound, here, rfl⟩, members, others, rest, kinds, by rw [behind, kept]⟩

theorem of_members_group_iff (kind : ClauseKind) (group : kind ≠ .term) (members : List (String × Json))
    (clause : ClauseDocument) :
    ofMembers kind members = .ok clause ↔ ofGroupMembers kind .empty members = .ok clause := by
  cases kind with
  | term => exact absurd rfl group
  | boolean => rfl
  | disjunctionMax => rfl

theorem of_members_filter (kind : ClauseKind) (members : List (String × Json)) (clause : ClauseDocument) :
    ofMembers kind (members.filter (·.1 ≠ "type")) = .ok clause ↔ ofMembers kind members = .ok clause := by
  by_cases isTerm : kind = .term
  · subst isTerm
    simp only [ofMembers, of_term_members_iff, fills_filter _ _ _ _ _ "type" (by decide : "type" ≠ "field"),
      fills_filter _ _ _ _ _ "type" (by decide : "type" ≠ "value"),
      fills_filter _ _ _ _ _ "type" (by decide : "type" ≠ "generated")]
  · rw [of_members_group_iff kind isTerm, of_members_group_iff kind isTerm]
    simp only [of_group_members_iff, fills_filter _ _ _ _ _ "type" (by decide : "type" ≠ "occur"),
      fills_filter _ _ _ _ _ "type" (by decide : "type" ≠ "generated"),
      fills_filter _ _ _ _ _ "type" (by decide : "type" ≠ "clauses")]

theorem of_json_object_iff (members : List (String × Json)) (clause : ClauseDocument) :
    ClauseDocument.ofJson (.object members) = .ok clause ↔
      ∃ kind, Fills "type" Json.readKind none members (some kind) ∧ ofMembers kind members = .ok clause := by
  simp only [ClauseDocument.ofJson, bind_ok_iff, kind_of_iff]
  refine exists_congr fun kind => and_congr_right fun _ => ?_
  cases kind <;> rfl

theorem of_json_array_iff (tag : Json) (items : List Json) (clause : ClauseDocument) :
    ClauseDocument.ofJson (.array (tag :: items)) = .ok clause ↔
      ∃ kind, tag.readKind = .ok kind ∧ ofItems kind items = .ok clause := by
  simp only [ClauseDocument.ofJson, bind_ok_iff]
  refine exists_congr fun kind => and_congr_right fun _ => ?_
  cases kind <;> rfl

theorem read_object_iff (budget : Nat) (members : List (Option String × Draft)) (ending : Ending)
    (clause : ClauseDocument) :
    ClauseDocument.read budget (.object members ending) = .ok clause ↔ ∃ values : List (String × Json),
      Draft.object members ending = Draft.ofJson (.object values) ∧ (Json.object values).InRange Numeral.Readable ∧
      (Json.object values).nest ≤ budget ∧ (Json.object values).TypeNamed ∧
      ClauseDocument.ofJson (.object values) = .ok clause := by
  simp only [ClauseDocument.read, bind_ok_iff, enter_iff, fold_members_iff, clause_fold_iff, draft_require_iff,
    lift_iff, of_json_object_iff]
  constructor
  · rintro ⟨left, rfl, seen, ⟨rfl, named, rfl, values, rfl, each, kinds, others⟩, kind, present, read⟩
    rw [others, List.append_nil, List.reverse_reverse, of_members_filter] at read
    rw [present] at kinds
    refine ⟨values, ?_, (in_range_members_iff _ values).mpr fun member listed => (each member listed).1, ?_,
      fun member listed => (each member listed).2.2, kind, kinds, read⟩
    · rw [Draft.ofJson, of_json_members_map]
    · exact Nat.add_le_add_left ((nest_members_le_iff values left).mpr fun member listed => (each member listed).2.1) 1
  · rintro ⟨values, same, ranged, shallow, named, kind, kinds, read⟩
    obtain ⟨rfl, rfl⟩ := Draft.object.inj same
    have left : 1 + Json.nestMembers values ≤ budget := shallow
    refine ⟨budget - 1, by omega, ⟨some kind, (values.filter (·.1 ≠ "type")).reverse⟩,
      ⟨rfl, _, of_json_members_map values, values, rfl, ?_, kinds, (List.append_nil _).symm⟩, kind, rfl, ?_⟩
    · intro member listed
      have below := (nest_members_le_iff values (budget - 1)).mp (by omega) member listed
      exact ⟨(in_range_members_iff _ values).mp ranged member listed, below, named member listed⟩
    · rw [List.reverse_reverse, of_members_filter]
      exact read

theorem read_array_iff (budget : Nat) (items : List Draft) (ending : Ending) (clause : ClauseDocument) :
    ClauseDocument.read budget (.array items ending) = .ok clause ↔ ∃ values : List Json,
      Draft.array items ending = Draft.ofJson (.array values) ∧ (Json.array values).InRange Numeral.Readable ∧
      (Json.array values).nest ≤ budget ∧ (Json.array values).TypeNamed ∧
      ClauseDocument.ofJson (.array values) = .ok clause := by
  cases items with
  | nil =>
      constructor
      · intro read
        rw [ClauseDocument.read] at read
        obtain ⟨_, _, read⟩ := bind_ok_steps _ _ _ read
        obtain ⟨_, next, read⟩ := bind_ok_steps _ _ _ read
        obtain ⟨_, _, rfl⟩ | ⟨_, _, same, _⟩ := (next_item_iff ending [] _).mp next
        · cases read
        · cases same
      · rintro ⟨values, same, _, _, _, read⟩
        cases values with
        | nil => cases read
        | cons tag items => cases same
  | cons tag rest =>
      simp only [ClauseDocument.read, Draft.nextItem, ok_bind, bind_ok_iff, enter_iff, read_kind_iff,
        to_json_items_iff, lift_iff]
      constructor
      · rintro ⟨left, rfl, kind, ⟨name, rfl, named⟩, values, ⟨rfl, rfl, ranged, shallow⟩, read⟩
        refine ⟨.string name :: values, rfl, ⟨trivial, ranged⟩, ?_, ⟨name, rfl⟩,
          (of_json_array_iff _ values clause).mpr ⟨kind, named, read⟩⟩
        simp only [Json.nest, Json.nestItems]
        omega
      · rintro ⟨values, same, ranged, shallow, typed, read⟩
        cases values with
        | nil => cases same
        | cons other values =>
            obtain ⟨name, rfl⟩ := typed
            obtain ⟨listed, rfl⟩ := Draft.array.inj same
            obtain ⟨rfl, rfl⟩ := List.cons.inj listed
            obtain ⟨kind, named, read⟩ := (of_json_array_iff _ values clause).mp read
            simp only [Json.nest, Json.nestItems] at shallow
            exact ⟨budget - 1, by omega, kind, ⟨name, rfl, named⟩, values, ⟨rfl, rfl, ranged.2, by omega⟩, read⟩

/-- A clause of a document is read if its draft is that of a value, sound and not too deep, which is read as the
clause and names its type. -/
theorem clause_read_iff (budget : Nat) (draft : Draft) (clause : ClauseDocument) :
    ClauseDocument.read budget draft = .ok clause ↔ ∃ json, draft = Draft.ofJson json ∧ json.InRange Numeral.Readable ∧
      json.nest ≤ budget ∧ json.TypeNamed ∧ ClauseDocument.ofJson json = .ok clause := by
  constructor
  · intro read
    cases draft with
    | object members ending =>
        obtain ⟨values, whole⟩ := (read_object_iff budget members ending clause).mp read
        exact ⟨_, whole⟩
    | array items ending =>
        obtain ⟨values, whole⟩ := (read_array_iff budget items ending clause).mp read
        exact ⟨_, whole⟩
    | null => exact absurd read (refuse_never _ _ clause)
    | bool b => exact absurd read (refuse_never _ _ clause)
    | number numeral => exact absurd read (refuse_never _ _ clause)
    | string text => exact absurd read (refuse_never _ _ clause)
    | broken fault => exact absurd read (refuse_never _ _ clause)
  · rintro ⟨json, same, whole⟩
    subst same
    cases json with
    | object values => exact (read_object_iff budget _ _ clause).mpr ⟨values, rfl, whole⟩
    | array values => exact (read_array_iff budget _ _ clause).mpr ⟨values, rfl, whole⟩
    | null => cases whole.2.2.2
    | bool b => cases whole.2.2.2
    | number numeral => cases whole.2.2.2
    | string text => cases whole.2.2.2

theorem read_items_each_iff {α : Type} (read : Draft → Except ReadError α) (ending : Ending) (items : List Draft)
    (found : List α) :
    Draft.readItems read ending items = .ok found ↔
      ending = .closed ∧ List.Forall₂ (fun item value => read item = .ok value) items found := by
  induction items generalizing found with
  | nil =>
      simp only [Draft.readItems, bind_ok_iff, close_iff, List.forall₂_nil_left_iff, pure_is_ok, Except.ok.injEq]
      grind
  | cons item rest ih =>
      simp only [Draft.readItems, bind_ok_iff, ih, pure_is_ok, Except.ok.injEq, List.forall₂_cons_left_iff]
      grind

theorem read_sequence_iff {α : Type} (read : Nat → Draft → Except ReadError α) (budget : Nat) (draft : Draft)
    (found : List α) :
    draft.readSequence read budget = .ok found ↔ ∃ left items, budget = 1 + left ∧ draft = .array items .closed ∧
      List.Forall₂ (fun item value => read left item = .ok value) items found := by
  cases draft with
  | array items ending =>
      simp only [Draft.readSequence, bind_ok_iff, enter_iff, read_items_each_iff]
      constructor
      · rintro ⟨left, entered, rfl, each⟩
        exact ⟨left, items, entered, rfl, each⟩
      · rintro ⟨left, listed, entered, same, each⟩
        cases same
        exact ⟨left, entered, rfl, each⟩
  | _ =>
      constructor
      · intro read
        exact absurd read (refuse_never _ _ found)
      · rintro ⟨_, _, _, same, _⟩
        cases same

theorem document_object_iff (budget : Nat) (members : List (Option String × Draft)) (ending : Ending)
    (document : Document) :
    Document.read budget (.object members ending) = .ok document ↔ ∃ left named, budget = 1 + left ∧
      ending = .closed ∧ members = named.map (Prod.map some id) ∧ ∃ generated : Option Bool,
      Fills "generated" Draft.readBool none named generated ∧ generated.getD false = document.generated ∧
      Fills "clauses" (Draft.readSequence ClauseDocument.read left) none named (some document.clauses) ∧
      ∀ member ∈ named, member.1 ≠ "generated" → member.1 ≠ "clauses" → member.2.skip = .ok () := by
  obtain ⟨generated, clauses⟩ := document
  simp only [Document.read, bind_ok_iff, enter_iff, fold_members_iff, document_fold_iff, draft_require_iff, pure_is_ok,
    Except.ok.injEq, Document.mk.injEq]
  constructor
  · rintro ⟨left, entered, seen, ⟨closed, named, same, flag, below, others⟩, found, present, isFlag, rfl⟩
    rw [present] at below
    exact ⟨left, named, entered, closed, same, seen.generated, flag, isFlag, below, others⟩
  · rintro ⟨left, named, entered, closed, same, flag, fills, isFlag, below, others⟩
    exact ⟨left, entered, ⟨flag, some clauses⟩, ⟨closed, named, same, fills, below, others⟩, clauses, rfl, isFlag, rfl⟩

theorem document_array_iff (budget : Nat) (items : List Draft) (ending : Ending) (document : Document) :
    Document.read budget (.array items ending) = .ok document ↔ ∃ left flag clauses, budget = 1 + left ∧
      ending = .closed ∧ items = [flag, clauses] ∧ flag.readBool = .ok document.generated ∧
      clauses.readSequence ClauseDocument.read left = .ok document.clauses := by
  obtain ⟨generated, clauses⟩ := document
  simp only [Document.read, bind_ok_iff, enter_iff, next_item_iff]
  constructor
  · rintro ⟨left, entered, _, ⟨rfl, rfl, rfl⟩ | ⟨flag, rest, rfl, rfl⟩, read⟩
    · cases read
    · simp only [bind_ok_iff, next_item_iff] at read
      obtain ⟨_, isFlag, _, ⟨rfl, rfl, rfl⟩ | ⟨below, rest, rfl, rfl⟩, read⟩ := read
      · cases read
      · simp only [bind_ok_iff, no_more_items_iff] at read
        obtain ⟨_, isBelow, _, ⟨rfl, rfl⟩, made⟩ := read
        cases made
        exact ⟨left, flag, below, entered, rfl, rfl, isFlag, isBelow⟩
  · rintro ⟨left, flag, below, entered, rfl, rfl, isFlag, isBelow⟩
    refine ⟨left, entered, _, .inr ⟨flag, [below], rfl, rfl⟩, ?_⟩
    simp only [Draft.nextItem, Draft.noMoreItems, Draft.close, isFlag, isBelow, ok_bind]
    rfl

end QueryShingles
