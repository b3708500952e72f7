import QueryShingles.Proofs.ClauseReading
import QueryShingles.Proofs.Recognition

/-!
The many values that give one document. The members of an object may come in any order, those that have a default may
be left out where they have it, names that the object does not know are passed over, and an array may stand for an
object. A text that spells any of these values is read as the document.
-/

set_option autoImplicit false

namespace QueryShingles

open ClauseDocument

namespace Json

def Gives (members : List (String × Json)) (name : String) (value : Json) : Prop :=
  members.filter (·.1 = name) = [(name, value)]

def GivesUnless (assumed : Prop) (members : List (String × Json)) (name : String) (value : Json) : Prop :=
  Gives members name value ∨ assumed ∧ ∀ member ∈ members, member.1 ≠ name

def ofField (field : Option String) : Json := field.elim .null .string

end Json

open Json (Gives GivesUnless)

namespace ClauseDocument

/-- A group as an object, whose other members have names that no group knows, or as an array in order. -/
def GivesGroup (kind : ClauseKind) (occur : Occur) (generated : Bool) (items : List Json) : Json → Prop
  | .object members => Gives members "type" (.string kind.name) ∧
      GivesUnless (occur = .should) members "occur" (.string occur.name) ∧
      GivesUnless (generated = false) members "generated" (.bool generated) ∧ Gives members "clauses" (.array items)
  | .array values => values = [.string kind.name, .string occur.name, .bool generated, .array items]
  | _ => False

def GivesTerm (field : Option String) (value : String) (generated : Bool) : Json → Prop
  | .object members => Gives members "type" (.string ClauseKind.term.name) ∧
      GivesUnless (field = none) members "field" (Json.ofField field) ∧ Gives members "value" (.string value) ∧
      GivesUnless (generated = false) members "generated" (.bool generated)
  | .array values => values = [.string ClauseKind.term.name, Json.ofField field, .string value, .bool generated] ∨
      generated = false ∧ values = [.string ClauseKind.term.name, Json.ofField field, .string value]
  | _ => False

mutual
def GivenBy : ClauseDocument → Json → Prop
  | .boolean occur generated clauses, json =>
      ∃ items, AllGivenBy clauses items ∧ GivesGroup .boolean occur generated items json
  | .disjunctionMax occur generated clauses, json =>
      ∃ items, AllGivenBy clauses items ∧ GivesGroup .disjunctionMax occur generated items json
  | .term field value generated, json => GivesTerm field value generated json
def AllGivenBy : List ClauseDocument → List Json → Prop
  | [], items => items = []
  | clause :: rest, items => ∃ first others, clause.GivenBy first ∧ AllGivenBy rest others ∧ items = first :: others
end

end ClauseDocument

def Document.GivenBy (document : Document) : Json → Prop
  | .object members => ∃ items, AllGivenBy document.clauses items ∧
      GivesUnless (document.generated = false) members "generated" (.bool document.generated) ∧
      Gives members "clauses" (.array items)
  | .array values => ∃ items, AllGivenBy document.clauses items ∧ values = [.bool document.generated, .array items]
  | _ => False

section

variable {ε α : Type} (members : List (String × Json)) (name : String) (value : Json)

theorem gives_fills (read : Json → Except ε α) (found : α) (gives : Gives members name value)
    (reads : read value = .ok found) : Fills name read none members (some found) := by
  rw [← fills_named, gives, fills_here]
  exact ⟨rfl, found, reads, rfl⟩

theorem gives_unless_fills (assumed : Prop) (read : Json → Except ε α) (found default : α)
    (gives : GivesUnless assumed members name value) (reads : read value = .ok found)
    (same : assumed → found = default) :
    ∃ filled, Fills name read none members filled ∧ filled.getD default = found := by
  rcases gives with given | ⟨isAssumed, absent⟩
  · exact ⟨some found, gives_fills members name value read found given reads, rfl⟩
  · exact ⟨none, (fills_absent name read none none members absent).mpr rfl, (same isAssumed).symm⟩

theorem gives_member (gives : Gives members name value) : (name, value) ∈ members := by
  have listed : (name, value) ∈ members.filter (·.1 = name) := by
    rw [gives]
    exact List.mem_singleton_self _
  exact List.mem_of_mem_filter listed

theorem gives_value (item : Json) (gives : Gives members name value) (member : (name, item) ∈ members) :
    item = value := by
  have listed : (name, item) ∈ members.filter (·.1 = name) := List.mem_filter.mpr ⟨member, by simp⟩
  rw [gives, List.mem_singleton] at listed
  exact (Prod.mk.inj listed).2

end

theorem read_kind_name (kind : ClauseKind) : (Json.string kind.name).readKind = .ok kind := kind_of_name kind

theorem gives_type_named (members : List (String × Json)) (name : String)
    (gives : Gives members "type" (.string name)) : (Json.object members).TypeNamed := by
  rintro ⟨key, item⟩ member isType
  subst isType
  exact ⟨name, gives_value members "type" _ item gives member⟩

theorem group_given (kind : ClauseKind) (isGroup : kind ≠ .term) (occur : Occur) (generated : Bool)
    (items : List Json) (clauses : List ClauseDocument) (json : Json) (read : ofJsonItems items = .ok clauses)
    (gives : GivesGroup kind occur generated items json) :
    json.TypeNamed ∧ ClauseDocument.ofJson json = .ok (group kind occur generated clauses) := by
  cases json with
  | object members =>
      obtain ⟨typed, occurs, flag, below⟩ := gives
      refine ⟨gives_type_named members kind.name typed, (of_json_object_iff members _).mpr ⟨kind, ?_, ?_⟩⟩
      · exact gives_fills members "type" _ Json.readKind kind typed (read_kind_name kind)
      · obtain ⟨occurFilled, fillsOccur, isOccur⟩ := gives_unless_fills members "occur" _ _ Json.readOccur occur .should
          occurs (occur_of_name occur) id
        obtain ⟨flagFilled, fillsFlag, isFlag⟩ := gives_unless_fills members "generated" _ _ Json.readBool generated
          false flag rfl id
        have fillsClauses := gives_fills members "clauses" _ readClauses clauses below read
        refine (of_members_group_iff kind isGroup members _).mpr ((of_group_members_iff kind .empty members _).mpr
          ⟨⟨occurFilled, flagFilled, some clauses⟩, fillsOccur, fillsFlag, fillsClauses, ?_⟩)
        simp [finishGroup, Json.require, isOccur, isFlag]
  | array values =>
      rw [show values = _ from gives]
      refine ⟨⟨kind.name, rfl⟩, (of_json_array_iff _ _ _).mpr ⟨kind, read_kind_name kind, ?_⟩⟩
      have items : ofGroupItems kind [.string occur.name, .bool generated, .array items] =
          .ok (group kind occur generated clauses) := by
        simp [ofGroupItems, Json.readOccur, Json.readBool, readClauses, read, noMoreItems]
      cases kind with
      | term => exact absurd rfl isGroup
      | boolean => exact items
      | disjunctionMax => exact items
  | null => exact gives.elim
  | bool b => exact gives.elim
  | number numeral => exact gives.elim
  | string text => exact gives.elim

theorem read_field (field : Option String) : (Json.ofField field).readOptionalString = .ok field := by
  cases field <;> rfl

theorem term_given (field : Option String) (value : String) (generated : Bool) (json : Json)
    (gives : GivesTerm field value generated json) :
    json.TypeNamed ∧ ClauseDocument.ofJson json = .ok (.term field value generated) := by
  cases json with
  | object members =>
      obtain ⟨typed, named, word, flag⟩ := gives
      refine ⟨gives_type_named members _ typed, (of_json_object_iff members _).mpr ⟨.term, ?_, ?_⟩⟩
      · exact gives_fills members "type" _ Json.readKind .term typed (read_kind_name .term)
      · obtain ⟨fieldFilled, fillsField, isField⟩ := gives_unless_fills members "field" _ _ Json.readOptionalString
          field none named (read_field field) id
        obtain ⟨flagFilled, fillsFlag, isFlag⟩ := gives_unless_fills members "generated" _ _ Json.readBool generated
          false flag rfl id
        have fillsValue := gives_fills members "value" _ Json.readString value word rfl
        refine (of_term_members_iff .empty members _).mpr
          ⟨⟨fieldFilled, some value, flagFilled⟩, fillsField, fillsValue, fillsFlag, ?_⟩
        simp [finishTerm, Json.require, isField, isFlag]
  | array values =>
      rcases gives with whole | ⟨notGenerated, short⟩
      · rw [whole]
        refine ⟨⟨_, rfl⟩, (of_json_array_iff _ _ _).mpr ⟨.term, read_kind_name .term, ?_⟩⟩
        simp [ofItems, ofTermItems, read_field, Json.readString, Json.readBool, noMoreItems]
      · rw [short, notGenerated]
        refine ⟨⟨_, rfl⟩, (of_json_array_iff _ _ _).mpr ⟨.term, read_kind_name .term, ?_⟩⟩
        simp [ofItems, ofTermItems, read_field, Json.readString]
  | null => exact gives.elim
  | bool b => exact gives.elim
  | number numeral => exact gives.elim
  | string text => exact gives.elim

mutual
theorem clause_given (clause : ClauseDocument) (json : Json) (gives : clause.GivenBy json) :
    json.TypeNamed ∧ ClauseDocument.ofJson json = .ok clause := by
  cases clause with
  | boolean occur generated clauses =>
      obtain ⟨items, below, gives⟩ := gives
      exact group_given .boolean (by decide) occur generated items clauses json
        (clauses_given clauses items below).2 gives
  | disjunctionMax occur generated clauses =>
      obtain ⟨items, below, gives⟩ := gives
      exact group_given .disjunctionMax (by decide) occur generated items clauses json
        (clauses_given clauses items below).2 gives
  | term field value generated => exact term_given field value generated json gives
theorem clauses_given (clauses : List ClauseDocument) (items : List Json) (gives : AllGivenBy clauses items) :
    (∀ item ∈ items, item.TypeNamed) ∧ ofJsonItems items = .ok clauses := by
  cases clauses with
  | nil =>
      rw [show items = [] from gives]
      exact ⟨by simp, rfl⟩
  | cons clause rest =>
      obtain ⟨first, others, here, behind, rfl⟩ := gives
      obtain ⟨named, read⟩ := clause_given clause first here
      obtain ⟨allNamed, allRead⟩ := clauses_given rest others behind
      refine ⟨List.forall_mem_cons.mpr ⟨named, allNamed⟩, ?_⟩
      rw [ofJsonItems, read, allRead]
      rfl
end

mutual
theorem skip_of_json (json : Json) : (Draft.ofJson json).skip = .ok () := by
  cases json with
  | null => rfl
  | bool b => rfl
  | number numeral => rfl
  | string text => rfl
  | array items => exact skip_items_of_json items
  | object members => exact skip_members_of_json members
theorem skip_items_of_json (items : List Json) : Draft.skipItems .closed (Draft.ofJsonItems items) = .ok () := by
  cases items with
  | nil => rfl
  | cons item rest =>
      rw [Draft.ofJsonItems, Draft.skipItems, skip_of_json item]
      exact skip_items_of_json rest
theorem skip_members_of_json (members : List (String × Json)) :
    Draft.skipMembers .closed (Draft.ofJsonMembers members) = .ok () := by
  cases members with
  | nil => rfl
  | cons member rest =>
      obtain ⟨key, item⟩ := member
      rw [Draft.ofJsonMembers, Draft.skipMembers, skip_of_json item]
      exact skip_members_of_json rest
end

theorem clauses_read (budget : Nat) (items : List Json) (clauses : List ClauseDocument)
    (named : ∀ item ∈ items, item.TypeNamed) (ranged : Json.InRangeItems Numeral.Readable items)
    (shallow : Json.nestItems items ≤ budget) (read : ofJsonItems items = .ok clauses) :
    List.Forall₂ (fun draft clause => ClauseDocument.read budget draft = .ok clause) (Draft.ofJsonItems items)
      clauses := by
  induction items generalizing clauses with
  | nil =>
      cases read
      exact .nil
  | cons item rest ih =>
      rw [ofJsonItems] at read
      obtain ⟨clause, here, read⟩ := bind_ok_steps _ _ _ read
      obtain ⟨others, behind, read⟩ := bind_ok_steps _ _ _ read
      cases read
      obtain ⟨nest, nestRest⟩ := Nat.max_le.mp shallow
      obtain ⟨isNamed, allNamed⟩ := List.forall_mem_cons.mp named
      exact .cons ((clause_read_iff budget _ clause).mpr ⟨item, rfl, ranged.1, nest, isNamed, here⟩)
        (ih others allNamed ranged.2 nestRest behind)

theorem sequence_given (budget : Nat) (clauses : List ClauseDocument) (items : List Json)
    (gives : AllGivenBy clauses items) (ranged : (Json.array items).InRange Numeral.Readable)
    (shallow : (Json.array items).nest ≤ budget) :
    (Draft.ofJson (.array items)).readSequence ClauseDocument.read budget = .ok clauses := by
  obtain ⟨named, read⟩ := clauses_given clauses items gives
  have below : 1 + Json.nestItems items ≤ budget := shallow
  exact (read_sequence_iff ClauseDocument.read budget _ clauses).mpr ⟨budget - 1, Draft.ofJsonItems items, by omega,
    rfl, clauses_read (budget - 1) items clauses named ranged (by omega) read⟩

theorem document_given (budget : Nat) (document : Document) (json : Json) (gives : document.GivenBy json)
    (ranged : json.InRange Numeral.Readable) (shallow : json.nest ≤ budget) :
    Document.read budget (Draft.ofJson json) = .ok document := by
  cases json with
  | object members =>
      obtain ⟨items, below, flag, held⟩ := gives
      have nest : 1 + Json.nestMembers members ≤ budget := shallow
      have inner := gives_member members _ _ held
      have sequence := sequence_given (budget - 1) document.clauses items below
        ((in_range_members_iff _ members).mp ranged _ inner)
        ((nest_members_le_iff members (budget - 1)).mp (by omega) _ inner)
      obtain ⟨filled, fills, isFlag⟩ := gives_unless_fills members "generated" _ _ (Draft.readBool ∘ Draft.ofJson)
        document.generated false flag rfl id
      have fillsClauses := gives_fills members "clauses" _
        (Draft.readSequence ClauseDocument.read (budget - 1) ∘ Draft.ofJson) document.clauses held sequence
      refine (document_object_iff budget _ _ document).mpr ⟨budget - 1, members.map (Prod.map id Draft.ofJson),
        by omega, rfl, of_json_members_map members, filled, (fills_map _ _ _ _ _ members).mpr fills, isFlag,
        (fills_map _ _ _ _ _ members).mpr fillsClauses, ?_⟩
      intro member listed _ _
      obtain ⟨other, _, rfl⟩ := List.mem_map.mp listed
      exact skip_of_json other.2
  | array values =>
      obtain ⟨items, below, rfl⟩ := gives
      have nest : 1 + max 0 (max (Json.array items).nest 0) ≤ budget := shallow
      exact (document_array_iff budget _ _ document).mpr ⟨budget - 1, _, _, by omega, rfl, rfl, rfl,
        sequence_given (budget - 1) document.clauses items below ranged.2.1 (by omega)⟩
  | null => exact gives.elim
  | bool b => exact gives.elim
  | number numeral => exact gives.elim
  | string text => exact gives.elim

theorem given_text_read (document : Document) (json : Json) (text : String) (gives : document.GivenBy json)
    (spelled : json.TextSpelling text) (ranged : json.InRange Numeral.Readable) (shallow : json.nest ≤ nestingLimit) :
    Document.ofText text = .ok document := by
  obtain ⟨back, scanned, isGap⟩ := (text_spelling_iff json text).mp spelled
  rw [Document.ofText, read_text_ok_iff, scanned]
  exact ⟨document_given nestingLimit document json gives ranged shallow, isGap⟩

end QueryShingles
