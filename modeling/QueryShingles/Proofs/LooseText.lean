import Mathlib.Data.List.Count
import QueryShingles.Proofs.LooseValues
import QueryShingles.Proofs.Rounding

/-!
The texts that are read as documents. However loosely a text spells a document, the document is read; but no text is
read in which an object gives a member twice that it knows.
-/

set_option autoImplicit false

namespace QueryShingles

open ClauseDocument

def ClauseKind.known : ClauseKind → List String
  | .term => ["type", "field", "value", "generated"]
  | _ => ["type", "occur", "generated", "clauses"]

namespace Draft

def Twice (members : List (Option String × Draft)) (name : String) : Prop :=
  2 ≤ (members.map Prod.fst).count (some name)

instance (members : List (Option String × Draft)) (name : String) : Decidable (Twice members name) :=
  inferInstanceAs (Decidable (2 ≤ _))

def IsType (kind : ClauseKind) : Draft → Prop
  | .string text => text = some kind.name
  | .number numeral => ∃ n, numeral.number? = some (.natural n) ∧ ClauseKind.all[n]? = some kind
  | _ => False

def MayBe (kind : ClauseKind) (members : List (Option String × Draft)) : Prop :=
  ∀ tag other, (some "type", tag) ∈ members → tag.IsType other → other = kind

/-- A clause gives a member twice that clauses of its kind know, or gives its type twice, or a clause below it
repeats. -/
inductive ClauseRepeats : Draft → Prop where
  | type (members : List (Option String × Draft)) (ending : Ending) (twice : Twice members "type") :
      ClauseRepeats (.object members ending)
  | member (members : List (Option String × Draft)) (ending : Ending) (kind : ClauseKind) (name : String)
      (mayBe : MayBe kind members) (known : name ∈ kind.known) (twice : Twice members name) :
      ClauseRepeats (.object members ending)
  | inside (members : List (Option String × Draft)) (ending inner : Ending) (kind : ClauseKind) (items : List Draft)
      (clause : Draft) (mayBe : MayBe kind members) (group : kind ≠ .term)
      (held : (some "clauses", .array items inner) ∈ members) (listed : clause ∈ items)
      (repeats : ClauseRepeats clause) : ClauseRepeats (.object members ending)
  | insideArray (tag occur generated : Draft) (items rest : List Draft) (ending inner : Ending) (clause : Draft)
      (group : ¬ tag.IsType .term) (listed : clause ∈ items) (repeats : ClauseRepeats clause) :
      ClauseRepeats (.array (tag :: occur :: generated :: .array items inner :: rest) ending)

inductive Repeats : Draft → Prop where
  | member (members : List (Option String × Draft)) (ending : Ending) (name : String)
      (known : name = "generated" ∨ name = "clauses") (twice : Twice members name) : Repeats (.object members ending)
  | inside (members : List (Option String × Draft)) (ending inner : Ending) (items : List Draft) (clause : Draft)
      (held : (some "clauses", .array items inner) ∈ members) (listed : clause ∈ items)
      (repeats : ClauseRepeats clause) : Repeats (.object members ending)
  | insideArray (generated : Draft) (items rest : List Draft) (ending inner : Ending) (clause : Draft)
      (listed : clause ∈ items) (repeats : ClauseRepeats clause) :
      Repeats (.array (generated :: .array items inner :: rest) ending)

end Draft

theorem of_json_members_member (members : List (String × Json)) (name : String) (draft : Draft)
    (listed : (some name, draft) ∈ Draft.ofJsonMembers members) :
    ∃ item, (name, item) ∈ members ∧ draft = Draft.ofJson item := by
  rw [of_json_members_map, List.map_map] at listed
  obtain ⟨⟨key, item⟩, member, same⟩ := List.mem_map.mp listed
  cases same
  exact ⟨item, member, rfl⟩

theorem named_twice {β : Type} (named : List (String × β)) (shown : β → Draft) (name : String)
    (twice : Draft.Twice (named.map (Prod.map some shown)) name) : 2 ≤ (named.map Prod.fst).count name := by
  have keys : (named.map (Prod.map some shown)).map Prod.fst = (named.map Prod.fst).map some := by
    rw [List.map_map, List.map_map]
    rfl
  rw [Draft.Twice, keys, List.count_map_of_injective _ some fun _ _ => Option.some.inj] at twice
  exact twice

theorem fills_not_twice {α β ε : Type} (name : String) (read : β → Except ε α) (filled : Option α)
    (members : List (String × β)) (fills : Fills name read none members filled) :
    ¬ 2 ≤ (members.map Prod.fst).count name := by
  have once := fills_once name read none filled members fills
  omega

theorem read_is_type (kind : ClauseKind) (tag : Json) (read : tag.readKind = .ok kind) :
    (Draft.ofJson tag).IsType kind := by
  cases tag with
  | string text =>
      have found : ClauseKind.ofName text = .ok kind := read
      simp only [ClauseKind.ofName, ClauseKind.all] at found
      split at found
      · rename_i other named
        cases found
        have same := List.find?_some named
        exact congrArg some (of_decide_eq_true same).symm
      · cases found
  | number numeral =>
      rw [Json.readKind] at read
      split at read
      · rename_i n whole
        split at read
        · rename_i other listed
          cases read
          exact ⟨n, whole, listed⟩
        · cases read
      · cases read
  | null => cases read
  | bool b => cases read
  | array items => cases read
  | object members => cases read

theorem members_known_once (kind : ClauseKind) (members : List (String × Json)) (clause : ClauseDocument)
    (name : String) (typed : Fills "type" Json.readKind none members (some kind))
    (read : ofMembers kind members = .ok clause) (known : name ∈ kind.known) : ¬ 2 ≤ (members.map Prod.fst).count name := by
  by_cases isTerm : kind = .term
  · subst isTerm
    obtain ⟨filled, field, value, generated, _⟩ := (of_term_members_iff .empty members clause).mp read
    simp only [ClauseKind.known, List.mem_cons, List.not_mem_nil, or_false] at known
    rcases known with rfl | rfl | rfl | rfl
    · exact fills_not_twice _ _ _ members typed
    · exact fills_not_twice _ _ _ members field
    · exact fills_not_twice _ _ _ members value
    · exact fills_not_twice _ _ _ members generated
  · obtain ⟨filled, occur, generated, clauses, _⟩ := (of_group_members_iff kind .empty members clause).mp
      ((of_members_group_iff kind isTerm members clause).mp read)
    have names : kind.known = ["type", "occur", "generated", "clauses"] := by
      cases kind with
      | term => exact absurd rfl isTerm
      | boolean => rfl
      | disjunctionMax => rfl
    simp only [names, List.mem_cons, List.not_mem_nil, or_false] at known
    rcases known with rfl | rfl | rfl | rfl
    · exact fills_not_twice _ _ _ members typed
    · exact fills_not_twice _ _ _ members occur
    · exact fills_not_twice _ _ _ members generated
    · exact fills_not_twice _ _ _ members clauses

theorem items_each_read (items : List Json) (clauses : List ClauseDocument) (read : ofJsonItems items = .ok clauses) :
    ∀ item ∈ items, ∃ clause, ClauseDocument.ofJson item = .ok clause := by
  induction items generalizing clauses with
  | nil => simp
  | cons item rest ih =>
      rw [ofJsonItems] at read
      obtain ⟨clause, here, read⟩ := bind_ok_steps _ _ _ read
      obtain ⟨others, behind, _⟩ := bind_ok_steps _ _ _ read
      exact List.forall_mem_cons.mpr ⟨⟨clause, here⟩, ih others behind⟩

theorem held_clauses_read (items : Json) (drafts : List Draft) (inner : Ending) (draft : Draft)
    (clauses : List ClauseDocument) (same : Draft.array drafts inner = Draft.ofJson items)
    (read : readClauses items = .ok clauses) (listed : draft ∈ drafts) :
    ∃ item clause, draft = Draft.ofJson item ∧ ClauseDocument.ofJson item = .ok clause := by
  cases items with
  | array items =>
      obtain ⟨rfl, _⟩ := Draft.array.inj same
      rw [of_json_items_map] at listed
      obtain ⟨item, member, rfl⟩ := List.mem_map.mp listed
      rw [readClauses] at read
      obtain ⟨clause, found⟩ := items_each_read items clauses read item member
      exact ⟨item, clause, rfl, found⟩
  | null => cases read
  | bool b => cases read
  | number numeral => cases read
  | string text => cases read
  | object members => cases read

theorem array_clauses_read (kind : ClauseKind) (isGroup : kind ≠ .term) (occur generated below : Json)
    (rest : List Json) (clause : ClauseDocument)
    (read : ofItems kind (occur :: generated :: below :: rest) = .ok clause) :
    ∃ clauses, readClauses below = .ok clauses := by
  have items : ofGroupItems kind (occur :: generated :: below :: rest) = .ok clause := by
    cases kind with
    | term => exact absurd rfl isGroup
    | boolean => exact read
    | disjunctionMax => exact read
  rw [ofGroupItems] at items
  obtain ⟨_, _, items⟩ := bind_ok_steps _ _ _ items
  obtain ⟨_, _, items⟩ := bind_ok_steps _ _ _ items
  obtain ⟨clauses, found, _⟩ := bind_ok_steps _ _ _ items
  exact ⟨clauses, found⟩

theorem typed_kind (values : List (String × Json)) (kind found : ClauseKind)
    (mayBe : Draft.MayBe kind (Draft.ofJsonMembers values))
    (fills : Fills "type" Json.readKind none values (some found)) : found = kind := by
  obtain ⟨item, member, read⟩ := fills_source "type" Json.readKind found values fills
  refine mayBe (Draft.ofJson item) found ?_ (read_is_type found item read)
  rw [of_json_members_map, List.map_map]
  exact List.mem_map.mpr ⟨_, member, rfl⟩

theorem members_twice (values : List (String × Json)) (name : String)
    (twice : Draft.Twice (Draft.ofJsonMembers values) name) : 2 ≤ (values.map Prod.fst).count name := by
  rw [of_json_members_map, List.map_map] at twice
  exact named_twice values Draft.ofJson name twice

theorem clause_repeats_refused (draft : Draft) (repeats : draft.ClauseRepeats) (json : Json)
    (same : draft = Draft.ofJson json) (clause : ClauseDocument) : ClauseDocument.ofJson json ≠ .ok clause := by
  induction repeats generalizing json clause with
  | type members ending twice =>
      obtain ⟨values, rfl, rfl⟩ := object_of_json members ending json same
      intro read
      obtain ⟨kind, typed, _⟩ := (of_json_object_iff values clause).mp read
      exact fills_not_twice _ _ _ values typed (members_twice values "type" twice)
  | member members ending kind name mayBe known twice =>
      obtain ⟨values, rfl, rfl⟩ := object_of_json members ending json same
      intro read
      obtain ⟨found, fills, read⟩ := (of_json_object_iff values clause).mp read
      cases typed_kind values kind found mayBe fills
      exact members_known_once kind values clause name fills read known (members_twice values name twice)
  | inside members ending inner kind items draft mayBe isGroup held listed _ ih =>
      obtain ⟨values, rfl, rfl⟩ := object_of_json members ending json same
      intro read
      obtain ⟨found, fills, read⟩ := (of_json_object_iff values clause).mp read
      cases typed_kind values kind found mayBe fills
      obtain ⟨filled, _, _, below, _⟩ := (of_group_members_iff kind .empty values clause).mp
        ((of_members_group_iff kind isGroup values clause).mp read)
      obtain ⟨item, member, shown⟩ := of_json_members_member values "clauses" _ held
      obtain ⟨clauses, read, _⟩ := fills_member "clauses" readClauses none _ values item below member
      obtain ⟨again, other, rfl, readAgain⟩ := held_clauses_read item items inner draft clauses shown read listed
      exact ih again rfl other readAgain
  | insideArray tag occur generated items rest ending inner draft isGroup listed _ ih =>
      obtain ⟨values, rfl, drafts⟩ := array_of_json _ ending json same
      obtain ⟨first, _, rfl, rfl, behindTag⟩ := List.map_eq_cons_iff.mp drafts.symm
      obtain ⟨second, _, rfl, rfl, behindOccur⟩ := List.map_eq_cons_iff.mp behindTag
      obtain ⟨third, _, rfl, rfl, behindFlag⟩ := List.map_eq_cons_iff.mp behindOccur
      obtain ⟨fourth, last, rfl, shown, _⟩ := List.map_eq_cons_iff.mp behindFlag
      intro read
      obtain ⟨kind, typed, read⟩ := (of_json_array_iff first _ clause).mp read
      have notTerm : kind ≠ .term := by
        rintro rfl
        exact isGroup (read_is_type .term first typed)
      obtain ⟨clauses, below⟩ := array_clauses_read kind notTerm second third fourth last clause read
      obtain ⟨again, other, rfl, readAgain⟩ :=
        held_clauses_read fourth items inner draft clauses shown.symm below listed
      exact ih again rfl other readAgain

theorem sequence_clause_read (budget : Nat) (items : List Draft) (inner : Ending) (clauses : List ClauseDocument)
    (draft : Draft) (read : Draft.readSequence ClauseDocument.read budget (.array items inner) = .ok clauses)
    (listed : draft ∈ items) : ∃ left clause, ClauseDocument.read left draft = .ok clause := by
  obtain ⟨left, others, _, same, each⟩ := (read_sequence_iff ClauseDocument.read budget _ clauses).mp read
  cases same
  clear read
  induction each with
  | nil => cases listed
  | cons here _ ih =>
      rcases List.mem_cons.mp listed with rfl | later
      · exact ⟨left, _, here⟩
      · exact ih later

theorem repeated_clause_unread (budget : Nat) (draft : Draft) (repeats : draft.ClauseRepeats)
    (clause : ClauseDocument) : ClauseDocument.read budget draft ≠ .ok clause := by
  intro read
  obtain ⟨json, same, _, _, _, found⟩ := (clause_read_iff budget draft clause).mp read
  exact clause_repeats_refused draft repeats json same clause found

theorem repeats_refused (budget : Nat) (draft : Draft) (repeats : draft.Repeats) (document : Document) :
    Document.read budget draft ≠ .ok document := by
  intro read
  cases repeats with
  | member members ending name known twice =>
      obtain ⟨left, named, _, _, rfl, filled, flag, _, below, _⟩ :=
        (document_object_iff budget members ending document).mp read
      have counted := named_twice named id name twice
      rcases known with rfl | rfl
      · exact fills_not_twice _ _ _ named flag counted
      · exact fills_not_twice _ _ _ named below counted
  | inside members ending inner items clause held listed repeats =>
      obtain ⟨left, named, _, _, rfl, filled, _, _, below, _⟩ :=
        (document_object_iff budget members ending document).mp read
      obtain ⟨⟨key, item⟩, member, same⟩ := List.mem_map.mp held
      cases same
      obtain ⟨clauses, sequence, _⟩ := fills_member _ _ none _ named _ below member
      obtain ⟨less, found, readClause⟩ := sequence_clause_read left items inner clauses clause sequence listed
      exact repeated_clause_unread less clause repeats found readClause
  | insideArray generated items rest ending inner clause listed repeats =>
      obtain ⟨left, flag, below, _, _, same, _, sequence⟩ := (document_array_iff budget _ ending document).mp read
      cases same
      obtain ⟨less, found, readClause⟩ := sequence_clause_read left items inner _ clause sequence listed
      exact repeated_clause_unread less clause repeats found readClause

def Numeral.size (numeral : Numeral) : Ratio :=
  let shift := (numeral.exponent.map Numeral.exponentValue).getD 0 - (numeral.fraction.length : Int)
  Ratio.mul ⟨Digit.value (Digit.value 0 numeral.whole) numeral.fraction, 1⟩ (Ratio.pow 10 shift)

def BinaryFormat.largest (format : BinaryFormat) : Dyadic :=
  ⟨Nat.pow 2 format.precision - 1, format.limit - format.precision⟩

def Numeral.Finite (numeral : Numeral) : Prop := numeral.size.value ≤ binary64.largest.value

end QueryShingles
