import QueryShingles.Document.Reader
import QueryShingles.Proofs.Grammar
import QueryShingles.Proofs.Nesting

/-!
A document that was written is read back, unless its text nests too deep for the reader.
-/

set_option autoImplicit false

namespace QueryShingles

open ClauseDocument

def ClauseDocument.kind : ClauseDocument → ClauseKind
  | .boolean _ _ _ => .boolean
  | .disjunctionMax _ _ _ => .disjunctionMax
  | .term _ _ _ => .term

def ClauseDocument.members : ClauseDocument → List (String × Json)
  | .boolean occur generated clauses => (groupMembers .boolean occur generated (toJsonItems clauses)).tail
  | .disjunctionMax occur generated clauses =>
      (groupMembers .disjunctionMax occur generated (toJsonItems clauses)).tail
  | .term field value generated =>
      field.elim [] (fun name => [("field", .string name)])
        ++ [("value", .string value), ("generated", .bool generated)]

theorem clause_to_json (clause : ClauseDocument) :
    clause.toJson = .object (("type", .string clause.kind.name) :: clause.members) := by
  cases clause with
  | boolean occur generated clauses => rw [toJson]; rfl
  | disjunctionMax occur generated clauses => rw [toJson]; rfl
  | term field value generated => rfl

theorem clause_members_others (clause : ClauseDocument) : ∀ member ∈ clause.members, member.1 ≠ "type" := by
  cases clause with
  | boolean occur generated clauses => simp [members, groupMembers]
  | disjunctionMax occur generated clauses => simp [members, groupMembers]
  | term field value generated => cases field <;> simp [members]

mutual
theorem clause_numberless (clause : ClauseDocument) : Json.numberlessMembers clause.members = true := by
  cases clause with
  | boolean occur generated clauses =>
      simp [members, groupMembers, Json.numberlessMembers, Json.numberless, clauses_numberless clauses]
  | disjunctionMax occur generated clauses =>
      simp [members, groupMembers, Json.numberlessMembers, Json.numberless, clauses_numberless clauses]
  | term field value generated => cases field <;> rfl
theorem clauses_numberless (clauses : List ClauseDocument) : Json.numberlessItems (toJsonItems clauses) = true := by
  cases clauses with
  | nil => rfl
  | cons clause rest =>
      rw [toJsonItems, Json.numberlessItems, clauses_numberless rest, clause_to_json, Json.numberless,
        Json.numberlessMembers, clause_numberless clause]
      rfl
end

mutual
theorem clause_members_nest (clause : ClauseDocument) : 1 + Json.nestMembers clause.members = clause.nest := by
  cases clause with
  | boolean occur generated clauses =>
      simp [members, groupMembers, Json.nestMembers, Json.nest, clauses_nest clauses, ClauseDocument.nest]
      omega
  | disjunctionMax occur generated clauses =>
      simp [members, groupMembers, Json.nestMembers, Json.nest, clauses_nest clauses, ClauseDocument.nest]
      omega
  | term field value generated => cases field <;> rfl
theorem clauses_nest (clauses : List ClauseDocument) : Json.nestItems (toJsonItems clauses) = nestAll clauses := by
  cases clauses with
  | nil => rfl
  | cons clause rest =>
      rw [toJsonItems, Json.nestItems, clauses_nest rest, nestAll, clause_to_json, Json.nest, Json.nestMembers,
        ← clause_members_nest clause]
      simp [Json.nest]
end

@[simp] theorem occur_of_name (occur : Occur) : Occur.ofName occur.name = .ok occur := by
  cases occur <;> simp [Occur.ofName, Occur.all, Occur.name]

@[simp] theorem kind_of_name (kind : ClauseKind) : ClauseKind.ofName kind.name = .ok kind := by
  cases kind <;> simp [ClauseKind.ofName, ClauseKind.all, ClauseKind.name]

theorem kind_of_others (kind : Option ClauseKind) (members : List (String × Json))
    (others : ∀ member ∈ members, member.1 ≠ "type") : kindOf kind members = Json.require "type" kind := by
  induction members with
  | nil => rfl
  | cons member rest ih =>
      obtain ⟨key, item⟩ := member
      have other : key ≠ "type" := others (key, item) (by simp)
      rw [kindOf, if_neg other]
      exact ih fun member behind => others member (List.mem_cons_of_mem _ behind)

theorem of_json_typed (kind : ClauseKind) (members : List (String × Json))
    (others : ∀ member ∈ members, member.1 ≠ "type") :
    ClauseDocument.ofJson (.object (("type", .string kind.name) :: members)) = ofMembers kind members := by
  have typed : kindOf none (("type", .string kind.name) :: members) = .ok kind := by
    simp [kindOf, Json.fill, Json.readKind, kind_of_others _ members others, Json.require]
  rw [ClauseDocument.ofJson, typed]
  cases kind with
  | boolean => simp [ofMembers, ofGroupMembers]
  | disjunctionMax => simp [ofMembers, ofGroupMembers]
  | term => simp [ofMembers, ofTermMembers]

theorem of_group_members (kind : ClauseKind) (occur : Occur) (generated : Bool) (clauses : List ClauseDocument)
    (items : List Json) (read : ofJsonItems items = .ok clauses) :
    ofGroupMembers kind .empty (groupMembers kind occur generated items).tail =
      .ok (group kind occur generated clauses) := by
  simp [groupMembers, ofGroupMembers, GroupFields.empty, Json.fill, Json.readOccur, Json.readBool, readClauses, read,
    finishGroup, Json.require]

mutual
theorem clause_of_members (clause : ClauseDocument) : ofMembers clause.kind clause.members = .ok clause := by
  cases clause with
  | boolean occur generated clauses => exact of_group_members _ occur generated clauses _ (clauses_of_json clauses)
  | disjunctionMax occur generated clauses =>
      exact of_group_members _ occur generated clauses _ (clauses_of_json clauses)
  | term field value generated =>
      cases field <;> simp [ClauseDocument.kind, members, ofMembers, ofTermMembers, TermFields.empty, Json.fill,
        Json.readOptionalString, Json.readString, Json.readBool, finishTerm, Json.require]
theorem clauses_of_json (clauses : List ClauseDocument) : ofJsonItems (toJsonItems clauses) = .ok clauses := by
  cases clauses with
  | nil => rfl
  | cons clause rest =>
      rw [toJsonItems, ofJsonItems, clause_to_json, of_json_typed _ _ (clause_members_others clause),
        clause_of_members clause, clauses_of_json rest]
      rfl
end

theorem fold_members_others (budget : Nat) (members : List (String × Json)) (seen : ClauseMembers)
    (ranged : Json.InRangeMembers Numeral.Readable members) (others : ∀ member ∈ members, member.1 ≠ "type") :
    Draft.foldMembers (ClauseDocument.readMember budget) .closed seen (Draft.ofJsonMembers members) =
      within budget (Json.nestMembers members) { seen with others := members.reverse ++ seen.others } := by
  induction members generalizing seen with
  | nil => rfl
  | cons member rest ih =>
      obtain ⟨key, item⟩ := member
      have other : key ≠ "type" := others (key, item) (by simp)
      have behind := fun seen => ih seen ranged.2 fun member behind => others member (List.mem_cons_of_mem _ behind)
      rw [Draft.ofJsonMembers, Draft.foldMembers, ClauseDocument.readMember, if_neg other,
        to_json_of_json budget item ranged.1, Json.nestMembers, within_map, List.reverse_cons, List.append_assoc]
      simp only [behind]
      exact within_then budget _ _ ({ seen with others := (key, item) :: seen.others } : ClauseMembers) fun seen =>
        { seen with others := rest.reverse ++ seen.others }

theorem read_clause (budget : Nat) (clause : ClauseDocument) :
    ClauseDocument.read budget (Draft.ofJson clause.toJson) = within budget clause.nest clause := by
  rw [clause_to_json, ← clause_members_nest clause, ← within_enter, Draft.ofJson, ClauseDocument.read]
  refine bind_congr fun left => ?_
  have type : ClauseDocument.readMember left ⟨none, []⟩ "type" (Draft.ofJson (.string clause.kind.name)) =
      .ok ⟨some clause.kind, []⟩ := by
    simp [ClauseDocument.readMember, Draft.ofJson, Draft.fill, ClauseDocument.readKind, ReadError.lift]
  rw [Draft.ofJsonMembers, Draft.foldMembers, type, ok_bind,
    fold_members_others left _ _ (numberless_members_in_range _ (clause_numberless clause))
      (clause_members_others clause)]
  by_cases shallow : Json.nestMembers clause.members ≤ left
  · simp [within, shallow, Draft.require, clause_of_members clause, ReadError.lift]
  · simp [within, shallow]

theorem read_clauses (budget : Nat) (clauses : List ClauseDocument) :
    Draft.readItems (ClauseDocument.read budget) .closed (Draft.ofJsonItems (toJsonItems clauses)) =
      within budget (nestAll clauses) clauses := by
  induction clauses with
  | nil => rfl
  | cons clause rest ih =>
      rw [toJsonItems, Draft.ofJsonItems, Draft.readItems, read_clause, ih, nestAll]
      exact within_both budget _ _ clause rest List.cons

theorem document_numberless (document : Document) : document.toJson.numberless = true := by
  simp [Document.toJson, Json.numberless, Json.numberlessMembers, clauses_numberless]

theorem read_document (budget : Nat) (document : Document) :
    Document.read budget (Draft.ofJson document.toJson) = within budget document.nest document := by
  rw [document_nest, ← within_enter, Document.toJson, Draft.ofJson, Document.read]
  refine bind_congr fun left => ?_
  have generated : Document.readMember left ⟨none, none⟩ "generated" (Draft.ofJson (.bool document.generated)) =
      .ok ⟨some document.generated, none⟩ := by
    simp [Document.readMember, Draft.ofJson, Draft.fill, Draft.readBool]
  have clauses : Document.readMember left ⟨some document.generated, none⟩ "clauses"
      (Draft.ofJson (.array (toJsonItems document.clauses))) =
      within left (1 + nestAll document.clauses) ⟨some document.generated, some document.clauses⟩ := by
    have sequence : (Draft.ofJson (.array (toJsonItems document.clauses))).readSequence ClauseDocument.read left =
        within left (1 + nestAll document.clauses) document.clauses := by
      simp only [Draft.ofJson, Draft.readSequence, read_clauses, within_enter]
    simp only [Document.readMember, Draft.fill, sequence]
    by_cases shallow : 1 + nestAll document.clauses ≤ left <;> simp [within, shallow]
  simp only [Draft.ofJsonMembers, Draft.foldMembers, generated, clauses, ok_bind]
  by_cases shallow : 1 + nestAll document.clauses ≤ left <;> simp [within, shallow, Draft.close, Draft.require]

theorem of_text_blanks (document : Document) (layout : Json.Layout) (blanks : List Char)
    (blank : ∀ c ∈ blanks, Scan.isBlank c = true) :
    Document.ofText (document.toJson.text layout ++ String.ofList blanks) =
      within nestingLimit document.nest document := by
  have chars : (document.toJson.text layout ++ String.ofList blanks).toList =
      document.toJson.chars layout 0 ++ blanks := by
    simp [Json.text]
  rw [Document.ofText, Draft.readText, chars,
    of_chars_text layout _ (numberless_proper _ (document_numberless document)) blanks blank]
  simp only [read_document, skip_blank_only blanks blank]
  by_cases shallow : document.nest ≤ nestingLimit <;> simp [within, shallow]

theorem of_text_written (document : Document) (layout : Json.Layout) :
    Document.ofText (document.toJson.text layout) = within nestingLimit document.nest document := by
  have read := of_text_blanks document layout [] (by simp)
  rw [show String.ofList [] = "" from rfl, String.append_empty] at read
  exact read

/-- The text of a document says just this document, up to the limit of the reader. -/
theorem document_of_text (document : Document) (layout : Json.Layout) :
    Document.ofText (document.toJson.text layout) =
      if document.nest ≤ nestingLimit then .ok document else .error (.text .malformed) :=
  of_text_written document layout

end QueryShingles
