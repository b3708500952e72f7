import QueryShingles.Proofs.Grammar
import QueryShingles.Proofs.Members
import QueryShingles.Proofs.Recognition

/-!
Every document that is read nests within the limit of the reader, in whichever way its clauses are
written.
-/

set_option autoImplicit false

namespace QueryShingles

open ClauseDocument

theorem group_nest (kind : ClauseKind) (occur : Occur) (generated : Bool) (clauses : List ClauseDocument) :
    (group kind occur generated clauses).nest = 2 + nestAll clauses := by
  cases kind <;> rw [group, ClauseDocument.nest]
  · simp
  · simp

theorem of_term_members_nest (fields : TermFields) (members : List (String × Json)) (clause : ClauseDocument)
    (read : ofTermMembers fields members = .ok clause) : clause.nest = 1 := by
  induction members generalizing fields with
  | nil =>
      rw [ofTermMembers, finishTerm] at read
      obtain ⟨value, _, read⟩ := bind_ok_steps _ _ _ read
      cases read
      rfl
  | cons member rest ih =>
      obtain ⟨key, item⟩ := member
      unfold ofTermMembers at read
      split at read
      · obtain ⟨_, _, read⟩ := bind_ok_steps _ _ _ read
        exact ih _ read
      · obtain ⟨_, _, read⟩ := bind_ok_steps _ _ _ read
        exact ih _ read
      · obtain ⟨_, _, read⟩ := bind_ok_steps _ _ _ read
        exact ih _ read
      · exact ih _ read

theorem of_term_items_nest (items : List Json) (clause : ClauseDocument) (read : ofTermItems items = .ok clause) :
    clause.nest = 1 := by
  unfold ofTermItems at read
  split at read
  · cases read
  · obtain ⟨_, _, read⟩ := bind_ok_steps _ _ _ read
    cases read
  · obtain ⟨_, _, read⟩ := bind_ok_steps _ _ _ read
    obtain ⟨_, _, read⟩ := bind_ok_steps _ _ _ read
    cases read
    rfl
  · obtain ⟨_, _, read⟩ := bind_ok_steps _ _ _ read
    obtain ⟨_, _, read⟩ := bind_ok_steps _ _ _ read
    obtain ⟨_, _, read⟩ := bind_ok_steps _ _ _ read
    obtain ⟨_, _, read⟩ := bind_ok_steps _ _ _ read
    cases read
    rfl

mutual
theorem of_json_nest (json : Json) (clause : ClauseDocument) (read : ClauseDocument.ofJson json = .ok clause) :
    clause.nest ≤ json.nest := by
  cases json with
  | object members =>
      rw [ClauseDocument.ofJson] at read
      obtain ⟨kind, _, read⟩ := bind_ok_steps _ _ _ read
      rw [Json.nest]
      split at read
      · rw [of_term_members_nest .empty members clause read]
        exact Nat.le_add_right _ _
      · exact of_group_members_nest kind .empty members clause _ (by simp [GroupFields.empty]) (Nat.le_refl _) read
  | array items =>
      cases items with
      | nil => cases read
      | cons first rest =>
          rw [ClauseDocument.ofJson] at read
          obtain ⟨kind, _, read⟩ := bind_ok_steps _ _ _ read
          rw [Json.nest, Json.nestItems]
          split at read
          · rw [of_term_items_nest rest clause read]
            exact Nat.le_add_right _ _
          · have below := of_group_items_nest kind rest clause read
            exact Nat.le_trans below (Nat.add_le_add_left (Nat.le_max_right _ _) 1)
  | null => cases read
  | bool b => cases read
  | number numeral => cases read
  | string text => cases read
theorem of_json_items_nest (items : List Json) (clauses : List ClauseDocument)
    (read : ofJsonItems items = .ok clauses) : nestAll clauses ≤ Json.nestItems items := by
  cases items with
  | nil =>
      cases read
      exact Nat.le_refl _
  | cons item rest =>
      rw [ofJsonItems] at read
      obtain ⟨clause, first, read⟩ := bind_ok_steps _ _ _ read
      obtain ⟨others, behind, read⟩ := bind_ok_steps _ _ _ read
      cases read
      have head := of_json_nest item clause first
      have tail := of_json_items_nest rest others behind
      rw [nestAll, Json.nestItems]
      exact Nat.max_le.mpr ⟨Nat.le_trans head (Nat.le_max_left _ _), Nat.le_trans tail (Nat.le_max_right _ _)⟩
theorem read_clauses_nest (json : Json) (clauses : List ClauseDocument) (read : readClauses json = .ok clauses) :
    1 + nestAll clauses ≤ json.nest := by
  cases json with
  | array items =>
      rw [readClauses] at read
      rw [Json.nest]
      exact Nat.add_le_add_left (of_json_items_nest items clauses read) 1
  | object members => cases read
  | null => cases read
  | bool b => cases read
  | number numeral => cases read
  | string text => cases read
theorem of_group_members_nest (kind : ClauseKind) (fields : GroupFields) (members : List (String × Json))
    (clause : ClauseDocument) (bound : Nat)
    (known : ∀ clauses, fields.clauses = some clauses → 1 + nestAll clauses ≤ bound)
    (small : Json.nestMembers members ≤ bound) (read : ofGroupMembers kind fields members = .ok clause) :
    clause.nest ≤ 1 + bound := by
  cases members with
  | nil =>
      rw [ofGroupMembers, finishGroup] at read
      obtain ⟨clauses, present, read⟩ := bind_ok_steps _ _ _ read
      cases read
      have counted : 1 + nestAll clauses ≤ bound := by
        cases found : fields.clauses with
        | none => simp [Json.require, found] at present
        | some others =>
            simp only [Json.require, found] at present
            cases present
            exact known _ found
      rw [group_nest]
      omega
  | cons member rest =>
      obtain ⟨key, item⟩ := member
      have parts := Nat.max_le.mp small
      unfold ofGroupMembers at read
      split at read
      · obtain ⟨occur, _, read⟩ := bind_ok_steps _ _ _ read
        exact of_group_members_nest kind { fields with occur } rest clause bound known parts.2 read
      · obtain ⟨generated, _, read⟩ := bind_ok_steps _ _ _ read
        exact of_group_members_nest kind { fields with generated } rest clause bound known parts.2 read
      · obtain ⟨filled, done, read⟩ := bind_ok_steps _ _ _ read
        obtain ⟨_, clauses, found, same⟩ := (json_fill_iff _ _ _ _).mp done
        refine of_group_members_nest kind { fields with clauses := filled } rest clause bound ?_ parts.2 read
        intro others isKnown
        rw [same] at isKnown
        cases isKnown
        exact Nat.le_trans (read_clauses_nest item clauses found) parts.1
      · exact of_group_members_nest kind fields rest clause bound known parts.2 read
theorem of_group_items_nest (kind : ClauseKind) (items : List Json) (clause : ClauseDocument)
    (read : ofGroupItems kind items = .ok clause) : clause.nest ≤ 1 + Json.nestItems items := by
  cases items with
  | nil => cases read
  | cons first items =>
      cases items with
      | nil =>
          rw [ofGroupItems] at read
          obtain ⟨_, _, read⟩ := bind_ok_steps _ _ _ read
          cases read
      | cons second items =>
          cases items with
          | nil =>
              rw [ofGroupItems] at read
              obtain ⟨_, _, read⟩ := bind_ok_steps _ _ _ read
              obtain ⟨_, _, read⟩ := bind_ok_steps _ _ _ read
              cases read
          | cons third rest =>
              rw [ofGroupItems] at read
              obtain ⟨_, _, read⟩ := bind_ok_steps _ _ _ read
              obtain ⟨_, _, read⟩ := bind_ok_steps _ _ _ read
              obtain ⟨clauses, found, read⟩ := bind_ok_steps _ _ _ read
              obtain ⟨_, _, read⟩ := bind_ok_steps _ _ _ read
              cases read
              have below := read_clauses_nest third clauses found
              simp only [group_nest, Json.nestItems]
              omega
end

theorem of_members_nest (kind : ClauseKind) (members : List (String × Json)) (clause : ClauseDocument)
    (read : ofMembers kind members = .ok clause) : clause.nest ≤ 1 + Json.nestMembers members := by
  cases kind with
  | term =>
      rw [of_term_members_nest .empty members clause read]
      exact Nat.le_add_right _ _
  | boolean => exact of_group_members_nest _ .empty members clause _ (by simp [GroupFields.empty]) (Nat.le_refl _) read
  | disjunctionMax =>
      exact of_group_members_nest _ .empty members clause _ (by simp [GroupFields.empty]) (Nat.le_refl _) read

theorem of_items_nest (kind : ClauseKind) (items : List Json) (clause : ClauseDocument)
    (read : ofItems kind items = .ok clause) : clause.nest ≤ 1 + Json.nestItems items := by
  cases kind with
  | term =>
      rw [of_term_items_nest items clause read]
      exact Nat.le_add_right _ _
  | boolean => exact of_group_items_nest _ items clause read
  | disjunctionMax => exact of_group_items_nest _ items clause read

theorem read_member_nest (budget : Nat) (seen next : ClauseMembers) (key : String) (item : Draft)
    (small : Json.nestMembers seen.others ≤ budget)
    (read : ClauseDocument.readMember budget seen key item = .ok next) : Json.nestMembers next.others ≤ budget := by
  rw [ClauseDocument.readMember] at read
  split at read
  · obtain ⟨_, _, read⟩ := bind_ok_steps _ _ _ read
    cases read
    exact small
  · obtain ⟨json, first, read⟩ := bind_ok_steps _ _ _ read
    cases read
    exact Nat.max_le.mpr ⟨to_json_nest budget item json first, small⟩

theorem read_clause_nest (budget : Nat) (draft : Draft) (clause : ClauseDocument)
    (read : ClauseDocument.read budget draft = .ok clause) : clause.nest ≤ budget := by
  unfold ClauseDocument.read at read
  split at read
  · obtain ⟨left, entered, read⟩ := bind_ok_steps _ _ _ read
    obtain ⟨seen, folded, read⟩ := bind_ok_steps _ _ _ read
    obtain ⟨kind, _, read⟩ := bind_ok_steps _ _ _ read
    have kept := fold_members_keeps _ _ (fun seen => Json.nestMembers seen.others ≤ left)
      (fun seen key item next small => read_member_nest left seen next key item small) _ _ seen (Nat.zero_le _) folded
    have forward : Json.nestMembers seen.others.reverse ≤ left := by
      rw [nest_members_le_iff] at kept ⊢
      exact fun member listed => kept member (List.mem_reverse.mp listed)
    rw [(enter_iff budget left).mp entered]
    exact Nat.le_trans (of_members_nest kind _ clause ((lift_iff _ _).mp read)) (Nat.add_le_add_left forward 1)
  · obtain ⟨left, entered, read⟩ := bind_ok_steps _ _ _ read
    obtain ⟨next, _, read⟩ := bind_ok_steps _ _ _ read
    cases next with
    | none => cases read
    | some pair =>
        obtain ⟨_, _, read⟩ := bind_ok_steps _ _ _ read
        obtain ⟨values, readItems, read⟩ := bind_ok_steps _ _ _ read
        rw [(enter_iff budget left).mp entered]
        exact Nat.le_trans (of_items_nest _ _ clause ((lift_iff _ _).mp read))
          (Nat.add_le_add_left (to_json_items_nest left _ _ values readItems) 1)
  · exact absurd read (refuse_never _ _ clause)

theorem read_items_nest (budget : Nat) (ending : Ending) (items : List Draft) (clauses : List ClauseDocument)
    (read : Draft.readItems (ClauseDocument.read budget) ending items = .ok clauses) : nestAll clauses ≤ budget := by
  induction items generalizing clauses with
  | nil =>
      rw [Draft.readItems] at read
      obtain ⟨_, _, read⟩ := bind_ok_steps _ _ _ read
      cases read
      exact Nat.zero_le _
  | cons item rest ih =>
      rw [Draft.readItems] at read
      obtain ⟨clause, first, read⟩ := bind_ok_steps _ _ _ read
      obtain ⟨others, behind, read⟩ := bind_ok_steps _ _ _ read
      cases read
      exact Nat.max_le.mpr ⟨read_clause_nest budget item clause first, ih others behind⟩

theorem read_sequence_nest (budget : Nat) (draft : Draft) (clauses : List ClauseDocument)
    (read : draft.readSequence ClauseDocument.read budget = .ok clauses) : 1 + nestAll clauses ≤ budget := by
  unfold Draft.readSequence at read
  split at read
  · obtain ⟨left, entered, read⟩ := bind_ok_steps _ _ _ read
    rw [(enter_iff budget left).mp entered]
    exact Nat.add_le_add_left (read_items_nest left _ _ clauses read) 1
  · exact absurd read (refuse_never _ _ clauses)

theorem document_member_nest (budget : Nat) (seen next : DocumentFields) (key : String) (item : Draft)
    (small : ∀ clauses, seen.clauses = some clauses → 1 + nestAll clauses ≤ budget)
    (read : Document.readMember budget seen key item = .ok next) :
    ∀ clauses, next.clauses = some clauses → 1 + nestAll clauses ≤ budget := by
  unfold Document.readMember at read
  split at read
  · obtain ⟨_, _, read⟩ := bind_ok_steps _ _ _ read
    cases read
    exact small
  · obtain ⟨filled, done, read⟩ := bind_ok_steps _ _ _ read
    cases read
    obtain ⟨_, clauses, found, same⟩ := (draft_fill_iff _ _ _ _).mp done
    intro others known
    cases same.symm.trans known
    exact read_sequence_nest budget item clauses found
  · obtain ⟨_, _, read⟩ := bind_ok_steps _ _ _ read
    cases read
    exact small

theorem read_document_nest (budget : Nat) (draft : Draft) (document : Document)
    (read : Document.read budget draft = .ok document) : document.nest ≤ budget := by
  unfold Document.read at read
  split at read
  · obtain ⟨left, entered, read⟩ := bind_ok_steps _ _ _ read
    obtain ⟨seen, folded, read⟩ := bind_ok_steps _ _ _ read
    obtain ⟨clauses, present, read⟩ := bind_ok_steps _ _ _ read
    cases read
    have kept := fold_members_keeps _ _
      (fun seen : DocumentFields => ∀ clauses, seen.clauses = some clauses → 1 + nestAll clauses ≤ left)
      (fun seen key item next small => document_member_nest left seen next key item small) _ _ seen (by simp) folded
    have counted : 1 + nestAll clauses ≤ left := by
      cases found : seen.clauses with
      | none => simp [Draft.require, found] at present
      | some others =>
          simp only [Draft.require, found] at present
          cases present
          exact kept _ found
    rw [(enter_iff budget left).mp entered, document_nest]
    exact Nat.add_le_add_left counted 1
  · obtain ⟨left, entered, read⟩ := bind_ok_steps _ _ _ read
    obtain ⟨next, _, read⟩ := bind_ok_steps _ _ _ read
    cases next with
    | none => cases read
    | some pair =>
        obtain ⟨_, _, read⟩ := bind_ok_steps _ _ _ read
        obtain ⟨next, _, read⟩ := bind_ok_steps _ _ _ read
        cases next with
        | none => cases read
        | some pair =>
            obtain ⟨clauses, found, read⟩ := bind_ok_steps _ _ _ read
            obtain ⟨_, _, read⟩ := bind_ok_steps _ _ _ read
            cases read
            rw [(enter_iff budget left).mp entered, document_nest]
            exact Nat.add_le_add_left (read_sequence_nest left _ clauses found) 1
  · exact absurd read (refuse_never _ _ document)

theorem of_text_nest (text : String) (document : Document) (read : Document.ofText text = .ok document) :
    document.nest ≤ nestingLimit := by
  rw [Document.ofText, read_text_ok_iff] at read
  exact read_document_nest nestingLimit _ document read.1

end QueryShingles
