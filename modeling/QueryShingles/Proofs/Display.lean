import QueryShingles.Proofs.View
import QueryShingles.Query.Text

/-!
The text of a query, as a function of its document. The root of a query shows no sign of its own, so nothing of
what is shown is missing from the document.
-/

set_option autoImplicit false

namespace QueryShingles

namespace ClauseDocument

def star (generated : Bool) : List Char := if generated then ['*'] else []

mutual
def chars : ClauseDocument → List Char
  | .boolean occur generated clauses =>
      occur.sign.toList ++ '(' :: [' '].intercalate (charsOf clauses) ++ ')' :: star generated
  | .disjunctionMax occur generated clauses =>
      occur.sign.toList ++ '{' :: [' ', '|', ' '].intercalate (charsOf clauses)
        ++ '}' :: star generated
  | .term field value generated =>
      field.elim [] (fun name => name.toList ++ [':']) ++ value.toList ++ star generated
def charsOf : List ClauseDocument → List (List Char)
  | [] => []
  | clause :: rest => clause.chars :: charsOf rest
end

end ClauseDocument

def Document.text (document : Document) : String :=
  String.ofList (ClauseDocument.boolean .should document.generated document.clauses).chars

open ClauseDocument

theorem chars_of_map (clauses : List ClauseDocument) : charsOf clauses = clauses.map ClauseDocument.chars := by
  induction clauses with
  | nil => rfl
  | cons clause rest ih => rw [charsOf, ih, List.map_cons]

theorem document_chars (node : Clause) (clauses : List ClauseDocument) :
    (node.document clauses).chars = node.occur.sign.toList ++ node.format (charsOf clauses) ++ star node.generated := by
  cases node <;> simp [Clause.document, Clause.occur, Clause.generated, Clause.format, ClauseDocument.chars, Occur.sign]

theorem format_subtree (query : Query) (depth : Nat) (id : ClauseId) :
    query.formatClause? depth id = (query.subtree depth id).map ClauseDocument.chars := by
  induction depth generalizing id with
  | zero => rfl
  | succ depth ih =>
      rw [Query.formatClause?, subtree_step]
      cases query.clause? id with
      | none => rfl
      | some node =>
          have inside : node.children.filterMap (query.formatClause? depth) =
              charsOf (node.children.filterMap (query.subtree depth)) := by
            rw [chars_of_map, List.map_filterMap]
            exact List.filterMap_congr fun child _ => ih child
          simp only [Option.map_some, inside, document_chars, ClauseDocument.star]

theorem root_format (query : Query) (group : BooleanQuery) (atRoot : query.clause? 0 = some (.boolean group))
    (unsigned : group.occur = .should) (depth : Nat) :
    query.formatClause? (depth + 1) Query.root.index =
      some (ClauseDocument.boolean .should query.generated (query.clauses.filterMap (query.subtree depth))).chars := by
  have flag : query.generated = group.generated := by
    rw [Query.generated, Query.root, atRoot]
    rfl
  have below : query.clauses = group.clauses := child_ids_found query 0 _ atRoot
  rw [format_subtree, Query.root, subtree_step, atRoot, flag, below, ← unsigned]
  rfl

theorem text_document (query : Query) (group : BooleanQuery) (atRoot : query.clause? 0 = some (.boolean group))
    (unsigned : group.occur = .should) : query.text = query.toDocument.text := by
  rw [Query.text, root_format query group atRoot unsigned]
  rfl

/-- A query and its document are shown as the same text. -/
theorem linked_text (query : Query) (linked : query.Linked) : query.text = query.toDocument.text := by
  obtain ⟨generated, clauses, atRoot⟩ := linked.root
  exact text_document query _ atRoot rfl

end QueryShingles
