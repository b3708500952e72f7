import QueryShingles.Query.Basic

/-!
The short text of a query that is shown to people: the sign of each clause, its words or the clauses in its
brackets, and a star behind everything that the user did not type.
-/

set_option autoImplicit false

namespace QueryShingles

def Clause.format (inside : List (List Char)) : Clause → List Char
  | .boolean _ => '(' :: [' '].intercalate inside ++ [')']
  | .disjunctionMax _ => '{' :: [' ', '|', ' '].intercalate inside ++ ['}']
  | .term word => word.field.elim [] (fun name => name.toList ++ [':']) ++ word.value.toList

namespace Query

def formatClause? (query : Query) : (depth : Nat) → ClauseId → Option (List Char)
  | 0, _ => none
  | depth + 1, id =>
      match query.clause? id with
      | none => none
      | some node =>
          let inside := node.children.filterMap (query.formatClause? depth)
          some (node.occur.sign.toList ++ node.format inside ++ if node.generated then ['*'] else [])

def text (query : Query) : String :=
  String.ofList ((query.formatClause? (query.size + 1) root.index).getD [])

end Query

end QueryShingles
