import QueryShingles.Query.Clause

/-!
A query written out as a nested value, without positions.
-/

set_option autoImplicit false

namespace QueryShingles

inductive ClauseDocument where
  | boolean (occur : Occur) (generated : Bool) (clauses : List ClauseDocument)
  | disjunctionMax (occur : Occur) (generated : Bool) (clauses : List ClauseDocument)
  | term (field : Option String) (value : String) (generated : Bool)
deriving Repr

structure Document where
  generated : Bool
  clauses : List ClauseDocument
deriving Repr

end QueryShingles
