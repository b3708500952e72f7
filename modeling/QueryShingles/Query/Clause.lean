/-!
The nodes of a query tree. A node knows its parent and, if it is a group, the positions of its
children; positions count the nodes of one query in the order in which they were added.
-/

set_option autoImplicit false

namespace QueryShingles

inductive Occur where
  | must
  | should
  | mustNot
deriving DecidableEq, Repr

def Occur.sign : Occur → String
  | .must => "+"
  | .should => ""
  | .mustNot => "-"

/-- A position among the nodes of a query; the root stands at 0. -/
abbrev ClauseId := Nat

structure BooleanId where
  index : ClauseId
deriving DecidableEq, Repr

structure DisjunctionMaxId where
  index : ClauseId
deriving DecidableEq, Repr

structure TermId where
  index : ClauseId
deriving DecidableEq, Repr

/-- A group of clauses that each say how they occur. Only the root has no parent. -/
structure BooleanQuery where
  parent : Option ClauseId
  occur : Occur
  generated : Bool
  clauses : List ClauseId
deriving DecidableEq, Repr

structure DisjunctionMaxQuery where
  parent : BooleanId
  occur : Occur
  generated : Bool
  clauses : List ClauseId
deriving DecidableEq, Repr

structure Term where
  parent : DisjunctionMaxId
  field : Option String
  value : String
  generated : Bool
deriving DecidableEq, Repr

def Term.sameField (a b : Term) : Bool := a.field = b.field

inductive Clause where
  | boolean (query : BooleanQuery)
  | disjunctionMax (query : DisjunctionMaxQuery)
  | term (word : Term)
deriving DecidableEq, Repr

namespace Clause

def occur : Clause → Occur
  | .boolean query => query.occur
  | .disjunctionMax query => query.occur
  | .term _ => .should

def parent : Clause → Option ClauseId
  | .boolean query => query.parent
  | .disjunctionMax query => some query.parent.index
  | .term word => some word.parent.index

def generated : Clause → Bool
  | .boolean query => query.generated
  | .disjunctionMax query => query.generated
  | .term word => word.generated

def children : Clause → List ClauseId
  | .boolean query => query.clauses
  | .disjunctionMax query => query.clauses
  | .term _ => []

def asBoolean? : Clause → Option BooleanQuery
  | .boolean query => some query
  | _ => none

def asDisjunctionMax? : Clause → Option DisjunctionMaxQuery
  | .disjunctionMax query => some query
  | _ => none

def asTerm? : Clause → Option Term
  | .term word => some word
  | _ => none

def adopt (child : ClauseId) : Clause → Clause
  | .boolean query => .boolean { query with clauses := query.clauses ++ [child] }
  | .disjunctionMax query => .disjunctionMax { query with clauses := query.clauses ++ [child] }
  | .term word => .term word

end Clause

end QueryShingles
