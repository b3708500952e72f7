import QueryShingles.Document.Basic
import QueryShingles.Query.Basic

/-!
From a query to its document and back. Every query has a document. A document is a query if its
boolean groups hold groups only, its disjunction max groups hold terms and boolean groups only,
and none of the latter is empty; the first clause that breaks this is reported.
-/

set_option autoImplicit false

namespace QueryShingles

inductive StructureError where
  | emptyDisjunctionMax
  | nestedDisjunctionMax
  | bareTerm (value : String)
deriving DecidableEq, Repr

def StructureError.message : StructureError → String
  | .emptyDisjunctionMax => "disjunction max query must contain at least one clause"
  | .nestedDisjunctionMax =>
      "disjunction max query cannot directly contain another disjunction max query"
  | .bareTerm value => "term '" ++ value ++ "' must be wrapped in a disjunction max query"

namespace Query

def subtree (query : Query) : (depth : Nat) → ClauseId → Option ClauseDocument
  | 0, _ => none
  | depth + 1, id =>
      match query.clause? id with
      | none => none
      | some (.boolean group) =>
          some (.boolean group.occur group.generated
            (group.clauses.filterMap (query.subtree depth)))
      | some (.disjunctionMax group) =>
          some (.disjunctionMax group.occur group.generated
            (group.clauses.filterMap (query.subtree depth)))
      | some (.term word) => some (.term word.field word.value word.generated)

/-- No path down a tree is longer than its number of nodes. -/
def toDocument (query : Query) : Document :=
  { generated := query.generated
    clauses := query.clauses.filterMap (query.subtree query.size) }

mutual
def addClause (parent : BooleanId) (query : Query) :
    ClauseDocument → Except StructureError Query
  | .boolean occur generated clauses =>
      let added := query.attachBoolean parent occur generated
      addClauses added.2 added.1 clauses
  | .disjunctionMax occur generated clauses =>
      if clauses.isEmpty then .error .emptyDisjunctionMax
      else
        let added := query.attachDisjunctionMax parent occur generated
        addAlternatives added.2 added.1 clauses
  | .term _ value _ => .error (.bareTerm value)
def addClauses (parent : BooleanId) (query : Query) :
    List ClauseDocument → Except StructureError Query
  | [] => .ok query
  | clause :: rest =>
      match addClause parent query clause with
      | .ok grown => addClauses parent grown rest
      | .error fault => .error fault
def addAlternativeTree (parent : DisjunctionMaxId) (query : Query) :
    ClauseDocument → Except StructureError Query
  | .boolean _ generated clauses =>
      let added := query.attachAlternative parent generated
      addClauses added.2 added.1 clauses
  | .disjunctionMax _ _ _ => .error .nestedDisjunctionMax
  | .term field value generated => .ok (query.attachTerm parent field value generated).1
def addAlternatives (parent : DisjunctionMaxId) (query : Query) :
    List ClauseDocument → Except StructureError Query
  | [] => .ok query
  | clause :: rest =>
      match addAlternativeTree parent query clause with
      | .ok grown => addAlternatives parent grown rest
      | .error fault => .error fault
end

end Query

def Document.toQuery (document : Document) : Except StructureError Query :=
  Query.addClauses Query.root (Query.new document.generated) document.clauses

inductive LoadFault where
  | structure (fault : StructureError)
  | handle (fault : HandleFault)
deriving DecidableEq, Repr

namespace Query

mutual
def loadClause (parent : BooleanId) (query : Query) : ClauseDocument → Except LoadFault Query
  | .boolean occur generated clauses => do
      let added ← (query.addBoolean parent occur generated).mapError .handle
      loadClauses added.2 added.1 clauses
  | .disjunctionMax occur generated clauses =>
      if clauses.isEmpty then .error (.structure .emptyDisjunctionMax)
      else do
        let added ← (query.addDisjunctionMax parent occur generated).mapError .handle
        loadAlternatives added.2 added.1 clauses
  | .term _ value _ => .error (.structure (.bareTerm value))
def loadClauses (parent : BooleanId) (query : Query) : List ClauseDocument → Except LoadFault Query
  | [] => .ok query
  | clause :: rest => do
      let grown ← loadClause parent query clause
      loadClauses parent grown rest
def loadAlternative (parent : DisjunctionMaxId) (query : Query) : ClauseDocument → Except LoadFault Query
  | .boolean _ generated clauses => do
      let added ← (query.addAlternative parent generated).mapError .handle
      loadClauses added.2 added.1 clauses
  | .disjunctionMax _ _ _ => .error (.structure .nestedDisjunctionMax)
  | .term field value generated => do
      let added ← (query.addTerm parent field value generated).mapError .handle
      pure added.1
def loadAlternatives (parent : DisjunctionMaxId) (query : Query) : List ClauseDocument → Except LoadFault Query
  | [] => .ok query
  | clause :: rest => do
      let grown ← loadAlternative parent query clause
      loadAlternatives parent grown rest
end

end Query

/-- Loading with every parent looked up as the kind of group that it is taken for. -/
def Document.toQueryGuarded (document : Document) : Except LoadFault Query :=
  Query.loadClauses Query.root (Query.new document.generated) document.clauses

end QueryShingles
