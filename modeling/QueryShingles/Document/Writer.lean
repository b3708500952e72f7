import QueryShingles.Document.Basic
import QueryShingles.Json.Basic

/-!
Documents as JSON. Every member is written but the field of a term that has none.
-/

set_option autoImplicit false

namespace QueryShingles

def Occur.name : Occur → String
  | .must => "must"
  | .should => "should"
  | .mustNot => "must_not"

inductive ClauseKind where
  | boolean
  | disjunctionMax
  | term
deriving DecidableEq, Repr

def ClauseKind.name : ClauseKind → String
  | .boolean => "bool"
  | .disjunctionMax => "dmq"
  | .term => "term"

namespace ClauseDocument

def groupMembers (kind : ClauseKind) (occur : Occur) (generated : Bool) (clauses : List Json) :
    List (String × Json) :=
  [("type", .string kind.name), ("occur", .string occur.name), ("generated", .bool generated),
    ("clauses", .array clauses)]

mutual
def toJson : ClauseDocument → Json
  | .boolean occur generated clauses =>
      .object (groupMembers .boolean occur generated (toJsonItems clauses))
  | .disjunctionMax occur generated clauses =>
      .object (groupMembers .disjunctionMax occur generated (toJsonItems clauses))
  | .term field value generated =>
      .object (("type", .string ClauseKind.term.name)
        :: field.elim [] (fun name => [("field", .string name)])
        ++ [("value", .string value), ("generated", .bool generated)])
def toJsonItems : List ClauseDocument → List Json
  | [] => []
  | clause :: rest => toJson clause :: toJsonItems rest
end

end ClauseDocument

def Document.toJson (document : Document) : Json :=
  .object [("generated", .bool document.generated),
    ("clauses", .array (ClauseDocument.toJsonItems document.clauses))]

end QueryShingles
