import QueryShingles.Document.Tree
import QueryShingles.Document.Writer
import QueryShingles.Expanded.Basic

/-!
Expanded queries as JSON. Empty lists are left out. A boost that is no finite number is null.
-/

set_option autoImplicit false

namespace QueryShingles

def Query.toJson (query : Query) : Json := query.toDocument.toJson

def Single.toJson (x : Single) : Json := x.numeral?.elim .null .number

def BoostQuery.toJson (query : BoostQuery) : Json :=
  .object [("query", query.query.toJson), ("boost", query.boost.toJson)]

namespace ExpandedQuery

def listMember (name : String) (items : List Json) : List (String × Json) :=
  if items.isEmpty then [] else [(name, .array items)]

def toJson (expanded : ExpandedQuery) : Json :=
  .object (("user_query", expanded.userQuery.toJson)
    :: listMember "boost_up_queries" (expanded.boostUp.map BoostQuery.toJson)
    ++ listMember "boost_down_queries" (expanded.boostDown.map BoostQuery.toJson)
    ++ listMember "filter_queries" (expanded.filters.map Query.toJson))

end ExpandedQuery

end QueryShingles
