import QueryShingles.Number.Single
import QueryShingles.Query.Basic
import QueryShingles.Shingle.Basic

/-!
A user query together with the queries that go along with it: some raise or lower the score of
what they match, some only let pass what they match.
-/

set_option autoImplicit false

namespace QueryShingles

structure BoostQuery where
  query : Query
  boost : Single
deriving DecidableEq, Repr

/-- Boosts are compared as numbers, not as bits. -/
def BoostQuery.same (a b : BoostQuery) : Bool := a.query == b.query && a.boost.sameNumber b.boost

structure ExpandedQuery where
  userQuery : Query
  boostUp : List BoostQuery
  boostDown : List BoostQuery
  filters : List Query
deriving DecidableEq, Repr

namespace ExpandedQuery

def new (userQuery : Query) : ExpandedQuery := ⟨userQuery, [], [], []⟩

def addBoostUp (expanded : ExpandedQuery) (query : BoostQuery) : ExpandedQuery :=
  { expanded with boostUp := expanded.boostUp ++ [query] }

def addBoostDown (expanded : ExpandedQuery) (query : BoostQuery) : ExpandedQuery :=
  { expanded with boostDown := expanded.boostDown ++ [query] }

def addFilter (expanded : ExpandedQuery) (query : Query) : ExpandedQuery :=
  { expanded with filters := expanded.filters ++ [query] }

def sameBoosts (as bs : List BoostQuery) : Bool :=
  as.length == bs.length && (as.zip bs).all fun pair => pair.1.same pair.2

def same (a b : ExpandedQuery) : Bool :=
  a.userQuery == b.userQuery && sameBoosts a.boostUp b.boostUp
    && sameBoosts a.boostDown b.boostDown && a.filters == b.filters

end ExpandedQuery

def ExpandedQuery.shingled (expanded : ExpandedQuery) (shingling : Shingling) : ExpandedQuery :=
  { expanded with userQuery := shingling.run expanded.userQuery }

end QueryShingles
