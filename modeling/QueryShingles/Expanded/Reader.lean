import QueryShingles.Document.Reader
import QueryShingles.Expanded.Basic

/-!
Expanded queries out of text. Only the user query has to be there.
-/

set_option autoImplicit false

namespace QueryShingles

def Single.read (draft : Draft) : Except ReadError Single :=
  match draft with
  | .number numeral =>
      match numeral.number? with
      | some n => .ok (.ofNumber n)
      | none => .error (.text .malformed)
  | other => other.refuse "f32"

structure BoostFields where
  query : Option Query
  boost : Option Single

namespace BoostQuery

def readMember (budget : Nat) (seen : BoostFields) (key : String) (item : Draft) :
    Except ReadError BoostFields := do
  match key with
  | "query" => pure { seen with query := ← Draft.fill key seen.query (Query.read budget item) }
  | "boost" => pure { seen with boost := ← Draft.fill key seen.boost (Single.read item) }
  | _ =>
      item.skip
      pure seen

def read (budget : Nat) : Draft → Except ReadError BoostQuery
  | .object members ending => do
      let budget ← Draft.enter budget
      let seen ← Draft.foldMembers (readMember budget) ending ⟨none, none⟩ members
      let query ← Draft.require "query" seen.query
      let boost ← Draft.require "boost" seen.boost
      pure { query, boost }
  | .array items ending => do
      let budget ← Draft.enter budget
      let length (n : Nat) : ReadError :=
        .mismatch (.wrongLength n "struct BoostQuery with 2 elements")
      match ← Draft.nextItem ending items with
      | none => throw (length 0)
      | some (query, rest) =>
          let query ← Query.read budget query
          match ← Draft.nextItem ending rest with
          | none => throw (length 1)
          | some (boost, rest) =>
              let boost ← Single.read boost
              Draft.noMoreItems ending rest
              pure { query, boost }
  | other => other.refuse "struct BoostQuery"

end BoostQuery

structure ExpandedFields where
  userQuery : Option Query
  boostUp : Option (List BoostQuery)
  boostDown : Option (List BoostQuery)
  filters : Option (List Query)

namespace ExpandedQuery

def readBoosts (budget : Nat) (draft : Draft) : Except ReadError (List BoostQuery) :=
  draft.readSequence BoostQuery.read budget

def readFilters (budget : Nat) (draft : Draft) : Except ReadError (List Query) :=
  draft.readSequence Query.read budget

def readMember (budget : Nat) (seen : ExpandedFields) (key : String) (item : Draft) :
    Except ReadError ExpandedFields := do
  match key with
  | "user_query" =>
      pure { seen with userQuery := ← Draft.fill key seen.userQuery (Query.read budget item) }
  | "boost_up_queries" =>
      pure { seen with boostUp := ← Draft.fill key seen.boostUp (readBoosts budget item) }
  | "boost_down_queries" =>
      pure { seen with boostDown := ← Draft.fill key seen.boostDown (readBoosts budget item) }
  | "filter_queries" =>
      pure { seen with filters := ← Draft.fill key seen.filters (readFilters budget item) }
  | _ =>
      item.skip
      pure seen

def readTrailing {α : Type} (read : Draft → Except ReadError (List α)) (ending : Ending)
    (items : List Draft) : Except ReadError (List α × List Draft) := do
  match ← Draft.nextItem ending items with
  | none => pure ([], [])
  | some (item, rest) => pure (← read item, rest)

def read (budget : Nat) : Draft → Except ReadError ExpandedQuery
  | .object members ending => do
      let budget ← Draft.enter budget
      let seen ← Draft.foldMembers (readMember budget) ending ⟨none, none, none, none⟩ members
      let userQuery ← Draft.require "user_query" seen.userQuery
      pure
        { userQuery
          boostUp := seen.boostUp.getD []
          boostDown := seen.boostDown.getD []
          filters := seen.filters.getD [] }
  | .array items ending => do
      let budget ← Draft.enter budget
      match ← Draft.nextItem ending items with
      | none => throw (.mismatch (.wrongLength 0 "struct ExpandedQuery with 4 elements"))
      | some (userQuery, rest) =>
          let userQuery ← Query.read budget userQuery
          let (boostUp, rest) ← readTrailing (readBoosts budget) ending rest
          let (boostDown, rest) ← readTrailing (readBoosts budget) ending rest
          let (filters, rest) ← readTrailing (readFilters budget) ending rest
          Draft.noMoreItems ending rest
          pure { userQuery, boostUp, boostDown, filters }
  | other => other.refuse "struct ExpandedQuery"

def ofText (text : String) : Except ReadError ExpandedQuery := Draft.readText read text

end ExpandedQuery

end QueryShingles
