import QueryShingles.Document.Reader
import QueryShingles.Query.Text
import QueryShingles.Shingle.Settings

/-!
What a run did: the text of the query before and after, how many terms were added, and the query
itself.
-/

set_option autoImplicit false

namespace QueryShingles

structure ShingleReport where
  before : String
  after : String
  termsAdded : Nat
  query : Document
deriving Repr

structure ReportFields where
  before : Option String
  after : Option String
  termsAdded : Option Nat
  query : Option Document

def Draft.readCount (draft : Draft) : Except ReadError Nat :=
  match draft with
  | .number numeral =>
      match numeral.number? with
      | none => .error (.text .malformed)
      | some (.natural n) => .ok n
      | some (.negative n) => .error (.mismatch (.wrongValue (.number (.negative n)) "usize"))
      | some n => .error (.mismatch (.wrongType (.number n) "usize"))
  | other => other.refuse "usize"

namespace ShingleReport

def ofRun (shingling : Shingling) (query : Query) : ShingleReport :=
  let grown := ((ExpandedQuery.new query).shingled shingling).userQuery
  { before := query.text
    after := grown.text
    termsAdded := grown.size - query.size
    query := grown.toDocument }

def toJson (report : ShingleReport) : Json :=
  .object [("original", .string report.before), ("rewritten", .string report.after),
    ("terms_added", .number (.ofNat report.termsAdded)), ("query", report.query.toJson)]

def readMember (budget : Nat) (seen : ReportFields) (key : String) (item : Draft) :
    Except ReadError ReportFields := do
  match key with
  | "original" => pure { seen with before := ← Draft.fill key seen.before item.readString }
  | "rewritten" => pure { seen with after := ← Draft.fill key seen.after item.readString }
  | "terms_added" =>
      pure { seen with termsAdded := ← Draft.fill key seen.termsAdded item.readCount }
  | "query" => pure { seen with query := ← Draft.fill key seen.query (Document.read budget item) }
  | _ =>
      item.skip
      pure seen

def nextItem (index : Nat) (ending : Ending) (items : List Draft) :
    Except ReadError (Draft × List Draft) := do
  match ← Draft.nextItem ending items with
  | some found => pure found
  | none => throw (.mismatch (.wrongLength index "struct RewriteResult with 4 elements"))

def read (budget : Nat) : Draft → Except ReadError ShingleReport
  | .object members ending => do
      let budget ← Draft.enter budget
      let seen ← Draft.foldMembers (readMember budget) ending ⟨none, none, none, none⟩ members
      let before ← Draft.require "original" seen.before
      let after ← Draft.require "rewritten" seen.after
      let termsAdded ← Draft.require "terms_added" seen.termsAdded
      let query ← Draft.require "query" seen.query
      pure { before, after, termsAdded, query }
  | .array items ending => do
      let budget ← Draft.enter budget
      let (before, rest) ← nextItem 0 ending items
      let before ← before.readString
      let (after, rest) ← nextItem 1 ending rest
      let after ← after.readString
      let (termsAdded, rest) ← nextItem 2 ending rest
      let termsAdded ← termsAdded.readCount
      let (query, rest) ← nextItem 3 ending rest
      let query ← Document.read budget query
      Draft.noMoreItems ending rest
      pure { before, after, termsAdded, query }
  | other => other.refuse "struct RewriteResult"

def ofText (text : String) : Except ReadError ShingleReport := Draft.readText read text

end ShingleReport

end QueryShingles
