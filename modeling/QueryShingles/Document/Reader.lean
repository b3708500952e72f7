import QueryShingles.Document.OfJson
import QueryShingles.Document.Tree
import QueryShingles.ErrorKind
import QueryShingles.Json.Reader

/-!
Documents and queries out of text. A clause of the document itself is read down to its last
bracket before its members are looked at; only its `type`, which has to be a name here, is judged
where it stands.
-/

set_option autoImplicit false

namespace QueryShingles

def ReadError.lift {α : Type} : Except Mismatch α → Except ReadError α
  | .ok value => .ok value
  | .error cause => .error (.mismatch cause)

/-- What is known of a clause while its text is read: its kind, and its other members, last first. -/
structure ClauseMembers where
  kind : Option ClauseKind
  others : List (String × Json)

namespace ClauseDocument

def readKind (draft : Draft) : Except ReadError ClauseKind :=
  match draft with
  | .string (some name) => ReadError.lift (ClauseKind.ofName name)
  | other => other.refuse "variant identifier"

def readMember (budget : Nat) (seen : ClauseMembers) (key : String) (item : Draft) :
    Except ReadError ClauseMembers := do
  if key = "type" then
    pure { seen with kind := ← Draft.fill key seen.kind (readKind item) }
  else
    let json ← item.toJson budget
    pure { seen with others := (key, json) :: seen.others }

def read (budget : Nat) : Draft → Except ReadError ClauseDocument
  | .object members ending => do
      let budget ← Draft.enter budget
      let seen ← Draft.foldMembers (readMember budget) ending ⟨none, []⟩ members
      let kind ← Draft.require "type" seen.kind
      ReadError.lift (ofMembers kind seen.others.reverse)
  | .array items ending => do
      let budget ← Draft.enter budget
      match ← Draft.nextItem ending items with
      | none => throw (.mismatch (.missingField "type"))
      | some (kind, rest) =>
          let kind ← readKind kind
          let items ← Draft.toJsonItems budget ending rest
          ReadError.lift (ofItems kind items)
  | other => other.refuse "internally tagged enum ClauseDocument"

end ClauseDocument

structure DocumentFields where
  generated : Option Bool
  clauses : Option (List ClauseDocument)

namespace Document

def readMember (budget : Nat) (seen : DocumentFields) (key : String) (item : Draft) :
    Except ReadError DocumentFields := do
  match key with
  | "generated" => pure { seen with generated := ← Draft.fill key seen.generated item.readBool }
  | "clauses" =>
      pure { seen with
        clauses := ← Draft.fill key seen.clauses (item.readSequence ClauseDocument.read budget) }
  | _ =>
      item.skip
      pure seen

def read (budget : Nat) : Draft → Except ReadError Document
  | .object members ending => do
      let budget ← Draft.enter budget
      let seen ← Draft.foldMembers (readMember budget) ending ⟨none, none⟩ members
      let clauses ← Draft.require "clauses" seen.clauses
      pure { generated := seen.generated.getD false, clauses }
  | .array items ending => do
      let budget ← Draft.enter budget
      let length (n : Nat) : ReadError :=
        .mismatch (.wrongLength n "struct QueryDocument with 2 elements")
      match ← Draft.nextItem ending items with
      | none => throw (length 1)
      | some (generated, rest) =>
          let generated ← generated.readBool
          match ← Draft.nextItem ending rest with
          | none => throw (length 1)
          | some (clauses, rest) =>
              let clauses ← clauses.readSequence ClauseDocument.read budget
              Draft.noMoreItems ending rest
              pure { generated, clauses }
  | other => other.refuse "struct QueryDocument"

def ofText (text : String) : Except ReadError Document := Draft.readText read text

end Document

inductive QueryTextError where
  | json (error : ReadError)
  | structure (error : StructureError)
deriving DecidableEq, Repr

namespace Query

/-- Reads a query that is part of a larger text; a faulty tree is refused where its document ends. -/
def read (budget : Nat) (draft : Draft) : Except ReadError Query := do
  let document ← Document.read budget draft
  match document.toQuery with
  | .ok query => pure query
  | .error fault => throw (.mismatch (.refused (ErrorKind.query.describe fault.message)))

def ofText (text : String) : Except QueryTextError Query :=
  match Document.ofText text with
  | .error error => .error (.json error)
  | .ok document =>
      match document.toQuery with
      | .ok query => .ok query
      | .error fault => .error (.structure fault)

end Query

end QueryShingles
