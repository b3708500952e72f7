import QueryShingles.Document.Writer
import QueryShingles.Json.Mismatch

/-!
Clauses out of JSON values. A clause is an object whose `type` may stand anywhere, or an array with
its type first and its members in order. Members that have a default may be left out, unknown ones
are passed over.
-/

set_option autoImplicit false

namespace QueryShingles

namespace Occur

def all : List Occur := [.must, .should, .mustNot]

def ofName (name : String) : Except Mismatch Occur :=
  match all.find? (·.name = name) with
  | some occur => .ok occur
  | none => .error (.unknownVariant name (all.map Occur.name))

end Occur

namespace ClauseKind

def all : List ClauseKind := [.boolean, .disjunctionMax, .term]

def ofName (name : String) : Except Mismatch ClauseKind :=
  match all.find? (·.name = name) with
  | some kind => .ok kind
  | none => .error (.unknownVariant name (all.map ClauseKind.name))

end ClauseKind

namespace Json

def found : Json → Found
  | .null => .null
  | .bool b => .bool b
  | .number numeral => (numeral.number?).elim .null .number
  | .string text => .string text
  | .array _ => .sequence
  | .object _ => .map

def readBool : Json → Except Mismatch Bool
  | .bool b => .ok b
  | other => .error (.wrongType other.found "a boolean")

def readString : Json → Except Mismatch String
  | .string text => .ok text
  | other => .error (.wrongType other.found "a string")

def readOptionalString : Json → Except Mismatch (Option String)
  | .null => .ok none
  | other => other.readString.map some

def readOccur : Json → Except Mismatch Occur
  | .string name => Occur.ofName name
  | .object [(name, value)] => do
      let occur ← Occur.ofName name
      match value with
      | .null => pure occur
      | .object [] => pure occur
      | other => throw (.wrongType other.found "unit")
  | .object _ => .error (.wrongValue .map "map with a single key")
  | other => .error (.wrongType other.found "string or map")

/-- The kind of a clause by its name, or by its number if it stands inside another clause. -/
def readKind : Json → Except Mismatch ClauseKind
  | .string name => ClauseKind.ofName name
  | .number numeral =>
      match numeral.number? with
      | some (.natural n) =>
          match ClauseKind.all[n]? with
          | some kind => .ok kind
          | none =>
              .error (.wrongValue (.number (.natural n)) "variant index 0 <= i < 3")
      | _ => .error (.wrongType (Json.number numeral).found "variant identifier")
  | other => .error (.wrongType other.found "variant identifier")

def fill {α : Type} (name : String) (place : Option α) (read : Except Mismatch α) :
    Except Mismatch (Option α) :=
  match place with
  | some _ => .error (.duplicateField name)
  | none => read.map some

def require {α : Type} (name : String) (place : Option α) : Except Mismatch α :=
  match place with
  | some value => .ok value
  | none => .error (.missingField name)

end Json

structure GroupFields where
  occur : Option Occur
  generated : Option Bool
  clauses : Option (List ClauseDocument)

structure TermFields where
  field : Option (Option String)
  value : Option String
  generated : Option Bool

def GroupFields.empty : GroupFields := ⟨none, none, none⟩

def TermFields.empty : TermFields := ⟨none, none, none⟩

namespace ClauseDocument

def group (kind : ClauseKind) (occur : Occur) (generated : Bool) (clauses : List ClauseDocument) :
    ClauseDocument :=
  match kind with
  | .disjunctionMax => .disjunctionMax occur generated clauses
  | _ => .boolean occur generated clauses

def shape : ClauseKind → String
  | .boolean => "struct variant ClauseDocument::Boolean with 3 elements"
  | .disjunctionMax => "struct variant ClauseDocument::DisjunctionMax with 3 elements"
  | .term => "struct variant ClauseDocument::Term with 3 elements"

def noMoreItems (rest : List Json) : Except Mismatch Unit :=
  if rest.isEmpty then .ok () else .error (.wrongLength (3 + rest.length) "3 elements in sequence")

def finishGroup (kind : ClauseKind) (fields : GroupFields) : Except Mismatch ClauseDocument := do
  let clauses ← Json.require "clauses" fields.clauses
  pure (group kind (fields.occur.getD .should) (fields.generated.getD false) clauses)

def finishTerm (fields : TermFields) : Except Mismatch ClauseDocument := do
  let value ← Json.require "value" fields.value
  pure (.term (fields.field.getD none) value (fields.generated.getD false))

def ofTermMembers (fields : TermFields) : List (String × Json) → Except Mismatch ClauseDocument
  | [] => finishTerm fields
  | (key, item) :: rest => do
      match key with
      | "field" =>
          let field ← Json.fill key fields.field item.readOptionalString
          ofTermMembers { fields with field } rest
      | "value" =>
          let value ← Json.fill key fields.value item.readString
          ofTermMembers { fields with value } rest
      | "generated" =>
          let generated ← Json.fill key fields.generated item.readBool
          ofTermMembers { fields with generated } rest
      | _ => ofTermMembers fields rest

def ofTermItems : List Json → Except Mismatch ClauseDocument
  | [] => .error (.wrongLength 1 (shape .term))
  | [field] => do
      let _ ← field.readOptionalString
      throw (.wrongLength 1 (shape .term))
  | [field, value] => do
      pure (.term (← field.readOptionalString) (← value.readString) false)
  | field :: value :: generated :: rest => do
      let field ← field.readOptionalString
      let value ← value.readString
      let generated ← generated.readBool
      noMoreItems rest
      pure (.term field value generated)

def kindOf (kind : Option ClauseKind) : List (String × Json) → Except Mismatch ClauseKind
  | [] => Json.require "type" kind
  | (key, item) :: rest => do
      if key = "type" then kindOf (← Json.fill key kind item.readKind) rest
      else kindOf kind rest

mutual
def ofJson : Json → Except Mismatch ClauseDocument
  | .object members => do
      match ← kindOf none members with
      | .term => ofTermMembers .empty members
      | kind => ofGroupMembers kind .empty members
  | .array [] => .error (.missingField "type")
  | .array (kind :: items) => do
      match ← kind.readKind with
      | .term => ofTermItems items
      | kind => ofGroupItems kind items
  | other => .error (.wrongType other.found "internally tagged enum ClauseDocument")
def ofJsonItems : List Json → Except Mismatch (List ClauseDocument)
  | [] => .ok []
  | item :: rest => do
      let clause ← ofJson item
      let clauses ← ofJsonItems rest
      pure (clause :: clauses)
def readClauses : Json → Except Mismatch (List ClauseDocument)
  | .array items => ofJsonItems items
  | other => .error (.wrongType other.found "a sequence")
def ofGroupMembers (kind : ClauseKind) (fields : GroupFields) :
    List (String × Json) → Except Mismatch ClauseDocument
  | [] => finishGroup kind fields
  | (key, item) :: rest => do
      match key with
      | "occur" =>
          let occur ← Json.fill key fields.occur item.readOccur
          ofGroupMembers kind { fields with occur } rest
      | "generated" =>
          let generated ← Json.fill key fields.generated item.readBool
          ofGroupMembers kind { fields with generated } rest
      | "clauses" =>
          let clauses ← Json.fill key fields.clauses (readClauses item)
          ofGroupMembers kind { fields with clauses } rest
      | _ => ofGroupMembers kind fields rest
def ofGroupItems (kind : ClauseKind) : List Json → Except Mismatch ClauseDocument
  | [] => .error (.wrongLength 2 (shape kind))
  | [occur] => do
      let _ ← occur.readOccur
      throw (.wrongLength 2 (shape kind))
  | [occur, generated] => do
      let _ ← occur.readOccur
      let _ ← generated.readBool
      throw (.wrongLength 2 (shape kind))
  | occur :: generated :: clauses :: rest => do
      let occur ← occur.readOccur
      let generated ← generated.readBool
      let clauses ← readClauses clauses
      noMoreItems rest
      pure (group kind occur generated clauses)
end

def ofMembers (kind : ClauseKind) (members : List (String × Json)) :
    Except Mismatch ClauseDocument :=
  match kind with
  | .term => ofTermMembers .empty members
  | kind => ofGroupMembers kind .empty members

def ofItems (kind : ClauseKind) (items : List Json) : Except Mismatch ClauseDocument :=
  match kind with
  | .term => ofTermItems items
  | kind => ofGroupItems kind items

end ClauseDocument

end QueryShingles
