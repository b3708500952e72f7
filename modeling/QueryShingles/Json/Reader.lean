import QueryShingles.Json.Basic
import QueryShingles.Json.Draft
import QueryShingles.Json.Mismatch

/-!
Reading values out of a draft, in the order of the text, so that the first thing wrong is what is
reported. A reader may open only so many arrays and objects inside each other; a value that is
skipped may nest as deep as it likes.
-/

set_option autoImplicit false

namespace QueryShingles

inductive ReadError where
  | text (fault : TextFault)
  | mismatch (cause : Mismatch)
deriving DecidableEq, Repr

def ReadError.message : ReadError → String
  | .text .malformed => "malformed text"
  | .text .truncated => "unexpected end of text"
  | .mismatch cause => cause.message

def nestingLimit : Nat := 127

namespace Draft

mutual
def skip : Draft → Except ReadError Unit
  | .array items ending => skipItems ending items
  | .object members ending => skipMembers ending members
  | .broken fault => .error (.text fault.skipped)
  | _ => .ok ()
def skipItems (ending : Ending) : List Draft → Except ReadError Unit
  | [] =>
      match ending with
      | .closed => .ok ()
      | .broken fault => .error (.text fault.skipped)
  | item :: rest =>
      match skip item with
      | .ok _ => skipItems ending rest
      | .error e => .error e
def skipMembers (ending : Ending) : List (Option String × Draft) → Except ReadError Unit
  | [] =>
      match ending with
      | .closed => .ok ()
      | .broken fault => .error (.text fault.skipped)
  | (_, item) :: rest =>
      match skip item with
      | .ok _ => skipMembers ending rest
      | .error e => .error e
end

def enter (budget : Nat) : Except ReadError Nat :=
  match budget with
  | 0 => .error (.text .malformed)
  | budget + 1 => .ok budget

def close : Ending → Except ReadError Unit
  | .closed => .ok ()
  | .broken fault => .error (.text fault.read)

mutual
def toJson (budget : Nat) : Draft → Except ReadError Json
  | .null => .ok .null
  | .bool b => .ok (.bool b)
  | .number numeral =>
      if numeral.number?.isSome then .ok (.number numeral) else .error (.text .malformed)
  | .string (some text) => .ok (.string text)
  | .string none => .error (.text .malformed)
  | .array items ending => do
      let budget ← enter budget
      pure (.array (← toJsonItems budget ending items))
  | .object members ending => do
      let budget ← enter budget
      pure (.object (← toJsonMembers budget ending members))
  | .broken fault => .error (.text fault.read)
def toJsonItems (budget : Nat) (ending : Ending) : List Draft → Except ReadError (List Json)
  | [] => do
      close ending
      pure []
  | item :: rest => do
      let item ← toJson budget item
      let rest ← toJsonItems budget ending rest
      pure (item :: rest)
def toJsonMembers (budget : Nat) (ending : Ending) :
    List (Option String × Draft) → Except ReadError (List (String × Json))
  | [] => do
      close ending
      pure []
  | (none, _) :: _ => .error (.text .malformed)
  | (some key, item) :: rest => do
      let item ← toJson budget item
      let rest ← toJsonMembers budget ending rest
      pure ((key, item) :: rest)
end

/-- What a message calls this value. A single value is read to its end first; of an array or object only the bracket
is looked at. -/
def found : Draft → Except ReadError Found
  | .null => .ok .null
  | .bool b => .ok (.bool b)
  | .number numeral =>
      match numeral.number? with
      | some n => .ok (.number n)
      | none => .error (.text .malformed)
  | .string (some text) => .ok (.string text)
  | .string none => .error (.text .malformed)
  | .array _ _ => .ok .sequence
  | .object _ _ => .ok .map
  | .broken fault => .error (.text fault.read)

def refuse {α : Type} (expected : String) (draft : Draft) : Except ReadError α := do
  throw (.mismatch (.wrongType (← draft.found) expected))

def readBool : Draft → Except ReadError Bool
  | .bool b => .ok b
  | other => other.refuse "a boolean"

def readString : Draft → Except ReadError String
  | .string (some text) => .ok text
  | other => other.refuse "a string"

def nextItem (ending : Ending) : List Draft → Except ReadError (Option (Draft × List Draft))
  | [] => do
      close ending
      pure none
  | item :: rest => .ok (some (item, rest))

def noMoreItems (ending : Ending) : List Draft → Except ReadError Unit
  | [] => close ending
  | _ :: _ => .error (.text .malformed)

def readItems {α : Type} (read : Draft → Except ReadError α) (ending : Ending) :
    List Draft → Except ReadError (List α)
  | [] => do
      close ending
      pure []
  | item :: rest => do
      let item ← read item
      let rest ← readItems read ending rest
      pure (item :: rest)

def readSequence {α : Type} (read : Nat → Draft → Except ReadError α) (budget : Nat) :
    Draft → Except ReadError (List α)
  | .array items ending => do
      let budget ← enter budget
      readItems (read budget) ending items
  | other => other.refuse "a sequence"

def foldMembers {σ : Type} (step : σ → String → Draft → Except ReadError σ) (ending : Ending) :
    σ → List (Option String × Draft) → Except ReadError σ
  | state, [] => do
      close ending
      pure state
  | _, (none, _) :: _ => .error (.text .malformed)
  | state, (some key, item) :: rest => do
      foldMembers step ending (← step state key item) rest

def fill {α : Type} (name : String) (place : Option α) (read : Except ReadError α) :
    Except ReadError (Option α) :=
  match place with
  | some _ => .error (.mismatch (.duplicateField name))
  | none => read.map some

def require {α : Type} (name : String) (place : Option α) : Except ReadError α :=
  match place with
  | some value => .ok value
  | none => .error (.mismatch (.missingField name))

/-- Reads a text that holds one value and nothing else. What stands behind the value is looked at last. -/
def readText {α : Type} (read : Nat → Draft → Except ReadError α) (text : String) :
    Except ReadError α := do
  let (draft, rest) := Draft.ofChars text.toList
  let value ← read nestingLimit draft
  if (Scan.skipBlank rest).isEmpty then pure value else throw (.text .malformed)

end Draft

end QueryShingles
