import QueryShingles.Expanded.Basic
import QueryShingles.Json.Reader

/-!
How shingles are made, as a text that a user can keep in a file. Unlike other values these settings
admit no unknown member: a misspelt one is refused as soon as its name is read.
-/

set_option autoImplicit false

namespace QueryShingles

namespace Shingling

def default : Shingling := ⟨false⟩

instance : Inhabited Shingling := ⟨default⟩

def setAcceptGenerated (shingling : Shingling) (accept : Bool) : Shingling :=
  { shingling with acceptGenerated := accept }

def member : String := "acceptGeneratedTerms"

def toJson (shingling : Shingling) : Json := .object [(member, .bool shingling.acceptGenerated)]

def readMember (seen : Option Bool) (key : String) (item : Draft) :
    Except ReadError (Option Bool) :=
  if key = member then Draft.fill key seen item.readBool
  else .error (.mismatch (.unknownField key member))

def read (budget : Nat) : Draft → Except ReadError Shingling
  | .object members ending => do
      let _ ← Draft.enter budget
      let seen ← Draft.foldMembers readMember ending none members
      pure ⟨seen.getD false⟩
  | .array items ending => do
      let _ ← Draft.enter budget
      match ← Draft.nextItem ending items with
      | none => pure default
      | some (accept, rest) =>
          let accept ← accept.readBool
          Draft.noMoreItems ending rest
          pure ⟨accept⟩
  | other => other.refuse "struct ShingleRewriterConfig"

def ofText (text : String) : Except ReadError Shingling := Draft.readText read text

def describe (shingling : Shingling) : String :=
  "ShingleRewriterConfig \x7b accept_generated_terms: " ++ toString shingling.acceptGenerated
    ++ " \x7d"

end Shingling

structure Stage where
  id : String
  shingling : Shingling
deriving DecidableEq, Repr

def Stage.run (stage : Stage) (expanded : ExpandedQuery) : ExpandedQuery :=
  expanded.shingled stage.shingling

end QueryShingles
