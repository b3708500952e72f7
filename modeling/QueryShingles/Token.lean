import QueryShingles.Query.Basic

/-!
Words typed by a user, as `value` or `field:value`. A star at the end marks the word as generated.
-/

set_option autoImplicit false

namespace QueryShingles

structure Token where
  field : Option String
  value : String
  generated : Bool
deriving DecidableEq, Repr

/-- What is missing from a word, which is given without its star. -/
inductive TokenError where
  | emptyField (word : String)
  | emptyValue (word : String)
deriving DecidableEq, Repr

def TokenError.message : TokenError → String
  | .emptyField word => "Empty field name in token '" ++ word ++ "'"
  | .emptyValue word => "Empty value in token '" ++ word ++ "'"

namespace Token

def stripStar (word : List Char) : List Char × Bool :=
  if word.getLast? = some '*' then (word.dropLast, true) else (word, false)

def splitColon : List Char → Option (List Char × List Char)
  | [] => none
  | ':' :: rest => some ([], rest)
  | c :: rest => (splitColon rest).map fun parts => (c :: parts.1, parts.2)

def ofChars (text : List Char) : Except TokenError Token :=
  let stripped := stripStar text
  let word := String.ofList stripped.1
  match splitColon stripped.1 with
  | some ([], _) => .error (.emptyField word)
  | some (_, []) => .error (.emptyValue word)
  | some (field, value) => .ok ⟨some (String.ofList field), String.ofList value, stripped.2⟩
  | none => if stripped.1.isEmpty then .error (.emptyValue word) else .ok ⟨none, word, stripped.2⟩

def ofString (text : String) : Except TokenError Token := ofChars text.toList

end Token

namespace Query

def addWords (query : Query) : List String → Except TokenError Query
  | [] => .ok query
  | word :: rest =>
      match Token.ofString word with
      | .ok token => addWords (query.addToken token.field token.value token.generated).1 rest
      | .error error => .error error

def ofWords (words : List String) : Except TokenError Query := addWords (new false) words

end Query

end QueryShingles
