import QueryShingles.Number.Numeral

/-!
JSON values and the two ways to write them: with no space at all, or one member a line.
-/

set_option autoImplicit false

namespace QueryShingles

inductive Json where
  | null
  | bool (b : Bool)
  | number (numeral : Numeral)
  | string (text : String)
  | array (items : List Json)
  | object (members : List (String × Json))
deriving Repr

namespace Json

inductive Layout where
  | compact
  | pretty
deriving DecidableEq, Repr

def Layout.line (depth : Nat) : Layout → List Char
  | .compact => []
  | .pretty => '\n' :: List.replicate (2 * depth) ' '

def Layout.colon : Layout → List Char
  | .compact => [':']
  | .pretty => [':', ' ']

def hexChar (n : Nat) : Char := Char.ofNat (if n < 10 then 48 + n else 87 + n)

def escape (c : Char) : List Char :=
  if c = '"' then ['\\', '"']
  else if c = '\\' then ['\\', '\\']
  else if c = '\x08' then ['\\', 'b']
  else if c = '\x0c' then ['\\', 'f']
  else if c = '\n' then ['\\', 'n']
  else if c = '\r' then ['\\', 'r']
  else if c = '\t' then ['\\', 't']
  else if c.toNat < 32 then ['\\', 'u', '0', '0', hexChar (c.toNat / 16), hexChar (c.toNat % 16)]
  else [c]

def quoted (text : String) : List Char := '"' :: text.toList.flatMap escape ++ ['"']

mutual
/-- A value whose first line is already indented to `depth`. -/
def chars (layout : Layout) (depth : Nat) : Json → List Char
  | .null => ['n', 'u', 'l', 'l']
  | .bool true => ['t', 'r', 'u', 'e']
  | .bool false => ['f', 'a', 'l', 's', 'e']
  | .number numeral => numeral.chars
  | .string text => quoted text
  | .array [] => ['[', ']']
  | .array (item :: rest) =>
      '[' :: layout.line (depth + 1) ++ chars layout (depth + 1) item
        ++ itemsChars layout depth rest
  | .object [] => ['{', '}']
  | .object ((key, value) :: rest) =>
      '{' :: layout.line (depth + 1) ++ quoted key ++ layout.colon
        ++ chars layout (depth + 1) value ++ membersChars layout depth rest
def itemsChars (layout : Layout) (depth : Nat) : List Json → List Char
  | [] => layout.line depth ++ [']']
  | item :: rest =>
      ',' :: layout.line (depth + 1) ++ chars layout (depth + 1) item
        ++ itemsChars layout depth rest
def membersChars (layout : Layout) (depth : Nat) : List (String × Json) → List Char
  | [] => layout.line depth ++ ['}']
  | (key, value) :: rest =>
      ',' :: layout.line (depth + 1) ++ quoted key ++ layout.colon
        ++ chars layout (depth + 1) value ++ membersChars layout depth rest
end

def text (layout : Layout) (json : Json) : String := String.ofList (json.chars layout 0)

end Json

end QueryShingles
