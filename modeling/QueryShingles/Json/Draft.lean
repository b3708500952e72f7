import QueryShingles.Number.Numeral

/-!
What a text says, as far as it can be read. Reading never fails: where the text stops being JSON
the draft holds a break instead of a value, and nothing behind it. What is wrong there can depend
on whether the reader wants the value or skips it, so a break tells both.
-/

set_option autoImplicit false

namespace QueryShingles

inductive TextFault where
  | malformed
  | truncated
deriving DecidableEq, Repr

/-- The fault met when the value is read, and the one when it is skipped. -/
structure Break where
  read : TextFault
  skipped : TextFault
deriving DecidableEq, Repr

namespace Break

def malformed : Break := ⟨.malformed, .malformed⟩

def truncated : Break := ⟨.truncated, .truncated⟩

def unfinishedNumber : Break := ⟨.truncated, .malformed⟩

end Break

inductive Ending where
  | closed
  | broken (fault : Break)
deriving DecidableEq, Repr

/-- A string without text holds a surrogate that has no partner; it can be skipped, not read. -/
inductive Draft where
  | null
  | bool (b : Bool)
  | number (numeral : Numeral)
  | string (text : Option String)
  | array (items : List Draft) (ending : Ending)
  | object (members : List (Option String × Draft)) (ending : Ending)
  | broken (fault : Break)
deriving Repr

namespace Draft

def break? : Draft → Option Break
  | .array _ (.broken fault) => some fault
  | .object _ (.broken fault) => some fault
  | .broken fault => some fault
  | _ => none

end Draft

namespace Scan

def isBlank (c : Char) : Bool := c = ' ' || c = '\n' || c = '\t' || c = '\r'

def skipBlank (text : List Char) : List Char := text.dropWhile isBlank

def literal (value : Draft) : (expected text : List Char) → Draft × List Char
  | [], text => (value, text)
  | _ :: _, [] => (.broken .truncated, [])
  | e :: expected, c :: text =>
      if c = e then literal value expected text else (.broken .malformed, c :: text)

def digits (text : List Char) : List Digit × List Char :=
  ((text.takeWhile Digit.isDigit).filterMap Digit.ofChar?, text.dropWhile Digit.isDigit)

def someDigits (text : List Char) : Except Break (List Digit × List Char) :=
  match text with
  | [] => .error .unfinishedNumber
  | c :: _ => if Digit.isDigit c then .ok (digits text) else .error .malformed

def whole (text : List Char) : Except Break (List Digit × List Char) :=
  match text with
  | '0' :: c :: rest => if Digit.isDigit c then .error .malformed else .ok ([.zero], c :: rest)
  | _ => someDigits text

def fraction (text : List Char) : Except Break (List Digit × List Char) :=
  match text with
  | '.' :: rest => someDigits rest
  | _ => .ok ([], text)

def exponentSign (text : List Char) : Bool × List Char :=
  match text with
  | '-' :: rest => (true, rest)
  | '+' :: rest => (false, rest)
  | _ => (false, text)

def exponent (text : List Char) : Except Break (Option Exponent × List Char) :=
  match text with
  | c :: rest =>
      if c = 'e' ∨ c = 'E' then
        let sign := exponentSign rest
        (someDigits sign.2).map fun found => (some ⟨sign.1, found.1⟩, found.2)
      else .ok (none, text)
  | [] => .ok (none, text)

def unsigned (negative : Bool) (text : List Char) : Except Break (Numeral × List Char) := do
  let (whole, text) ← whole text
  let (fraction, text) ← fraction text
  let (exponent, text) ← exponent text
  pure ({ negative, whole, fraction, exponent }, text)

def numeral (text : List Char) : Except Break (Numeral × List Char) :=
  match text with
  | '-' :: rest => unsigned true rest
  | _ => unsigned false text

def hexDigit? (c : Char) : Option Nat :=
  if '0' ≤ c ∧ c ≤ '9' then some (c.toNat - 48)
  else if 'a' ≤ c ∧ c ≤ 'f' then some (c.toNat - 87)
  else if 'A' ≤ c ∧ c ≤ 'F' then some (c.toNat - 55)
  else none

def hex4? (a b c d : Char) : Option Nat := do
  pure (((← hexDigit? a) * 16 + (← hexDigit? b)) * 256 + (← hexDigit? c) * 16 + (← hexDigit? d))

def isLeading (unit : Nat) : Bool := 0xD800 ≤ unit && unit < 0xDC00

def isTrailing (unit : Nat) : Bool := 0xDC00 ≤ unit && unit < 0xE000

def joinPair (leading trailing : Nat) : Char :=
  Char.ofNat (0x10000 + (leading - 0xD800) * 0x400 + (trailing - 0xDC00))

/-- What is wrong where fewer than four characters are left for hexadecimal digits. They may still be four bytes
long, and then the text does not end too early. -/
def hexFault (rest : List Char) : TextFault :=
  if (String.ofList (rest.take 4)).utf8ByteSize < 4 then .truncated else .malformed

def simpleEscape? (c : Char) : Option Char :=
  match c with
  | '"' => some '"'
  | '\\' => some '\\'
  | '/' => some '/'
  | 'b' => some '\x08'
  | 'f' => some '\x0c'
  | 'n' => some '\n'
  | 'r' => some '\r'
  | 't' => some '\t'
  | _ => none

def stringBreak (paired : Bool) (fault : TextFault) : Break :=
  ⟨if paired then fault else .malformed, fault⟩

/-- The string behind an opening quote. `text` holds the characters so far, last first, and `paired` tells that no
surrogate among them was alone. -/
def string (paired : Bool) (text : List Char) :
    List Char → Except Break (Option String × List Char)
  | [] => .error (stringBreak paired .truncated)
  | '"' :: rest => .ok (if paired then some (String.ofList text.reverse) else none, rest)
  | '\\' :: [] => .error (stringBreak paired .truncated)
  | '\\' :: 'u' :: a :: b :: c :: d :: rest =>
      match hex4? a b c d with
      | none => .error (stringBreak paired .malformed)
      | some unit =>
          if isTrailing unit then string false text rest
          else if isLeading unit then
            match rest with
            | [] => .error (stringBreak paired .truncated)
            | '\\' :: [] => .error (stringBreak paired .truncated)
            | '\\' :: 'u' :: a :: b :: c :: d :: rest =>
                match hex4? a b c d with
                | none => .error (stringBreak paired .malformed)
                | some second =>
                    if isTrailing second then string paired (joinPair unit second :: text) rest
                    else string false text rest
            | '\\' :: 'u' :: rest => .error (stringBreak paired (hexFault rest))
            | rest => string false text rest
          else string paired (Char.ofNat unit :: text) rest
  | '\\' :: 'u' :: rest => .error (stringBreak paired (hexFault rest))
  | '\\' :: c :: rest =>
      match simpleEscape? c with
      | some plain => string paired (plain :: text) rest
      | none => .error (stringBreak paired .malformed)
  | c :: rest =>
      if c.toNat < 32 then .error (stringBreak paired .malformed)
      else string paired (c :: text) rest

mutual
/-- The value at the start of a text, behind blanks. Each step that consumes a character takes at most two of
`fuel`. -/
def value : (fuel : Nat) → List Char → Draft × List Char
  | 0, text => (.broken .truncated, text)
  | fuel + 1, text =>
      match skipBlank text with
      | [] => (.broken .truncated, [])
      | 'n' :: rest => literal .null ['u', 'l', 'l'] rest
      | 't' :: rest => literal (.bool true) ['r', 'u', 'e'] rest
      | 'f' :: rest => literal (.bool false) ['a', 'l', 's', 'e'] rest
      | '"' :: rest =>
          match string true [] rest with
          | .ok (text, rest) => (.string text, rest)
          | .error fault => (.broken fault, [])
      | '[' :: rest =>
          match skipBlank rest with
          | [] => (.array [] (.broken .truncated), [])
          | ']' :: rest => (.array [] .closed, rest)
          | rest => items fuel [] rest
      | '{' :: rest =>
          match skipBlank rest with
          | [] => (.object [] (.broken .truncated), [])
          | '}' :: rest => (.object [] .closed, rest)
          | rest => members fuel [] rest
      | rest =>
          match numeral rest with
          | .ok (numeral, rest) => (.number numeral, rest)
          | .error fault => (.broken fault, [])
def items : (fuel : Nat) → (before : List Draft) → List Char → Draft × List Char
  | 0, before, text => (.array before.reverse (.broken .truncated), text)
  | fuel + 1, before, text =>
      let (item, rest) := value fuel text
      let all := item :: before
      match item.break? with
      | some fault => (.array all.reverse (.broken fault), [])
      | none =>
          match skipBlank rest with
          | [] => (.array all.reverse (.broken .truncated), [])
          | ',' :: rest => items fuel all rest
          | ']' :: rest => (.array all.reverse .closed, rest)
          | _ => (.array all.reverse (.broken .malformed), [])
def members : (fuel : Nat) → (before : List (Option String × Draft)) → List Char →
    Draft × List Char
  | 0, before, text => (.object before.reverse (.broken .truncated), text)
  | fuel + 1, before, text =>
      match skipBlank text with
      | '"' :: rest =>
          match string true [] rest with
          | .error fault => (.object before.reverse (.broken fault), [])
          | .ok (key, rest) =>
              let (item, rest) :=
                match skipBlank rest with
                | ':' :: rest => value fuel rest
                | [] => (.broken .truncated, [])
                | _ => (.broken .malformed, [])
              let all := (key, item) :: before
              match item.break? with
              | some fault => (.object all.reverse (.broken fault), [])
              | none =>
                  match skipBlank rest with
                  | [] => (.object all.reverse (.broken .truncated), [])
                  | ',' :: rest => members fuel all rest
                  | '}' :: rest => (.object all.reverse .closed, rest)
                  | _ => (.object all.reverse (.broken .malformed), [])
      | [] => (.object before.reverse (.broken .truncated), [])
      | _ => (.object before.reverse (.broken .malformed), [])
end

end Scan

def Draft.ofChars (text : List Char) : Draft × List Char := Scan.value (2 * text.length + 2) text

end QueryShingles
