/-!
Numbers as they are spelled: a sign, digits before and behind the point, and an exponent.
-/

set_option autoImplicit false

namespace QueryShingles

abbrev Digit := Fin 10

namespace Digit

def zero : Digit := ⟨0, by decide⟩

def char (digit : Digit) : Char := Char.ofNat (48 + digit.val)

def ofChar? (c : Char) : Option Digit :=
  if h : 48 ≤ c.toNat ∧ c.toNat < 58 then some ⟨c.toNat - 48, by omega⟩ else none

def isDigit (c : Char) : Bool := (ofChar? c).isSome

def value (start : Nat) (digits : List Digit) : Nat :=
  digits.foldl (fun n digit => n * 10 + digit.val) start

def ofNat (n : Nat) : List Digit := (Nat.toDigits 10 n).filterMap ofChar?

end Digit

structure Exponent where
  negative : Bool
  digits : List Digit
deriving DecidableEq, Repr

/-- A spelled number. Without digits in `fraction` there is no point either. -/
structure Numeral where
  negative : Bool
  whole : List Digit
  fraction : List Digit
  exponent : Option Exponent
deriving DecidableEq, Repr

namespace Numeral

def ofNat (n : Nat) : Numeral :=
  { negative := false, whole := Digit.ofNat n, fraction := [], exponent := none }

def fractionChars : List Digit → List Char
  | [] => []
  | digit :: rest => '.' :: digit.char :: rest.map Digit.char

def exponentChars : Option Exponent → List Char
  | none => []
  | some exponent =>
      'e' :: (if exponent.negative then '-' else '+') :: exponent.digits.map Digit.char

def chars (numeral : Numeral) : List Char :=
  (if numeral.negative then ['-'] else []) ++ numeral.whole.map Digit.char
    ++ fractionChars numeral.fraction ++ exponentChars numeral.exponent

end Numeral

end QueryShingles
