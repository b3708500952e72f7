import QueryShingles.Number.Shortest

/-!
What a numeral means to a reader. Whole numbers that fit a machine word stay whole. All others
become binary64, and not in one rounding: the leading digits that fit a word are rounded first, and
the power of ten is multiplied or divided in after that.
-/

set_option autoImplicit false

namespace QueryShingles

inductive Number where
  | natural (n : Nat)
  | negative (n : Nat)
  | float (minus : Bool) (size : Dyadic)
deriving DecidableEq, Repr

def wordMax : Nat := Nat.pow 2 64 - 1

def takeDigits (start : Nat) : List Digit → Nat × List Digit
  | [] => (start, [])
  | digit :: rest =>
      let next := start * 10 + digit.val
      if next ≤ wordMax then takeDigits next rest else (start, digit :: rest)

namespace Numeral

/-- The digits of a numeral that count, as `significand * 10 ^ exponent`. Whole digits that no longer fit leave a
power of ten behind; such digits of the fraction leave nothing. -/
def significand (numeral : Numeral) : Nat × Int :=
  let whole := takeDigits 0 numeral.whole
  let fraction := takeDigits whole.1 numeral.fraction
  (fraction.1, (whole.2.length : Int) - (numeral.fraction.length - fraction.2.length : Nat))

def exponentMax : Nat := Nat.pow 2 31 - 1

def exponentValue (exponent : Exponent) : Int :=
  let size := Digit.value 0 exponent.digits
  if exponent.negative then -size else size

/-- Rounds `significand * 10 ^ exponent`; `none` if it is out of range. Powers of ten go up to 308, so a smaller
number is divided twice. -/
def scale (significand : Nat) (exponent : Int) : Option Dyadic := do
  let start ← binary64.round ⟨significand, 1⟩
  let power (n : Nat) : Option Dyadic := binary64.round (Ratio.pow 10 n)
  if 0 ≤ exponent then
    if exponent ≤ 308 then binary64.mul start (← power exponent.toNat)
    else if significand = 0 then some binary64.zero
    else none
  else if -308 ≤ exponent then binary64.div start (← power (-exponent).toNat)
  else if -616 ≤ exponent then
    binary64.div (← binary64.div start (← power 308)) (← power (-exponent - 308).toNat)
  else some binary64.zero

def magnitude (numeral : Numeral) : Option Dyadic :=
  let start := numeral.significand
  match numeral.exponent with
  | none => scale start.1 start.2
  | some exponent =>
      if Digit.value 0 exponent.digits ≤ exponentMax then
        scale start.1 (start.2 + exponentValue exponent)
      else if start.1 = 0 ∨ exponent.negative then some binary64.zero
      else none

/-- The number that a numeral stands for; `none` if it is out of range. Minus zero, and whole numbers below the least
signed word, are floats. -/
def number? (numeral : Numeral) : Option Number :=
  let whole := Digit.value 0 numeral.whole
  if numeral.fraction = [] ∧ numeral.exponent = none ∧ whole ≤ wordMax then
    if !numeral.negative then some (.natural whole)
    else if whole = 0 ∨ Nat.pow 2 63 < whole then
      (binary64.round ⟨whole, 1⟩).map (Number.float true)
    else some (.negative whole)
  else numeral.magnitude.map (Number.float numeral.negative)

end Numeral

def Number.layout : FloatLayout := ⟨-5, 16⟩

def Number.chars : Number → List Char
  | .natural n => (Numeral.ofNat n).chars
  | .negative n => '-' :: (Numeral.ofNat n).chars
  | .float minus size => (layout.spell binary64 minus size).chars

end QueryShingles
