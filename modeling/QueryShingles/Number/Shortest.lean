import QueryShingles.Number.Binary
import QueryShingles.Number.Numeral

/-!
The shortest decimal that rounds to a given binary value: grids of powers of ten are tried from
coarse to fine, and on each the two neighbours of the value. The nearer of two hits wins, the even
one at equal distance.
-/

set_option autoImplicit false

namespace QueryShingles

/-- The value `coefficient * 10 ^ exponent`. -/
structure Decimal where
  coefficient : Nat
  exponent : Int
deriving DecidableEq, Repr

namespace BinaryFormat

/-- Whether a quotient, given in quarters of the value's last bit, rounds to the value. The space below a power of
two is half as wide. An even significand takes both ends. -/
def roundsTo (format : BinaryFormat) (x : Dyadic) (quarters : Ratio) : Bool :=
  let below :=
    if x.significand = Nat.pow 2 (format.precision - 1) ∧ format.lowest < x.exponent then 1 else 2
  let low := (4 * x.significand - below) * quarters.den
  let high := (4 * x.significand + 2) * quarters.den
  if x.significand % 2 = 0 then low ≤ quarters.num && quarters.num ≤ high
  else low < quarters.num && quarters.num < high

def onGrid (format : BinaryFormat) (x : Dyadic) (exponent : Int) : Option Decimal :=
  let unit := (Ratio.pow 10 exponent).div (Ratio.pow 2 (x.exponent - 2))
  let exact := x.ratio.div (Ratio.pow 10 exponent)
  let low := exact.floor
  let hit (n : Nat) : Bool := format.roundsTo x (unit.mul ⟨n, 1⟩)
  match hit low, hit (low + 1) with
  | true, true => some ⟨exact.nearest, exponent⟩
  | true, false => some ⟨low, exponent⟩
  | false, true => some ⟨low + 1, exponent⟩
  | false, false => none

def topGrid (x : Dyadic) : Int := (x.exponent + x.significand.log2 + 1) * 30103 / 100000 + 1

/-- Seventeen digits are enough for every binary64 value. -/
def shortest (format : BinaryFormat) (x : Dyadic) : Decimal :=
  ((List.range 20).findSome? fun (n : Nat) => format.onGrid x (topGrid x - n)).getD ⟨0, 0⟩

end BinaryFormat

/-- How a floating point number is laid out: plainly if the point stands behind more than `lowest` and at most
`highest` digits, otherwise with an exponent. -/
structure FloatLayout where
  lowest : Int
  highest : Int
deriving DecidableEq, Repr

namespace FloatLayout

def place (layout : FloatLayout) (negative : Bool) (digits : List Digit) (point : Int) : Numeral :=
  if layout.lowest < point ∧ point ≤ layout.highest then
    if point ≤ 0 then
      { negative, whole := [.zero], fraction := List.replicate (-point).toNat .zero ++ digits
        exponent := none }
    else if digits.length ≤ point.toNat then
      { negative, whole := digits ++ List.replicate (point.toNat - digits.length) .zero
        fraction := [.zero], exponent := none }
    else
      { negative, whole := digits.take point.toNat, fraction := digits.drop point.toNat
        exponent := none }
  else
    { negative, whole := digits.take 1, fraction := digits.drop 1
      exponent := some
        { negative := decide (point - 1 < 0), digits := Digit.ofNat (point - 1).natAbs } }

def spell (layout : FloatLayout) (format : BinaryFormat) (negative : Bool) (x : Dyadic) :
    Numeral :=
  if x.significand = 0 then
    { negative, whole := [.zero], fraction := [.zero], exponent := none }
  else
    let decimal := format.shortest x
    let digits := Digit.ofNat decimal.coefficient
    layout.place negative digits (digits.length + decimal.exponent)

end FloatLayout

end QueryShingles
