/-!
Binary floating point in exact arithmetic: a value is a significand times a power of two, and each
operation rounds its exact result once, to the nearest value of a format, ties to the even one.
-/

set_option autoImplicit false

namespace QueryShingles

/-- The value `significand * 2 ^ exponent`. -/
structure Dyadic where
  significand : Nat
  exponent : Int
deriving DecidableEq, Repr

structure Ratio where
  num : Nat
  den : Nat
deriving DecidableEq, Repr

namespace Ratio

def mul (a b : Ratio) : Ratio := ⟨a.num * b.num, a.den * b.den⟩

def div (a b : Ratio) : Ratio := ⟨a.num * b.den, a.den * b.num⟩

def pow (base : Nat) : Int → Ratio
  | .ofNat n => ⟨Nat.pow base n, 1⟩
  | .negSucc n => ⟨1, Nat.pow base (n + 1)⟩

def floor (a : Ratio) : Nat := a.num / a.den

def nearest (a : Ratio) : Nat :=
  let low := a.num / a.den
  let rest := 2 * (a.num % a.den)
  if rest < a.den ∨ (rest = a.den ∧ low % 2 = 0) then low else low + 1

end Ratio

def Dyadic.ratio (x : Dyadic) : Ratio := Ratio.mul ⟨x.significand, 1⟩ (Ratio.pow 2 x.exponent)

/-- Significands have at most `precision` bits, no step is smaller than `2 ^ lowest`, and every value is below `2 ^
limit`. -/
structure BinaryFormat where
  precision : Nat
  lowest : Int
  limit : Int
deriving DecidableEq, Repr

def binary32 : BinaryFormat := ⟨24, -149, 128⟩

def binary64 : BinaryFormat := ⟨53, -1074, 1024⟩

namespace BinaryFormat

def zero (format : BinaryFormat) : Dyadic := ⟨0, format.lowest⟩

def step (format : BinaryFormat) (x : Ratio) : Int :=
  let guess : Int := max format.lowest ((x.num.log2 : Int) - x.den.log2 - format.precision)
  if (x.div (Ratio.pow 2 guess)).floor < Nat.pow 2 format.precision then guess else guess + 1

def round (format : BinaryFormat) (x : Ratio) : Option Dyadic :=
  if x.num = 0 then some format.zero
  else
    let exponent := format.step x
    let significand := (x.div (Ratio.pow 2 exponent)).nearest
    let rounded : Dyadic :=
      if significand = Nat.pow 2 format.precision then ⟨Nat.pow 2 (format.precision - 1), exponent + 1⟩
      else ⟨significand, exponent⟩
    if rounded.significand = 0 then some format.zero
    else if (rounded.significand.log2 : Int) + rounded.exponent < format.limit then some rounded
    else none

def mul (format : BinaryFormat) (a b : Dyadic) : Option Dyadic :=
  format.round (a.ratio.mul b.ratio)

def div (format : BinaryFormat) (a b : Dyadic) : Option Dyadic :=
  format.round (a.ratio.div b.ratio)

end BinaryFormat

end QueryShingles
