import QueryShingles.Number.Value

/-!
Single precision numbers as their 32 bits: a sign, eight bits of exponent, 23 of fraction.
-/

set_option autoImplicit false

namespace QueryShingles

structure Single where
  bits : UInt32
deriving DecidableEq, Repr

namespace Single

def negative (x : Single) : Bool := decide (Nat.pow 2 31 ≤ x.bits.toNat)

def exponentField (x : Single) : Nat := x.bits.toNat / Nat.pow 2 23 % Nat.pow 2 8

def fractionField (x : Single) : Nat := x.bits.toNat % Nat.pow 2 23

def isFinite (x : Single) : Bool := x.exponentField != 255

def isNaN (x : Single) : Bool := x.exponentField == 255 && x.fractionField != 0

def isZero (x : Single) : Bool := x.exponentField == 0 && x.fractionField == 0

def magnitude (x : Single) : Dyadic :=
  if x.exponentField = 0 then ⟨x.fractionField, binary32.lowest⟩
  else ⟨Nat.pow 2 23 + x.fractionField, x.exponentField - 150⟩

def sameNumber (a b : Single) : Bool :=
  !a.isNaN && !b.isNaN && (a.bits == b.bits || (a.isZero && b.isZero))

def ofFields (negative : Bool) (rest : Nat) : Single :=
  ⟨UInt32.ofNat ((if negative then Nat.pow 2 31 else 0) + rest)⟩

def infinity (negative : Bool) : Single := ofFields negative (255 * Nat.pow 2 23)

def nan : Single := ofFields false (255 * Nat.pow 2 23 + Nat.pow 2 22)

def ofMagnitude (negative : Bool) : Option Dyadic → Single
  | none => infinity negative
  | some x =>
      if x.significand < Nat.pow 2 23 then ofFields negative x.significand
      else ofFields negative ((x.exponent + 150).toNat * Nat.pow 2 23 + (x.significand - Nat.pow 2 23))

def ofNumber : Number → Single
  | .natural n => ofMagnitude false (binary32.round ⟨n, 1⟩)
  | .negative n => ofMagnitude true (binary32.round ⟨n, 1⟩)
  | .float minus size => ofMagnitude minus (binary32.round size.ratio)

/-- Written plainly from 0.000001 up to, but without, 10 ^ 13. -/
def layout : FloatLayout := ⟨-6, 13⟩

def numeral? (x : Single) : Option Numeral :=
  if x.isFinite then some (layout.spell binary32 x.negative x.magnitude) else none

end Single

end QueryShingles
