import ShootPlan.Decimal
/-!
Numbers of 64 bits: a significand of 53 bits, a sign and a power of two. A decimal is
kept as the nearest of them, and shown with the fewest digits that are kept as the same.
-/
namespace ShootPlan

/-- The fraction `num / den`. -/
structure Fraction where
  num : Nat
  den : Nat
  deriving DecidableEq, Repr

namespace Fraction

/-- The fraction `n · base ^ power`. -/
def scaled (n base : Nat) (power : Int) : Fraction :=
  ⟨n * base.pow power.toNat, base.pow (-power).toNat⟩

/-- How many times `base ^ power` the fraction is. -/
def scaleDown (f : Fraction) (base : Nat) (power : Int) : Fraction :=
  ⟨f.num * base.pow (-power).toNat, f.den * base.pow power.toNat⟩

/-- The whole numbers beside the fraction, the nearer first; of two as near the even one. -/
def neighbours (f : Fraction) : Nat × Nat :=
  let low := f.num / f.den
  let twice := 2 * (f.num % f.den)
  if twice < f.den || (twice = f.den && low % 2 = 0) then (low, low + 1) else (low + 1, low)

/-- The greatest power of two that is not above the fraction. -/
def log2 (f : Fraction) : Int :=
  let power : Int := f.num.log2 - f.den.log2
  let rest := f.scaleDown 2 power
  if rest.num < rest.den then power - 1 else power

end Fraction

/-- The number `significand · 2 ^ exponent`. -/
structure Binary where
  significand : Nat
  exponent : Int
  deriving DecidableEq, Repr

namespace Binary

/-- The nearest number of 64 bits, if the fraction is not too large for them. -/
def nearest? (f : Fraction) : Option Binary :=
  let exponent := max (f.log2 - 52) (-1074)
  let significand := (f.scaleDown 2 exponent).neighbours.1
  let b : Binary :=
    if significand = 9007199254740992 then ⟨4503599627370496, exponent + 1⟩
    else ⟨significand, exponent⟩
  if b.exponent ≤ 971 then some b else none

/-- The multiple of this power of ten that is kept as the number, the nearer of two. -/
def onGrid? (b : Binary) (power : Int) : Option Nat :=
  let (near, far) := ((Fraction.scaled b.significand 2 b.exponent).scaleDown 10 power).neighbours
  [near, far].find? fun n => nearest? (.scaled n 10 power) = some b

end Binary

namespace Decimal

/--
The shortest decimal that is kept as the same number. Seventeen digits are always enough.
A decimal too small for 64 bits is zero; one too large for them has none.
-/
def kept? (d : Decimal) : Option Decimal :=
  if d.digits = 0 then some d
  else if 310 ≤ d.point then none
  else if d.point ≤ -324 then some ⟨d.negative, 0, 0⟩
  else
    (Binary.nearest? (.scaled d.digits 10 d.exponent)).bind fun b =>
      if b.significand = 0 then some ⟨d.negative, 0, 0⟩
      else
        (List.range 17).findSome? fun (count : Nat) =>
          let power := d.point - (count + 1)
          (b.onGrid? power).map (ofParts d.negative · power)

end Decimal

end ShootPlan
