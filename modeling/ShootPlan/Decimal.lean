/-!
Numbers written with a fraction or an exponent. They are carried through documents and
printed again, never computed with, so a decimal is all there is of them.
-/
namespace ShootPlan

/-- The number `±digits · 10 ^ exponent`. -/
structure Decimal where
  negative : Bool
  digits : Nat
  exponent : Int
  deriving DecidableEq, Repr

namespace Decimal

/-- Trailing zeros move into the exponent; the fuel bounds their number. -/
def strip : Nat → Nat → Int → Nat × Int
  | 0, digits, exponent => (digits, exponent)
  | fuel + 1, digits, exponent =>
    if digits % 10 = 0 then strip fuel (digits / 10) (exponent + 1) else (digits, exponent)

/-- Equal numbers get equal decimals, so `1.50` and `1.5` are the same. -/
def ofParts (negative : Bool) (digits : Nat) (exponent : Int) : Decimal :=
  if digits = 0 then ⟨negative, 0, 0⟩
  else
    let (d, e) := strip (Nat.toDigits 10 digits).length digits exponent
    ⟨negative, d, e⟩

/-- What decimals are compared by: zero has no sign. -/
def comparand (d : Decimal) : Decimal := if d.digits = 0 then { d with negative := false } else d

/-- How many digits stand before the point; less than none if zeros come right after it. -/
def point (d : Decimal) : Int := (Nat.toDigits 10 d.digits).length + d.exponent

def zeros (count : Int) : List Char := List.replicate count.toNat '0'

/--
Positional for sixteen digits before the point and five zeros after it, in scientific
notation beyond. A positional number always shows a point.
-/
def chars (d : Decimal) : List Char :=
  let ds := Nat.toDigits 10 d.digits
  let point := d.point
  let body :=
    if d.digits = 0 then ['0', '.', '0']
    else if 0 ≤ d.exponent ∧ point ≤ 16 then ds ++ zeros d.exponent ++ ['.', '0']
    else if 0 < point ∧ point ≤ 16 then ds.take point.toNat ++ '.' :: ds.drop point.toNat
    else if -5 < point ∧ point ≤ 0 then ['0', '.'] ++ zeros (-point) ++ ds
    else
      let scale := (toString (point - 1)).toList
      match ds with
      | first :: second :: more => first :: '.' :: second :: more ++ 'e' :: scale
      | short => short ++ 'e' :: scale
  if d.negative then '-' :: body else body

def text (d : Decimal) : String := String.ofList d.chars

end Decimal

end ShootPlan
