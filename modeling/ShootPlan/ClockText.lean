import ShootPlan.Blank
import ShootPlan.Fault
/-!
Numbers inside time texts. Each takes a bounded run of digits and may stand after white
space.
-/
namespace ShootPlan.ClockText

def value (digits : List Char) : Nat := Nat.ofDigitChars 10 digits 0

/-- At least one and at most `width` digits; numbers beyond 63 bits are refused. -/
def digits (width : Nat) (cs : List Char) : Except ClockFault (Nat × List Char) :=
  match (cs.take width).takeWhile Char.isDigit with
  | [] => .error (if cs.isEmpty then .tooShort else .invalidCharacters)
  | ds => if value ds < Nat.pow 2 63 then .ok (value ds, cs.drop ds.length) else .error .outOfRange

/-- A number of at most `width` digits that lies within the bounds. -/
def field (width low high : Nat) (cs : List Char) : Except ClockFault (Nat × List Char) := do
  let (n, rest) ← digits width (Blank.trimStart cs)
  if low ≤ n ∧ n ≤ high then return (n, rest) else throw .outOfRange

def literal (c : Char) : List Char → Except ClockFault (List Char)
  | [] => .error .tooShort
  | d :: rest => if d = c then .ok rest else .error .invalidCharacters

end ShootPlan.ClockText
