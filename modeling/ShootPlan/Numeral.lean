/-!
Decimal numerals as lists of ASCII characters.
-/
namespace ShootPlan.Numeral

/-- One or more digits, leading zeros allowed. -/
def natural? (cs : List Char) : Option Nat :=
  if cs.isEmpty || !cs.all Char.isDigit then none else some (Nat.ofDigitChars 10 cs 0)

/-- Digits after an optional plus sign. -/
def unsigned? : List Char → Option Nat
  | '+' :: cs => natural? cs
  | cs => natural? cs

/-- Digits after an optional sign. -/
def signed? : List Char → Option Int
  | '-' :: cs => (natural? cs).map fun n => -(n : Int)
  | cs => (unsigned? cs).map Int.ofNat

def chars (n : Nat) : List Char := Nat.toDigits 10 n

@[simp] theorem natural?_chars (n : Nat) : natural? (chars n) = some n := by
  have hne : chars n ≠ [] := Nat.toDigits_ne_nil
  have hall : (chars n).all Char.isDigit = true :=
    List.all_eq_true.2 fun _ h => Nat.isDigit_of_mem_toDigits (by decide) (by decide) h
  have hval : Nat.ofDigitChars 10 (chars n) 0 = n := Nat.ofDigitChars_toDigits (by decide) (by decide)
  simp [natural?, hne, hall, hval]

end ShootPlan.Numeral
