import Mathlib.Tactic
import ShootPlan.Numeral
/-!
Numbers that are written in plain decimal are read as themselves, also where a sign could
stand before them. What is read as a number is one or more digits.
-/
namespace ShootPlan.Numeral

theorem isDigit_of_mem_chars {n : Nat} {c : Char} (h : c ∈ chars n) : c.isDigit :=
  Nat.isDigit_of_mem_toDigits (by decide) (by decide) h

/-- No sign stands before the digits. -/
theorem chars_ne_cons {n : Nat} {c : Char} (h : c.isDigit = false) (cs : List Char) :
    chars n ≠ c :: cs := by
  intro heq
  have hmem : c ∈ chars n := by
    rw [heq]
    exact List.mem_cons_self
  rw [isDigit_of_mem_chars hmem] at h
  cases h

theorem unsigned?_chars (n : Nat) : unsigned? (chars n) = some n := by
  unfold unsigned?
  split
  · rename_i heq
    exact absurd heq (chars_ne_cons (by decide) _)
  · exact natural?_chars n

theorem signed?_chars (n : Nat) : signed? (chars n) = some (n : Int) := by
  unfold signed?
  split
  · rename_i heq
    exact absurd heq (chars_ne_cons (by decide) _)
  · rw [unsigned?_chars]
    rfl

theorem signed?_neg_chars (n : Nat) : signed? ('-' :: chars n) = some (-(n : Int)) := by
  rw [signed?, natural?_chars]
  rfl

theorem signed?_toString (i : Int) : signed? (toString i).toList = some i := by
  rw [Int.toString_eq_repr, Int.repr_eq_if]
  split_ifs with hsign
  · have hi : (i.toNat : Int) = i := Int.toNat_of_nonneg hsign
    rw [Nat.toList_repr]
    exact (signed?_chars i.toNat).trans (congrArg some hi)
  · have hi : -((-i).toNat : Int) = i := by omega
    rw [String.toList_append, Nat.toList_repr]
    exact (signed?_neg_chars (-i).toNat).trans (congrArg some hi)

/-- One or more digits of that value. -/
structure Writes (cs : List Char) (n : Nat) : Prop where
  ne_nil : cs ≠ []
  isDigit : ∀ c ∈ cs, c.isDigit
  value : Nat.ofDigitChars 10 cs 0 = n

theorem natural?_eq_some_iff {cs : List Char} {n : Nat} : natural? cs = some n ↔ Writes cs n := by
  unfold natural?
  split_ifs with h
  · simp only [false_iff]
    intro hwrites
    simp [hwrites.ne_nil, List.all_eq_true.2 hwrites.isDigit] at h
  · simp only [Bool.or_eq_true, List.isEmpty_iff, Bool.not_eq_true', not_or, Bool.not_eq_false,
      List.all_eq_true] at h
    rw [Option.some.injEq]
    exact ⟨fun hvalue => ⟨h.1, h.2, hvalue⟩, Writes.value⟩

/-- A first digit other than zero counts with all digits after it. -/
theorem Writes.pow_le {c : Char} {cs : List Char} {n : Nat} (h : Writes (c :: cs) n) (hc : c ≠ '0') :
    10 ^ cs.length ≤ n := by
  have hdigit : c.isDigit := h.isDigit c List.mem_cons_self
  simp only [Char.isDigit, Bool.and_eq_true, decide_eq_true_eq] at hdigit
  have hlow : 48 ≤ c.toNat := hdigit.1
  have hzero : c.toNat ≠ 48 := fun heq => hc (Char.toNat_inj.1 heq)
  have hfirst : 1 ≤ c.toNat - '0'.toNat := by
    change 1 ≤ c.toNat - 48
    omega
  have hvalue := h.value
  rw [Nat.ofDigitChars_cons, Nat.ofDigitChars_eq_ofDigitChars_zero] at hvalue
  calc 10 ^ cs.length = 10 ^ cs.length * 1 := (Nat.mul_one _).symm
    _ ≤ 10 ^ cs.length * (10 * 0 + (c.toNat - '0'.toNat)) :=
      Nat.mul_le_mul_left _ (by omega)
    _ ≤ n := by omega

end ShootPlan.Numeral
