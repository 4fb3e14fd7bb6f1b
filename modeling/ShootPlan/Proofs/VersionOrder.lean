import Mathlib.Tactic
import ShootPlan.Version
/-!
The order of version texts is a total order. Number sequences compare as their paddings
with zeros to one length do, which makes the order of sequences transitive; the texts
themselves then tell apart what the numbers do not. The empty text is the least version.
-/
namespace ShootPlan.Version
open Std

theorem rightpad_succ_cons (n a : Nat) (as : List Nat) :
    (a :: as).rightpad (n + 1) 0 = a :: as.rightpad n 0 := by
  simp [List.rightpad]

theorem rightpad_succ_nil (n : Nat) :
    ([] : List Nat).rightpad (n + 1) 0 = 0 :: ([] : List Nat).rightpad n 0 := by
  simp [List.rightpad, List.replicate_succ]

/-- Missing numbers count as zero, however far both sequences are padded. -/
theorem compareParts_eq_compareLex {as bs : List Nat} {n : Nat} (ha : as.length ≤ n)
    (hb : bs.length ≤ n) :
    compareParts as bs = List.compareLex compare (as.rightpad n 0) (bs.rightpad n 0) := by
  fun_induction compareParts as bs generalizing n with
  | case1 =>
    have h : List.compareLex compare (([] : List Nat).rightpad n 0) (([] : List Nat).rightpad n 0)
        = .eq := ReflCmp.compare_self
    exact h.symm
  | case2 a as ih =>
    obtain ⟨n, rfl⟩ : ∃ m, n = m + 1 := ⟨n - 1, by simp at ha; omega⟩
    rw [rightpad_succ_cons, rightpad_succ_nil, List.compareLex_cons_cons,
      ih (by simpa using ha) (by simp)]
  | case3 b bs ih =>
    obtain ⟨n, rfl⟩ : ∃ m, n = m + 1 := ⟨n - 1, by simp at hb; omega⟩
    rw [rightpad_succ_cons, rightpad_succ_nil, List.compareLex_cons_cons,
      ih (by simp) (by simpa using hb)]
  | case4 a as b bs ih =>
    obtain ⟨n, rfl⟩ : ∃ m, n = m + 1 := ⟨n - 1, by simp at ha; omega⟩
    rw [rightpad_succ_cons, rightpad_succ_cons, List.compareLex_cons_cons,
      ih (by simpa using ha) (by simpa using hb)]

instance : TransCmp compareParts where
  eq_swap {as bs} := by
    have ha : as.length ≤ as.length + bs.length := Nat.le_add_right _ _
    have hb : bs.length ≤ as.length + bs.length := Nat.le_add_left _ _
    rw [compareParts_eq_compareLex ha hb, compareParts_eq_compareLex hb ha]
    exact @OrientedCmp.eq_swap _ (List.compareLex compare) _ _ _
  isLE_trans {as bs cs} hab hbc := by
    -- one length for all three, since each comparison pads to its own
    obtain ⟨n, ha, hb, hc⟩ : ∃ n, as.length ≤ n ∧ bs.length ≤ n ∧ cs.length ≤ n :=
      ⟨as.length + bs.length + cs.length, by omega, by omega, by omega⟩
    rw [compareParts_eq_compareLex ha hb] at hab
    rw [compareParts_eq_compareLex hb hc] at hbc
    rw [compareParts_eq_compareLex ha hc]
    exact TransCmp.isLE_trans hab hbc

def byParts (left right : String) : Ordering := compareParts (parts left) (parts right)

instance : TransCmp byParts where
  eq_swap {a b} := @OrientedCmp.eq_swap _ compareParts _ (parts a) (parts b)
  isLE_trans {a b c} := @TransCmp.isLE_trans _ compareParts _ (parts a) (parts b) (parts c)

theorem order_eq_compareLex : order = compareLex byParts compare := rfl

instance : TransCmp order := by
  rw [order_eq_compareLex]
  infer_instance

/-- Versions that compare equal are the same text. -/
instance : LawfulEqCmp order where
  eq_of_compare {a b} h := by
    rw [order_eq_compareLex, compareLex_eq_eq] at h
    exact Std.compare_eq_iff_eq.1 h.2

theorem max_eq_or (a b : String) : max a b = a ∨ max a b = b := by
  unfold max
  split
  · exact .inr rfl
  · exact .inl rfl

theorem isLE_max_left (a b : String) : (order a (max a b)).isLE := by
  unfold max
  split
  · rename_i h
    simp [h]
  · simp [ReflCmp.compare_self]

theorem isLE_max_right (a b : String) : (order b (max a b)).isLE := by
  unfold max
  split
  · simp [ReflCmp.compare_self]
  · rename_i h
    by_contra hn
    exact h (OrientedCmp.lt_of_not_isLE hn)

theorem max_of_isLE {a b : String} (h : (order a b).isLE) : max a b = b := by
  rcases max_eq_or a b with hm | hm
  · have hba := isLE_max_right a b
    rw [hm] at hba ⊢
    exact LawfulEqCmp.eq_of_compare (OrientedCmp.isLE_antisymm h hba)
  · exact hm

theorem parts_empty : parts "" = [0] := by
  decide

theorem isLE_compareParts_nil (bs : List Nat) : (compareParts [] bs).isLE := by
  induction bs with
  | nil => simp [compareParts]
  | cons b bs ih =>
    rw [compareParts, Ordering.isLE_then_iff_and]
    refine ⟨Nat.isLE_compare.2 (Nat.zero_le b), ?_⟩
    exact .inr ih

theorem isLE_compareParts_zero (bs : List Nat) : (compareParts [0] bs).isLE := by
  cases bs with
  | nil => simp [compareParts]
  | cons b bs =>
    rw [compareParts, Ordering.isLE_then_iff_and]
    exact ⟨Nat.isLE_compare.2 (Nat.zero_le b), .inr (isLE_compareParts_nil bs)⟩

theorem isLE_order_empty (v : String) : (order "" v).isLE := by
  rw [order, parts_empty, Ordering.isLE_then_iff_and]
  refine ⟨isLE_compareParts_zero _, .inr ?_⟩
  have h : "" ≤ v := List.not_lt_nil v.toList
  exact (isLE_compareOfLessAndEq String.le_antisymm String.not_le String.le_total).2 h

theorem max_eq_empty {a b : String} (h : max a b = "") : a = "" ∧ b = "" := by
  have ha := isLE_max_left a b
  have hb := isLE_max_right a b
  rw [h] at ha hb
  exact ⟨LawfulEqCmp.eq_of_compare (OrientedCmp.isLE_antisymm ha (isLE_order_empty a)),
    LawfulEqCmp.eq_of_compare (OrientedCmp.isLE_antisymm hb (isLE_order_empty b))⟩

end ShootPlan.Version
