import Mathlib.Tactic
import ShootPlan.Blank
/-!
Texts with blanks around them. What is trimmed off is blank, and a text without blanks at its
ends keeps all of itself.
-/
namespace ShootPlan.Blank

theorem isBlank_of_isDigit {c : Char} (h : c.isDigit) : isBlank c = false := by
  simp only [Char.isDigit, Bool.and_eq_true, decide_eq_true_eq] at h
  obtain ⟨hlow, hhigh⟩ := h
  have hlow : 48 ≤ c.toNat := hlow
  have hhigh : c.toNat ≤ 57 := hhigh
  simp only [isBlank, Bool.or_eq_false_iff, Bool.and_eq_false_iff, decide_eq_false_iff_not]
  omega

theorem exists_eq_trimStart (cs : List Char) :
    ∃ before, cs = before ++ trimStart cs ∧ ∀ c ∈ before, isBlank c :=
  ⟨cs.takeWhile isBlank, List.takeWhile_append_dropWhile.symm, List.all_eq_true.1 List.all_takeWhile⟩

theorem exists_eq_trim (cs : List Char) : ∃ before after, cs = before ++ trim cs ++ after ∧
    (∀ c ∈ before, isBlank c) ∧ ∀ c ∈ after, isBlank c := by
  obtain ⟨before, hstart, hbefore⟩ := exists_eq_trimStart cs
  obtain ⟨after, hend, hafter⟩ := exists_eq_trimStart (trimStart cs).reverse
  refine ⟨before, after.reverse, ?_, hbefore, fun c hc => hafter c (List.mem_reverse.1 hc)⟩
  have htrim : trimStart cs = trim cs ++ after.reverse := by
    rw [List.reverse_eq_iff.1 hend, List.reverse_append]
    rfl
  rw [List.append_assoc, ← htrim]
  exact hstart

theorem trimStart_append {before cs : List Char} (hbefore : ∀ c ∈ before, isBlank c)
    (hfirst : ∀ c ∈ cs.head?, isBlank c = false) : trimStart (before ++ cs) = cs := by
  rw [trimStart, List.dropWhile_append_of_pos hbefore]
  cases cs with
  | nil => rfl
  | cons c cs => exact List.dropWhile_cons_of_neg (by simp [hfirst c rfl])

theorem trimEnd_append {cs after : List Char} (hafter : ∀ c ∈ after, isBlank c)
    (hlast : ∀ c ∈ cs.getLast?, isBlank c = false) : trimEnd (cs ++ after) = cs := by
  have hreverse : trimStart (after.reverse ++ cs.reverse) = cs.reverse :=
    trimStart_append (fun c hc => hafter c (List.mem_reverse.1 hc))
      (by rwa [List.head?_reverse])
  rw [trimEnd, List.reverse_append, ← trimStart, hreverse, List.reverse_reverse]

/-- Blanks around a text that has none are what is trimmed off. -/
theorem trim_append {before cs after : List Char} (hbefore : ∀ c ∈ before, isBlank c)
    (hafter : ∀ c ∈ after, isBlank c) (hne : cs ≠ []) (hcs : ∀ c ∈ cs, isBlank c = false) :
    trim (before ++ cs ++ after) = cs := by
  have hfirst : ∀ c ∈ (cs ++ after).head?, isBlank c = false := by
    rw [List.head?_append_of_ne_nil _ hne]
    exact fun c hc => hcs c (List.mem_of_head? hc)
  rw [trim, List.append_assoc, trimStart_append hbefore hfirst]
  exact trimEnd_append hafter fun c hc => hcs c (List.mem_of_getLast? hc)

theorem trim_of_forall {cs : List Char} (h : ∀ c ∈ cs, isBlank c = false) : trim cs = cs := by
  cases cs with
  | nil => rfl
  | cons c cs =>
    have htrim : trim ([] ++ c :: cs ++ []) = c :: cs :=
      trim_append (List.forall_mem_nil _) (List.forall_mem_nil _) (List.cons_ne_nil c cs) h
    rwa [List.append_nil] at htrim

end ShootPlan.Blank
