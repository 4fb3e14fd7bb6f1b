import ShootPlan.Proofs.CidrNotation
/-!
How blocks lie to each other. The addresses of a block are those that begin with its prefix, so
of two blocks that share an address the one with the longer prefix lies in the other: blocks are
nested or apart. One block contains another just when it has all addresses of it, which makes
containment a partial order.
-/
namespace ShootPlan

theorem blockSize_eq {length bits : Nat} (h : length + bits ≤ 32) :
    blockSize length = 2 ^ bits * blockSize (length + bits) := by
  have hsum : 32 - length = bits + (32 - (length + bits)) := by omega
  rw [blockSize, blockSize, hsum]
  exact Nat.pow_add 2 bits _

theorem blockSize_le {short long : Nat} (h : short ≤ long) : blockSize long ≤ blockSize short :=
  Nat.pow_le_pow_right (by decide) (Nat.sub_le_sub_left h 32)

/-- No block has more than all addresses. -/
theorem blockSize_le_all (length : Nat) : blockSize length ≤ 2 ^ 32 := blockSize_le (Nat.zero_le length)

namespace Cidr

/-- No address belongs to both blocks. -/
def Apart (a b : Cidr) : Prop := ∀ address, ¬(a.Holds address ∧ b.Holds address)

theorem Apart.symm {a b : Cidr} (h : a.Apart b) : b.Apart a :=
  fun address hboth => h address hboth.symm

theorem apart_of_finish_le {a b : Cidr} (h : a.finish ≤ b.base) : a.Apart b := by
  rintro address ⟨ha, hb⟩
  have hlt : address < a.finish := ha.2
  have hle : b.base ≤ address := hb.1
  omega

theorem overlaps_eq_false_iff {a b : Cidr} : a.overlaps b = false ↔ a.Apart b := by
  have ha : a.base < a.finish := Nat.lt_add_of_pos_right a.size_pos
  have hb : b.base < b.finish := Nat.lt_add_of_pos_right b.size_pos
  constructor
  · intro h
    simp only [overlaps, Bool.and_eq_false_iff, decide_eq_false_iff_not] at h
    rcases h with h | h
    · exact (apart_of_finish_le (not_lt.1 h)).symm
    · exact apart_of_finish_le (not_lt.1 h)
  · intro h
    by_contra hoverlaps
    simp only [overlaps, Bool.not_eq_false, Bool.and_eq_true, decide_eq_true_eq] at hoverlaps
    -- the greater of both bases belongs to both blocks
    refine h (max a.base b.base) ⟨⟨le_max_left _ _, ?_⟩, le_max_right _ _, ?_⟩
    · exact max_lt ha hoverlaps.2
    · exact max_lt hoverlaps.1 hb

/-- All addresses of the block are addresses of the network. -/
def Within (block parent : Cidr) : Prop := ∀ address, block.Holds address → parent.Holds address

variable {a b block parent : Cidr} {address : Nat}

theorem contains_iff_bounds :
    a.contains b ↔ a.length ≤ b.length ∧ a.base ≤ b.base ∧ b.finish ≤ a.finish := by
  simp only [contains, Bool.and_eq_true, decide_eq_true_eq, and_assoc]

theorem within_of_contains (h : parent.contains block) : block.Within parent := by
  obtain ⟨-, hbase, hfinish⟩ := contains_iff_bounds.1 h
  exact fun address haddress => ⟨hbase.trans haddress.1, haddress.2.trans_le hfinish⟩

/-- A block starts and ends at multiples of its size that follow each other. -/
theorem exists_count (block : Cidr) :
    ∃ count, block.base = block.size * count ∧ block.finish = block.size * (count + 1) := by
  obtain ⟨count, hcount⟩ := block.aligned
  change block.base = block.size * count at hcount
  exact ⟨count, hcount, by rw [finish, hcount, Nat.mul_succ]⟩

/-- Blocks end within the address space. -/
theorem finish_le (block : Cidr) : block.finish ≤ blockSize 0 := by
  have hall : blockSize 0 = 2 ^ block.length * block.size := by
    have hlength := block.length_le
    rw [@blockSize_eq 0 block.length (by omega), size, Nat.zero_add]
  obtain ⟨count, hbase, hfinish⟩ := block.exists_count
  have hlt : block.size * count < block.size * 2 ^ block.length := by
    rw [← hbase, Nat.mul_comm block.size, ← hall]
    exact block.base_lt
  have hnext : count + 1 ≤ 2 ^ block.length := Nat.lt_of_mul_lt_mul_left hlt
  calc block.finish = block.size * (count + 1) := hfinish
    _ ≤ block.size * 2 ^ block.length := Nat.mul_le_mul_left _ hnext
    _ = blockSize 0 := by rw [hall, Nat.mul_comm]

theorem holds_base (block : Cidr) : block.Holds block.base :=
  ⟨le_refl _, Nat.lt_add_of_pos_right block.size_pos⟩

theorem holds_last (block : Cidr) : block.Holds (block.finish - 1) := by
  have hpos := block.size_pos
  simp only [Holds, finish]
  omega

/-- What is left of an address when the bits of the hosts are dropped is its prefix. -/
theorem holds_iff_div : block.Holds address ↔ address / block.size = block.base / block.size := by
  obtain ⟨count, hbase, hfinish⟩ := block.exists_count
  have hquotient : block.base / block.size = count := by
    rw [hbase, Nat.mul_div_cancel_left _ block.size_pos]
  have hpos := block.size_pos
  rw [hquotient, Nat.div_eq_iff hpos, Holds, hfinish, hbase, Nat.mul_comm count, Nat.mul_succ]
  omega

theorem size_dvd (h : a.length ≤ b.length) : b.size ∣ a.size := by
  obtain ⟨bits, hbits⟩ := Nat.exists_eq_add_of_le h
  have hlength := b.length_le
  have hsize := @blockSize_eq a.length bits (by omega)
  rw [← hbits] at hsize
  exact ⟨2 ^ bits, hsize.trans (Nat.mul_comm _ _)⟩

theorem length_le_of_size_le (h : b.size ≤ a.size) : a.length ≤ b.length := by
  have ha := a.length_le
  have hb := b.length_le
  have hexponent : 32 - b.length ≤ 32 - a.length := (Nat.pow_le_pow_iff_right (by decide)).1 h
  omega

/-- The block with the longer prefix lies inside if it has one address there. -/
theorem within_of_shared (hlength : a.length ≤ b.length) (ha : a.Holds address)
    (hb : b.Holds address) : b.Within a := by
  intro other hother
  obtain ⟨count, hcount⟩ := size_dvd hlength
  rw [holds_iff_div] at ha hb hother ⊢
  calc other / a.size = other / b.size / count := by rw [hcount, Nat.div_div_eq_div_mul]
    _ = address / b.size / count := by rw [hother, hb]
    _ = address / a.size := by rw [hcount, Nat.div_div_eq_div_mul]
    _ = a.base / a.size := ha

theorem contains_iff_within : a.contains b ↔ b.Within a := by
  constructor
  · exact within_of_contains
  · intro hwithin
    have hbase : a.base ≤ b.base := (hwithin _ b.holds_base).1
    have hlast : b.finish - 1 < a.finish := (hwithin _ b.holds_last).2
    have hfinish : b.finish ≤ a.finish := by omega
    have hsize : b.size ≤ a.size := by
      simp only [finish] at hfinish
      omega
    exact contains_iff_bounds.2 ⟨length_le_of_size_le hsize, hbase, hfinish⟩

theorem overlaps_iff_shared : a.overlaps b ↔ ∃ address, a.Holds address ∧ b.Holds address := by
  rw [← not_iff_not, Bool.not_eq_true, overlaps_eq_false_iff, Apart, not_exists]

theorem overlaps_comm (a b : Cidr) : a.overlaps b = b.overlaps a := by
  rw [overlaps, overlaps, Bool.and_comm]

/-- Blocks that share an address are nested. -/
theorem overlaps_iff_contains : a.overlaps b ↔ a.contains b ∨ b.contains a := by
  rw [overlaps_iff_shared, contains_iff_within, contains_iff_within]
  constructor
  · rintro ⟨address, ha, hb⟩
    rcases Nat.le_total a.length b.length with hle | hle
    · exact .inl (within_of_shared hle ha hb)
    · exact .inr (within_of_shared hle hb ha)
  · rintro (hwithin | hwithin)
    · exact ⟨b.base, hwithin _ b.holds_base, b.holds_base⟩
    · exact ⟨a.base, a.holds_base, hwithin _ a.holds_base⟩

theorem contains_antisymm (hab : a.contains b) (hba : b.contains a) : a = b := by
  obtain ⟨hlength, hbase, -⟩ := contains_iff_bounds.1 hab
  obtain ⟨hlength', hbase', -⟩ := contains_iff_bounds.1 hba
  exact ext_of_eq (le_antisymm hbase hbase') (le_antisymm hlength hlength')

instance : IsPartialOrder Cidr fun a b => a.contains b where
  refl a := contains_iff_within.2 fun _ h => h
  trans a b c hab hbc := by
    rw [contains_iff_within] at hab hbc ⊢
    exact fun address h => hab address (hbc address h)
  antisymm _ _ := contains_antisymm

end Cidr

end ShootPlan
