import ShootPlan.Proofs.BlockRelations
/-!
Blocks in machine words. A base has 32 bits and a length 8, sizes and ends are counted in 64. Every
difference, sum, shift and remainder that leaves the range of its word is without a result here, so a
computation that has one stayed in range. Lengths up to 32 are all that is needed for that.
-/
namespace ShootPlan

namespace Word

/-- The difference, which may not go below zero. -/
def sub? (a b : UInt32) : Option UInt32 := if b ≤ a then some (a - b) else none

/-- The sum, which has to fit into the word. -/
def add? (a b : UInt64) : Option UInt64 :=
  if a.toNat + b.toNat < 2 ^ 64 then some (a + b) else none

/-- A word is shifted by less than its width. Bits that go out at the top are lost. -/
def shiftLeft32? (a amount : UInt32) : Option UInt32 :=
  if amount < 32 then some (a <<< amount) else none

def shiftLeft64? (a : UInt64) (amount : UInt32) : Option UInt64 :=
  if amount < 64 then some (a <<< amount.toUInt64) else none

/-- The remainder, for divisors other than zero. -/
def mod? (a b : UInt64) : Option UInt64 := if b = 0 then none else some (a % b)

theorem sub?_eq {a b : UInt32} (h : b.toNat ≤ a.toNat) :
    sub? a b = some (UInt32.ofNat (a.toNat - b.toNat)) := by
  have hle : b ≤ a := UInt32.le_iff_toNat_le.2 h
  rw [sub?, if_pos hle, Option.some.injEq]
  apply UInt32.toNat_inj.1
  have hlt := a.toNat_lt
  rw [UInt32.toNat_sub_of_le _ _ hle, UInt32.toNat_ofNat']
  omega

theorem add?_eq {a b : UInt64} (h : a.toNat + b.toNat < 2 ^ 64) :
    add? a b = some (UInt64.ofNat (a.toNat + b.toNat)) := by
  rw [add?, if_pos h, UInt64.ofNat_add, UInt64.ofNat_toNat, UInt64.ofNat_toNat]

theorem shiftLeft64?_one {amount : Nat} (h : amount < 64) :
    shiftLeft64? 1 (UInt32.ofNat amount) = some (UInt64.ofNat (2 ^ amount)) := by
  have hamount : (UInt32.ofNat amount).toNat = amount := by
    rw [UInt32.toNat_ofNat']
    omega
  have hlt : UInt32.ofNat amount < 64 := UInt32.lt_iff_toNat_lt.2 (by rw [hamount]; exact h)
  rw [shiftLeft64?, if_pos hlt, Option.some.injEq]
  apply UInt64.toNat_inj.1
  rw [UInt64.toNat_shiftLeft, UInt64.toNat_ofNat', UInt32.toNat_toUInt64, hamount,
    Nat.mod_eq_of_lt h, Nat.shiftLeft_eq]
  exact congrArg (· % 2 ^ 64) (Nat.one_mul _)

end Word

/-- A block as it is held in words. Any two words make one, whether or not the base is aligned. -/
structure WordBlock where
  base : UInt32
  length : UInt8
  deriving DecidableEq

namespace WordBlock

def size? (block : WordBlock) : Option UInt64 := do
  Word.shiftLeft64? 1 (← Word.sub? 32 block.length.toUInt32)

def finish? (block : WordBlock) : Option UInt64 := do
  Word.add? block.base.toUInt64 (← block.size?)

/-- The ends are compared last, when lengths and bases have been found in order. -/
def contains? (block other : WordBlock) : Option Bool :=
  if block.length ≤ other.length ∧ block.base ≤ other.base then do
    let otherFinish ← other.finish?
    let finish ← block.finish?
    return otherFinish ≤ finish
  else return false

def overlaps? (block other : WordBlock) : Option Bool := do
  let otherFinish ← other.finish?
  if block.base.toUInt64 < otherFinish then do
    let finish ← block.finish?
    return other.base.toUInt64 < finish
  else return false

def isAligned? (block : WordBlock) : Option Bool := do
  let rest ← Word.mod? block.base.toUInt64 (← block.size?)
  return rest = 0

/-- As many ones as the length says, then zeros. A word is not shifted out as a whole. -/
def mask? (length : UInt8) : Option UInt32 :=
  if length = 0 then return 0
  else do Word.shiftLeft32? 0xFFFFFFFF (← Word.sub? 32 length.toUInt32)

/-- The block of that length that an address lies in. -/
def ofAddress? (address : UInt32) (length : UInt8) : Option WordBlock := do
  let mask ← mask? length
  return ⟨address &&& mask, length⟩

/-- The block itself, if it lies in the parent and is aligned. The latter is asked last. -/
def keep? (parent block : WordBlock) : Option (Option WordBlock) := do
  if ← parent.contains? block then
    if ← block.isAligned? then return some block
    else return none
  else return none

/--
Carve out a block. The start alone is counted without a check, so it may wrap. The outer result is
missing when a step leaves its range, the inner one when there is no such block.
-/
def subnet? (parent : WordBlock) (offset : UInt64) (length : UInt8) : Option (Option WordBlock) :=
  let start := parent.base.toUInt64 + offset
  if start.toNat < 2 ^ 32 ∧ length ≤ 32 then parent.keep? ⟨start.toUInt32, length⟩
  else some none

variable {block other : WordBlock}

@[simp] theorem toNat_ofNat_blockSize (length : Nat) :
    (UInt64.ofNat (blockSize length)).toNat = blockSize length :=
  UInt64.toNat_ofNat_of_lt' ((blockSize_le_all length).trans_lt (by decide))

theorem size?_eq (h : block.length.toNat ≤ 32) :
    block.size? = some (UInt64.ofNat (blockSize block.length.toNat)) := by
  have hsub : Word.sub? 32 block.length.toUInt32 =
      some (UInt32.ofNat (32 - block.length.toNat)) := Word.sub?_eq h
  rw [size?, hsub]
  exact Word.shiftLeft64?_one (by omega)

/-- Ends have no more than 33 bits. -/
theorem finish_lt (block : WordBlock) :
    block.base.toNat + blockSize block.length.toNat < 2 ^ 64 := by
  have hbase := block.base.toNat_lt
  have hsize := blockSize_le_all block.length.toNat
  omega

@[simp] theorem toNat_ofNat_finish (block : WordBlock) :
    (UInt64.ofNat (block.base.toNat + blockSize block.length.toNat)).toNat =
      block.base.toNat + blockSize block.length.toNat :=
  UInt64.toNat_ofNat_of_lt' block.finish_lt

theorem finish?_eq (h : block.length.toNat ≤ 32) :
    block.finish? = some (UInt64.ofNat (block.base.toNat + blockSize block.length.toNat)) := by
  have hsum : block.base.toUInt64.toNat + (UInt64.ofNat (blockSize block.length.toNat)).toNat < 2 ^ 64 := by
    rw [UInt32.toNat_toUInt64, toNat_ofNat_blockSize]
    exact block.finish_lt
  rw [finish?, size?_eq h]
  refine (Word.add?_eq hsum).trans ?_
  rw [UInt32.toNat_toUInt64, toNat_ofNat_blockSize]

/-- Words are compared as the numbers they stand for. -/
theorem finish_le_iff (block other : WordBlock) :
    UInt64.ofNat (other.base.toNat + blockSize other.length.toNat) ≤
        UInt64.ofNat (block.base.toNat + blockSize block.length.toNat) ↔
      other.base.toNat + blockSize other.length.toNat ≤
        block.base.toNat + blockSize block.length.toNat := by
  rw [UInt64.le_iff_toNat_le, toNat_ofNat_finish, toNat_ofNat_finish]

theorem base_lt_finish_iff (block other : WordBlock) :
    block.base.toUInt64 < UInt64.ofNat (other.base.toNat + blockSize other.length.toNat) ↔
      block.base.toNat < other.base.toNat + blockSize other.length.toNat := by
  rw [UInt64.lt_iff_toNat_lt, toNat_ofNat_finish, UInt32.toNat_toUInt64]

theorem contains?_eq (h : block.length.toNat ≤ 32) (hother : other.length.toNat ≤ 32) :
    block.contains? other = some (decide (block.length.toNat ≤ other.length.toNat) &&
      decide (block.base.toNat ≤ other.base.toNat) &&
      decide (other.base.toNat + blockSize other.length.toNat ≤
        block.base.toNat + blockSize block.length.toNat)) := by
  rw [contains?, finish?_eq h, finish?_eq hother]
  split_ifs with hfirst
  · rw [UInt8.le_iff_toNat_le, UInt32.le_iff_toNat_le] at hfirst
    simp only [Option.bind_eq_bind, Option.bind_some, finish_le_iff, hfirst.1, hfirst.2, decide_true,
      Bool.true_and]
    rfl
  · rw [UInt8.le_iff_toNat_le, UInt32.le_iff_toNat_le, not_and_or] at hfirst
    rcases hfirst with hlength | hbase
    · simp [hlength]
    · simp [hbase]

theorem overlaps?_eq (h : block.length.toNat ≤ 32) (hother : other.length.toNat ≤ 32) :
    block.overlaps? other = some (
      decide (block.base.toNat < other.base.toNat + blockSize other.length.toNat) &&
      decide (other.base.toNat < block.base.toNat + blockSize block.length.toNat)) := by
  rw [overlaps?, finish?_eq h, finish?_eq hother]
  simp only [Option.bind_eq_bind, Option.bind_some, base_lt_finish_iff]
  split_ifs with hfirst
  · simp [hfirst]
  · simp [hfirst]

theorem isAligned?_eq (h : block.length.toNat ≤ 32) :
    block.isAligned? = some (decide (blockSize block.length.toNat ∣ block.base.toNat)) := by
  have hsize := toNat_ofNat_blockSize block.length.toNat
  have hpos : 0 < blockSize block.length.toNat := Nat.pow_pos (by decide)
  have hne : UInt64.ofNat (blockSize block.length.toNat) ≠ 0 := by
    intro hzero
    rw [hzero] at hsize
    exact hpos.ne hsize
  have hmod : Word.mod? block.base.toUInt64 (UInt64.ofNat (blockSize block.length.toNat)) =
      some (block.base.toUInt64 % UInt64.ofNat (blockSize block.length.toNat)) := if_neg hne
  have hrest : block.base.toUInt64 % UInt64.ofNat (blockSize block.length.toNat) = 0 ↔
      blockSize block.length.toNat ∣ block.base.toNat := by
    rw [← UInt64.toNat_inj, UInt64.toNat_mod, hsize, UInt32.toNat_toUInt64, Nat.dvd_iff_mod_eq_zero]
    rfl
  rw [isAligned?, size?_eq h]
  simp [hmod, hrest]

theorem keep?_eq (hother : other.length.toNat ≤ 32) {inside : Bool}
    (hinside : block.contains? other = some inside) :
    block.keep? other = some (if inside = true ∧ blockSize other.length.toNat ∣ other.base.toNat
      then some other else none) := by
  rw [keep?, hinside, isAligned?_eq hother]
  simp only [Option.bind_eq_bind, Option.bind_some, decide_eq_true_eq]
  cases inside with
  | false => simp
  | true =>
    simp only [if_true, true_and]
    split_ifs <;> rfl

theorem toNat_ones_shiftLeft {amount : Nat} (h : amount < 32) :
    ((0xFFFFFFFF : UInt32) <<< UInt32.ofNat amount).toNat = (2 ^ 32 - 1) <<< amount % 2 ^ 32 := by
  have hamount : (UInt32.ofNat amount).toNat = amount := UInt32.toNat_ofNat_of_lt' (by
    change amount < 4294967296
    omega)
  rw [UInt32.toNat_shiftLeft, hamount, Nat.mod_eq_of_lt h]
  rfl

/-- The mask keeps the bits from the host bits on. -/
theorem mask?_eq {length : UInt8} (h : length.toNat ≤ 32) : ∃ mask, mask? length = some mask ∧
    ∀ i < 32, mask.toNat.testBit i = decide (32 - length.toNat ≤ i) := by
  unfold mask?
  split_ifs with hzero
  · have hlength : length.toNat = 0 := congrArg UInt8.toNat hzero
    refine ⟨0, rfl, fun i hi => ?_⟩
    rw [hlength, decide_eq_false (not_le.2 hi)]
    exact Nat.zero_testBit i
  · have hpos : 0 < length.toNat := by
      rw [← UInt8.toNat_inj] at hzero
      exact Nat.pos_of_ne_zero hzero
    have hsub : Word.sub? 32 length.toUInt32 = some (UInt32.ofNat (32 - length.toNat)) := Word.sub?_eq h
    have hlt : UInt32.ofNat (32 - length.toNat) < 32 := by
      rw [UInt32.lt_iff_toNat_lt, UInt32.toNat_ofNat']
      change _ < 32
      omega
    rw [hsub]
    refine ⟨_, if_pos hlt, fun i hi => ?_⟩
    rw [toNat_ones_shiftLeft (by omega), Nat.testBit_mod_two_pow, Nat.testBit_shiftLeft,
      Nat.testBit_two_pow_sub_one]
    have hshifted : i - (32 - length.toNat) < 32 := by omega
    simp [hi, hshifted]

end WordBlock

end ShootPlan
