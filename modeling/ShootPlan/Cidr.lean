/-!
IPv4 networks: a base address and a prefix length. The base is always a multiple of the
block's size, so two blocks are nested or apart.
-/
namespace ShootPlan

/-- Number of addresses in a block of that prefix length. -/
def blockSize (length : Nat) : Nat := Nat.pow 2 (32 - length)

structure Cidr where
  base : Nat
  length : Nat
  length_le : length ≤ 32
  base_lt : base < blockSize 0
  aligned : blockSize length ∣ base
  deriving DecidableEq

namespace Cidr

def size (block : Cidr) : Nat := blockSize block.length

/-- One past the last address. -/
def finish (block : Cidr) : Nat := block.base + block.size

/-- The address belongs to the block. -/
def Holds (block : Cidr) (address : Nat) : Prop := block.base ≤ address ∧ address < block.finish

instance (block : Cidr) (address : Nat) : Decidable (block.Holds address) :=
  inferInstanceAs (Decidable (_ ∧ _))

theorem size_pos (block : Cidr) : 0 < block.size := Nat.pow_pos (by decide)

/-- The block of that length that an address lies in: the host bits are cleared. -/
def ofAddress (address : Fin (blockSize 0)) (length : Nat) (h : length ≤ 32) : Cidr where
  base := address.val / blockSize length * blockSize length
  length := length
  length_le := h
  base_lt := Nat.lt_of_le_of_lt (Nat.div_mul_le_self _ _) address.isLt
  aligned := ⟨_, Nat.mul_comm _ _⟩

/-- The other block lies inside this one. -/
def contains (block other : Cidr) : Bool :=
  block.length ≤ other.length && block.base ≤ other.base && other.finish ≤ block.finish

/-- The blocks share an address. -/
def overlaps (block other : Cidr) : Bool :=
  block.base < other.finish && other.base < block.finish

/--
The block of that length that starts so many addresses after the base. Addresses are
counted in 64 bits; there is no such block when it is not aligned or leaves the parent.
-/
def subnet? (parent : Cidr) (offset : UInt64) (length : UInt8) : Option Cidr :=
  let start := (UInt64.ofNat parent.base + offset).toNat
  if h : length.toNat ≤ 32 ∧ start < blockSize 0 ∧ blockSize length.toNat ∣ start then
    let block : Cidr := ⟨start, length.toNat, h.1, h.2.1, h.2.2⟩
    if parent.contains block then some block else none
  else none

end Cidr

end ShootPlan
