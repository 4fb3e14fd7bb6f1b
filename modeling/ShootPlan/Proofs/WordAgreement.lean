import ShootPlan.Proofs.Carving
import ShootPlan.Proofs.CidrGrammar
import ShootPlan.Proofs.WordBlocks
/-!
Blocks and the words that hold them. What is computed in words is what is computed for the block, so
nothing overflows; and the pairs of words that reading and carving lead to are just the blocks. With
that the relations of blocks are relations of all words that can be met, and carving is exact for any
offset and length that a word may hold.
-/
namespace ShootPlan

namespace Cidr

/-- The words that hold a block. -/
def words (block : Cidr) : WordBlock := ⟨UInt32.ofNat block.base, UInt8.ofNat block.length⟩

@[simp] theorem toNat_words_base (block : Cidr) : block.words.base.toNat = block.base :=
  UInt32.toNat_ofNat_of_lt' block.base_lt

@[simp] theorem toNat_words_length (block : Cidr) : block.words.length.toNat = block.length :=
  UInt8.toNat_ofNat_of_lt' (Nat.lt_of_le_of_lt block.length_le (by decide))

theorem words_length_le (block : Cidr) : block.words.length.toNat ≤ 32 := by
  rw [toNat_words_length]
  exact block.length_le

theorem words_injective : Function.Injective words := by
  intro a b h
  have hbase := congrArg (fun w => w.base.toNat) h
  have hlength := congrArg (fun w => w.length.toNat) h
  simp only [toNat_words_base, toNat_words_length] at hbase hlength
  exact ext_of_eq hbase hlength

theorem size?_words (block : Cidr) : block.words.size? = some (UInt64.ofNat block.size) := by
  rw [WordBlock.size?_eq block.words_length_le, toNat_words_length, size]

theorem contains?_words (a b : Cidr) : a.words.contains? b.words = some (a.contains b) := by
  rw [WordBlock.contains?_eq a.words_length_le b.words_length_le]
  simp only [toNat_words_base, toNat_words_length]
  rfl

theorem overlaps?_words (a b : Cidr) : a.words.overlaps? b.words = some (a.overlaps b) := by
  rw [WordBlock.overlaps?_eq a.words_length_le b.words_length_le]
  simp only [toNat_words_base, toNat_words_length]
  rfl

/-- Masking gives the block that an address lies in. -/
theorem ofAddress?_words (address : Fin (blockSize 0)) {length : Nat} (h : length ≤ 32) :
    WordBlock.ofAddress? (.ofNat address) (.ofNat length) = some (ofAddress address length h).words := by
  have hlength : (UInt8.ofNat length).toNat = length := toNat_words_length (ofAddress address length h)
  have haddress : (UInt32.ofNat address).toNat = address := UInt32.toNat_ofNat_of_lt' address.isLt
  obtain ⟨mask, hmask, hbits⟩ := WordBlock.mask?_eq (hlength.trans_le h)
  rw [hlength] at hbits
  have hbase : UInt32.ofNat address &&& mask = UInt32.ofNat (ofAddress address length h).base := by
    apply UInt32.toNat_inj.1
    rw [UInt32.toNat_and, haddress, UInt32.toNat_ofNat_of_lt' (ofAddress address length h).base_lt]
    apply Nat.eq_of_testBit_eq
    intro i
    rw [Nat.testBit_and, testBit_ofAddress]
    by_cases hi : i < 32
    · rw [hbits i hi, Bool.and_comm]
    · -- addresses have no bits beyond their width
      have hnone : address.val.testBit i = false := Nat.testBit_lt_two_pow
        (address.isLt.trans_le (Nat.pow_le_pow_right (by decide) (not_lt.1 hi)))
      rw [hnone, Bool.false_and, Bool.and_false]
  rw [WordBlock.ofAddress?, hmask]
  simp only [Option.bind_eq_bind, Option.bind_some, hbase]
  rfl

theorem keep?_words (parent block : Cidr) :
    parent.words.keep? block.words = some (if parent.contains block then some block.words else none) := by
  have haligned : blockSize block.words.length.toNat ∣ block.words.base.toNat := by
    rw [toNat_words_base, toNat_words_length]
    exact block.aligned
  rw [WordBlock.keep?_eq block.words_length_le (contains?_words parent block)]
  simp only [haligned, and_true]

theorem keep?_unaligned (parent : Cidr) {block : WordBlock} (hlength : block.length.toNat ≤ 32)
    (hrest : ¬blockSize block.length.toNat ∣ block.base.toNat) : parent.words.keep? block = some none := by
  have hinside := WordBlock.contains?_eq parent.words_length_le hlength
  rw [WordBlock.keep?_eq hlength hinside, if_neg fun h => hrest h.2]

/-- Carving in words finds the same block, and no step of it leaves its range. -/
theorem subnet?_words (parent : Cidr) (offset : UInt64) (length : UInt8) :
    parent.words.subnet? offset length = some ((parent.subnet? offset length).map words) := by
  obtain ⟨start, hstart⟩ : ∃ start, UInt64.ofNat parent.base + offset = start := ⟨_, rfl⟩
  have hwordStart : parent.words.base.toUInt64 + offset = start := by
    rw [← hstart, ← UInt64.toNat_inj, toNat_start, UInt64.toNat_add, UInt32.toNat_toUInt64,
      toNat_words_base]
  rw [WordBlock.subnet?, hwordStart, subnet?_of_start hstart]
  by_cases hrange : start.toNat < 2 ^ 32 ∧ length ≤ 32
  · have hlt := hrange.1
    have hle : length.toNat ≤ 32 := UInt8.le_iff_toNat_le.1 hrange.2
    have hbase : start.toUInt32.toNat = start.toNat := by
      rw [UInt64.toNat_toUInt32, Nat.mod_eq_of_lt hlt]
    rw [if_pos hrange]
    by_cases haligned : blockSize length.toNat ∣ start.toNat
    · obtain ⟨block, hblock⟩ : ∃ block : Cidr, ⟨start.toNat, length.toNat, hle, hlt, haligned⟩ = block :=
        ⟨_, rfl⟩
      have hwords : (⟨start.toUInt32, length⟩ : WordBlock) = block.words := by
        rw [← hblock, words, UInt8.ofNat_toNat, WordBlock.mk.injEq]
        exact ⟨UInt32.toNat_inj.1 (hbase.trans (UInt32.toNat_ofNat_of_lt' hlt).symm), rfl⟩
      rw [dif_pos ⟨hle, hlt, haligned⟩, hblock, hwords, keep?_words]
      split_ifs <;> rfl
    · rw [dif_neg fun h => haligned h.2.2, keep?_unaligned parent hle (hbase ▸ haligned)]
      rfl
  · rw [if_neg hrange, dif_neg fun h => hrange ⟨h.2.1, UInt8.le_iff_toNat_le.2 h.1⟩]
    rfl

end Cidr

namespace WordBlock

/-- The words that come of reading a text or of carving such words again and again. -/
inductive Obtained : WordBlock → Prop
  | parsed {text : String} {address length : Nat} {block : WordBlock}
      (text_denotes : Cidr.Denotes text address length)
      (masked : ofAddress? (.ofNat address) (.ofNat length) = some block) : Obtained block
  | carved {parent block : WordBlock} {offset : UInt64} {length : UInt8}
      (parent_obtained : Obtained parent)
      (found : parent.subnet? offset length = some (some block)) : Obtained block

theorem Obtained.exists_words {block : WordBlock} (h : Obtained block) :
    ∃ cidr : Cidr, cidr.words = block := by
  induction h with
  | parsed text_denotes masked =>
    obtain ⟨hlt, hle⟩ := text_denotes.bounds
    have hwords := Cidr.ofAddress?_words ⟨_, hlt⟩ hle
    exact ⟨_, Option.some.inj (hwords.symm.trans masked)⟩
  | carved _ found ih =>
    obtain ⟨parent, rfl⟩ := ih
    rw [Cidr.subnet?_words, Option.some.injEq, Option.map_eq_some_iff] at found
    obtain ⟨cidr, -, hwords⟩ := found
    exact ⟨cidr, hwords⟩

/-- Every block is read from its own text. -/
theorem obtained_words (cidr : Cidr) : Obtained cidr.words := by
  obtain ⟨address, length, hdenotes, hmasks⟩ := Cidr.parse_eq_ok_iff.1 (Cidr.parse_text cidr)
  obtain ⟨hlt, hle⟩ := hdenotes.bounds
  have hwords := Cidr.ofAddress?_words ⟨address, hlt⟩ hle
  rw [← (Cidr.masks_iff hle).1 hmasks] at hwords
  exact .parsed hdenotes hwords

theorem obtained_iff {block : WordBlock} : Obtained block ↔ ∃ cidr : Cidr, cidr.words = block := by
  constructor
  · exact Obtained.exists_words
  · rintro ⟨cidr, rfl⟩
    exact obtained_words cidr

theorem Obtained.aligned {block : WordBlock} (h : Obtained block) :
    2 ^ (32 - block.length.toNat) ∣ block.base.toNat ∧ block.isAligned? = some true := by
  obtain ⟨cidr, rfl⟩ := h.exists_words
  have haligned : blockSize cidr.words.length.toNat ∣ cidr.words.base.toNat := by
    rw [Cidr.toNat_words_base, Cidr.toNat_words_length]
    exact cidr.aligned
  rw [isAligned?_eq cidr.words_length_le, decide_eq_true haligned]
  exact ⟨haligned, rfl⟩

end WordBlock

namespace Cidr

theorem exists_size?_words (block : Cidr) :
    ∃ size, block.words.size? = some size ∧ size.toNat = block.size :=
  ⟨_, block.size?_words, WordBlock.toNat_ofNat_blockSize block.length⟩

/-- Reading a text masks the address that it denotes, in words. -/
theorem parse_eq_ok_iff_words {text : String} {block : Cidr} : parse text = .ok block ↔
    ∃ address length, Denotes text address length ∧
      WordBlock.ofAddress? (.ofNat address) (.ofNat length) = some block.words := by
  rw [parse_eq_ok_iff]
  refine exists_congr fun address => exists_congr fun length => and_congr_right fun hdenotes => ?_
  obtain ⟨hlt, hle⟩ := hdenotes.bounds
  have hwords := ofAddress?_words ⟨address, hlt⟩ hle
  rw [hwords, Option.some.injEq, words_injective.eq_iff]
  exact (@masks_iff block ⟨address, hlt⟩ length hle).trans eq_comm

/--
The words that are read from a text or carved from such words hold just the blocks, and their bases
are aligned. Containing and overlapping say of the addresses what they are named for, blocks that
overlap are nested, and containment is a partial order. In words all of this is computed without
leaving the range of any.
-/
theorem predicates_mean_addresses :
    (∀ block : WordBlock, block.Obtained ↔ ∃ cidr : Cidr, cidr.words = block) ∧
    (∀ block : WordBlock, block.Obtained →
      2 ^ (32 - block.length.toNat) ∣ block.base.toNat ∧ block.isAligned? = some true) ∧
    (∀ (text : String) (block : Cidr), parse text = .ok block ↔
      ∃ address length, Denotes text address length ∧
        WordBlock.ofAddress? (.ofNat address) (.ofNat length) = some block.words) ∧
    (∀ (block : Cidr) (address : Nat), block.Holds address ↔
      address / 2 ^ (32 - block.length) = block.base / 2 ^ (32 - block.length)) ∧
    (∀ a b : Cidr,
      (a.contains b ↔ ∀ address, b.Holds address → a.Holds address) ∧
      (a.overlaps b ↔ ∃ address, a.Holds address ∧ b.Holds address) ∧
      a.overlaps b = b.overlaps a ∧
      (a.overlaps b ↔ a.contains b ∨ b.contains a)) ∧
    IsPartialOrder Cidr (fun a b => a.contains b) ∧
    (∀ (address : Fin (blockSize 0)) (length : Nat) (h : length ≤ 32),
      WordBlock.ofAddress? (.ofNat address) (.ofNat length) = some (ofAddress address length h).words) ∧
    ∀ a b : Cidr,
      (∃ size, a.words.size? = some size ∧ size.toNat = a.size) ∧
      a.words.contains? b.words = some (a.contains b) ∧
      a.words.overlaps? b.words = some (a.overlaps b) := by
  refine ⟨fun _ => WordBlock.obtained_iff, fun _ => WordBlock.Obtained.aligned,
    fun _ _ => parse_eq_ok_iff_words, fun _ _ => holds_iff_div, fun a b => ?_, inferInstance,
    fun address _ h => ofAddress?_words address h, fun a b => ?_⟩
  · exact ⟨contains_iff_within, overlaps_iff_shared, overlaps_comm a b, overlaps_iff_contains⟩
  · exact ⟨a.exists_size?_words, contains?_words a b, overlaps?_words a b⟩

theorem predicates_mean_addresses_sample :
    ∃ all last : Cidr, parse "0.0.0.0/0" = .ok all ∧ parse "255.255.255.255/32" = .ok last ∧
      last.words.isAligned? = some true ∧ (∀ address, last.Holds address → all.Holds address) ∧
      last.overlaps all := by
  obtain ⟨hobtained, haligned, -, -, hrelations, -⟩ := predicates_mean_addresses
  obtain ⟨all, last, hall, hlast, hcontains⟩ : ∃ all last : Cidr, parse "0.0.0.0/0" = .ok all ∧
      parse "255.255.255.255/32" = .ok last ∧ all.contains last := ⟨_, _, rfl, rfl, by decide⟩
  obtain ⟨hwithin, -, -, -⟩ := hrelations all last
  obtain ⟨-, -, -, hnested⟩ := hrelations last all
  exact ⟨all, last, hall, hlast, (haligned _ ((hobtained _).2 ⟨last, rfl⟩)).2, hwithin.1 hcontains,
    hnested.2 (.inr hcontains)⟩

/--
A subnet is carved out just when it is no larger than the network, has a length that addresses
have, ends inside and starts at a multiple of its size. It starts at the offset then. Anything else
is out of range, a start that wraps among it, and no step in words leaves the range of its word.
-/
theorem carves_exactly (parent : Cidr) (offset : UInt64) (length : UInt8) :
    ((∃ block, parent.subnet offset length = .ok block) ↔ parent.Allots offset length) ∧
    (∀ block, parent.subnet offset length = .ok block ↔ parent.Allots offset length ∧
      block.base = parent.base + offset.toNat ∧ block.length = length.toNat) ∧
    (parent.subnet offset length = .error (.subnetOutOfRange parent offset length) ↔
      ¬parent.Allots offset length) ∧
    parent.words.subnet? offset length =
      some ((parent.subnet offset length).toOption.map words) := by
  refine ⟨exists_subnet_iff, fun block => subnet_eq_ok_iff.trans subnet?_eq_some_iff,
    subnet_eq_error_iff.trans (not_congr exists_subnet_iff), ?_⟩
  rw [subnet?_words, subnet]
  cases parent.subnet? offset length <;> rfl

-- the start wraps round to 10.249.0.0
example : (ofAddress (ofOctets 10 250 0 0) 16 (by decide)).subnet? (0 - 65536) 16 = none := by decide

end Cidr

end ShootPlan
