import ShootPlan.Proofs.BlockRelations
import ShootPlan.Proofs.Outcomes
/-!
Which subnets can be carved out. The start is counted in 64 bits and may wrap, yet a wrapped start
lies before the network and is refused with all that leave it. What remains is the plain condition
on lengths, offset and alignment, in natural numbers.
-/
namespace ShootPlan.Cidr

/-- A subnet of that length starts so many addresses after the base, inside and aligned. -/
structure Allots (parent : Cidr) (offset : UInt64) (length : UInt8) : Prop where
  length_ge : parent.length ≤ length.toNat
  length_le : length.toNat ≤ 32
  fits : offset.toNat + 2 ^ (32 - length.toNat) ≤ parent.size
  aligned : 2 ^ (32 - length.toNat) ∣ parent.base + offset.toNat

section

variable {parent block : Cidr} {offset start : UInt64} {length : UInt8}

theorem toNat_start (parent : Cidr) (offset : UInt64) :
    (UInt64.ofNat parent.base + offset).toNat = (parent.base + offset.toNat) % 2 ^ 64 := by
  have hbase : parent.base < 2 ^ 64 := parent.base_lt.trans (by decide)
  rw [UInt64.toNat_add, UInt64.toNat_ofNat_of_lt' hbase]

/-- A start that does not lie before the base has not wrapped. -/
theorem start_of_le (hstart : UInt64.ofNat parent.base + offset = start)
    (hle : parent.base ≤ start.toNat) : start.toNat = parent.base + offset.toNat := by
  have hoffset := offset.toNat_lt
  have hcount := toNat_start parent offset
  rw [hstart] at hcount
  omega

theorem subnet?_of_start (hstart : UInt64.ofNat parent.base + offset = start) (length : UInt8) :
    parent.subnet? offset length =
      if h : length.toNat ≤ 32 ∧ start.toNat < blockSize 0 ∧ blockSize length.toNat ∣ start.toNat then
        if parent.contains ⟨start.toNat, length.toNat, h.1, h.2.1, h.2.2⟩ then
          some ⟨start.toNat, length.toNat, h.1, h.2.1, h.2.2⟩
        else none
      else none := by
  subst hstart
  rfl

theorem contains_of_subnet? (h : parent.subnet? offset length = some block) : parent.contains block := by
  rw [subnet?_of_start rfl] at h
  split_ifs at h with hblock hcontains
  obtain rfl := Option.some.inj h
  exact hcontains

theorem allots_of_subnet? (h : parent.subnet? offset length = some block) :
    parent.Allots offset length ∧ block.base = parent.base + offset.toNat ∧
      block.length = length.toNat := by
  obtain ⟨hge, hbase, hfinish⟩ := contains_iff_bounds.1 (contains_of_subnet? h)
  obtain ⟨start, hstart⟩ : ∃ start, UInt64.ofNat parent.base + offset = start := ⟨_, rfl⟩
  rw [subnet?_of_start hstart] at h
  split_ifs at h with hblock hcontains
  obtain rfl := Option.some.inj h
  have hexact := start_of_le hstart hbase
  have haligned := hblock.2.2
  have hend : start.toNat + blockSize length.toNat ≤ parent.base + parent.size := hfinish
  rw [hexact] at haligned hend
  have hfits : offset.toNat + blockSize length.toNat ≤ parent.size := by omega
  exact ⟨⟨hge, hblock.1, hfits, haligned⟩, hexact, rfl⟩

theorem Allots.exists_subnet? (h : parent.Allots offset length) :
    ∃ block, parent.subnet? offset length = some block := by
  have hend : parent.base + parent.size ≤ 2 ^ 32 := parent.finish_le
  have hpos : 0 < 2 ^ (32 - length.toNat) := Nat.pow_pos (by decide)
  have hfits := h.fits
  obtain ⟨start, hstart⟩ : ∃ start, UInt64.ofNat parent.base + offset = start := ⟨_, rfl⟩
  have hcount := toNat_start parent offset
  rw [hstart, Nat.mod_eq_of_lt (by omega)] at hcount
  have hblock : length.toNat ≤ 32 ∧ start.toNat < blockSize 0 ∧ blockSize length.toNat ∣ start.toNat := by
    rw [hcount]
    refine ⟨h.length_le, ?_, h.aligned⟩
    change _ < 2 ^ 32
    omega
  rw [subnet?_of_start hstart, dif_pos hblock, if_pos]
  · exact ⟨_, rfl⟩
  · have hstays : start.toNat + blockSize length.toNat ≤ parent.base + parent.size := by
      rw [hcount, Nat.add_assoc]
      exact Nat.add_le_add_left hfits _
    have hbase : parent.base ≤ start.toNat := by omega
    exact contains_iff_bounds.2 ⟨h.length_ge, hbase, hstays⟩

theorem subnet?_eq_some_iff : parent.subnet? offset length = some block ↔
    parent.Allots offset length ∧ block.base = parent.base + offset.toNat ∧
      block.length = length.toNat := by
  constructor
  · exact allots_of_subnet?
  · rintro ⟨hallots, hbase, hlength⟩
    obtain ⟨found, hfound⟩ := hallots.exists_subnet?
    obtain ⟨-, hfoundBase, hfoundLength⟩ := allots_of_subnet? hfound
    rw [hfound, ext_of_eq (hfoundBase.trans hbase.symm) (hfoundLength.trans hlength.symm)]

theorem subnet_eq_ok_iff : parent.subnet offset length = .ok block ↔
    parent.subnet? offset length = some block := by
  rw [subnet]
  cases parent.subnet? offset length <;> simp

theorem subnet_eq_error_iff : parent.subnet offset length = .error (.subnetOutOfRange parent offset length) ↔
    ¬∃ block, parent.subnet offset length = .ok block := by
  rw [subnet]
  cases parent.subnet? offset length <;> simp

theorem exists_subnet_iff : (∃ block, parent.subnet offset length = .ok block) ↔
    parent.Allots offset length := by
  simp only [subnet_eq_ok_iff]
  constructor
  · rintro ⟨block, hblock⟩
    exact (allots_of_subnet? hblock).1
  · exact Allots.exists_subnet?

end

variable {parent block : Cidr} {offset bits : Nat}

theorem toNat_length (h : parent.length + bits ≤ 32) :
    (UInt8.ofNat (parent.length + bits)).toNat = parent.length + bits := by
  rw [UInt8.toNat_ofNat']
  omega

/-- Offsets below the address space's size are counted as they are. -/
theorem toNat_offset (h : offset < blockSize 0) : (UInt64.ofNat offset).toNat = offset :=
  UInt64.toNat_ofNat_of_lt' (h.trans (by decide))

/-- A block that was carved out starts at the offset and has so many more bits of prefix. -/
theorem carve_eq_ok (hoffset : offset < blockSize 0) (hbits : parent.length + bits ≤ 32)
    (h : parent.carve offset bits = .ok block) :
    block.base = parent.base + offset ∧ block.length = parent.length + bits := by
  obtain ⟨-, hbase, hlength⟩ := subnet?_eq_some_iff.1 (subnet_eq_ok_iff.1 h)
  rw [toNat_offset hoffset] at hbase
  exact ⟨hbase, hlength.trans (toNat_length hbits)⟩

/-- A block can be carved out where it is aligned and leaves the network nowhere. -/
theorem exists_carve (hlength : parent.length + bits ≤ 32)
    (haligned : blockSize (parent.length + bits) ∣ offset)
    (hfit : offset + blockSize (parent.length + bits) ≤ parent.size) :
    ∃ block, parent.carve offset bits = .ok block := by
  have hend : parent.base + parent.size ≤ blockSize 0 := parent.finish_le
  have hpos : 0 < blockSize (parent.length + bits) := Nat.pow_pos (by decide)
  have hoffset := toNat_offset (show offset < blockSize 0 by omega)
  have hbits := toNat_length hlength
  have hparent : blockSize (parent.length + bits) ∣ parent.base := by
    refine Dvd.dvd.trans ?_ parent.aligned
    rw [blockSize_eq hlength]
    exact Dvd.intro_left _ rfl
  refine exists_subnet_iff.2 ⟨?_, ?_, ?_, ?_⟩
  · rw [hbits]
    exact Nat.le_add_right _ _
  · rw [hbits]
    exact hlength
  · rw [hoffset, hbits]
    exact hfit
  · rw [hoffset, hbits]
    exact Nat.dvd_add hparent haligned

theorem within_of_carve (h : parent.carve offset bits = .ok block) : block.Within parent :=
  within_of_contains (contains_of_subnet? (subnet_eq_ok_iff.1 h))

end ShootPlan.Cidr
