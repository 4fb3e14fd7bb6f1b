import ShootPlan.Proofs.CidrNotation
/-!
Which texts are blocks. The grammar of the notation is given on its own: blanks around an
address of four octets, a slash and a length. Reading accepts just the texts of the grammar and
clears the bits of the address that the length leaves to the hosts.
-/
namespace ShootPlan.Cidr

/-- An octet goes up to 255 and has no zeros in front. -/
structure IsOctet (cs : List Char) (n : Nat) : Prop where
  digits : Numeral.Writes cs n
  le : n ≤ 255
  head : cs.head? = some '0' → cs = ['0']

/-- Four octets with dots between, the first one weighing most. -/
def IsAddress (cs : List Char) (address : Nat) : Prop :=
  ∃ as bs ds es a b d e, cs = as ++ '.' :: bs ++ '.' :: ds ++ '.' :: es ∧
    IsOctet as a ∧ IsOctet bs b ∧ IsOctet ds d ∧ IsOctet es e ∧
    address = a * 2 ^ 24 + b * 2 ^ 16 + d * 2 ^ 8 + e

/-- A length goes up to 32. It may have zeros and, before these, a plus sign in front. -/
def IsLength (cs : List Char) (length : Nat) : Prop :=
  (∃ digits, (cs = digits ∨ cs = '+' :: digits) ∧ Numeral.Writes digits length) ∧ length ≤ 32

/-- The text is the notation of that address and length, with blanks around it at most. -/
def Denotes (text : String) (address length : Nat) : Prop :=
  ∃ before addressText lengthText after,
    text.toList = before ++ (addressText ++ '/' :: lengthText) ++ after ∧
    (∀ c ∈ before, Blank.isBlank c) ∧ (∀ c ∈ after, Blank.isBlank c) ∧
    IsAddress addressText address ∧ IsLength lengthText length

theorem IsOctet.length_le {cs : List Char} {n : Nat} (h : IsOctet cs n) : cs.length ≤ 3 := by
  obtain ⟨c, cs, rfl⟩ := List.exists_cons_of_ne_nil h.digits.ne_nil
  by_cases hc : c = '0'
  · have hsingle := h.head (by simp [hc])
    rw [hsingle]
    decide
  · have hle := h.le
    have hpow := h.digits.pow_le hc
    have hlt : 10 ^ cs.length < 10 ^ 3 := by omega
    have hlength := (Nat.pow_lt_pow_iff_right (by decide)).1 hlt
    rw [List.length_cons]
    omega

/-- No more than three characters, and no zero before others. -/
theorem octet?_eq_some_iff {cs : List Char} {n : Fin 256} : octet? cs = some n ↔ IsOctet cs n := by
  have hopen : octet? cs =
      if cs.length > 3 ∨ (cs.length > 1 ∧ cs.head? = some '0') then none
      else (Numeral.natural? cs).bind fun n => if h : n < 256 then some ⟨n, h⟩ else none := by
    unfold octet?
    split_ifs <;> rfl
  rw [hopen]
  split_ifs with hshape
  · simp only [false_iff]
    intro hoctet
    have hlength := hoctet.length_le
    rcases hshape with hlong | ⟨hmany, hzero⟩
    · omega
    · rw [hoctet.head hzero] at hmany
      exact absurd hmany (by decide)
  · obtain ⟨hlength, hhead⟩ := not_or.1 hshape
    rw [Option.bind_eq_some_iff]
    constructor
    · rintro ⟨value, hvalue, hn⟩
      split_ifs at hn with hlt
      obtain rfl := Option.some.inj hn
      refine ⟨Numeral.natural?_eq_some_iff.1 hvalue, Nat.le_of_lt_succ hlt, fun hzero => ?_⟩
      have hone : cs.length ≤ 1 := by
        by_contra hmany
        exact hhead ⟨by omega, hzero⟩
      obtain ⟨rest, rfl⟩ := List.head?_eq_some_iff.1 hzero
      rw [List.length_cons] at hone
      rw [List.eq_nil_of_length_eq_zero (by omega : rest.length = 0)]
    · intro hoctet
      exact ⟨n, Numeral.natural?_eq_some_iff.2 hoctet.digits, dif_pos n.isLt⟩

theorem length?_eq_some_iff {cs : List Char} {n : Nat} (hn : n ≤ 32) :
    length? cs = some n ↔ IsLength cs n := by
  have hsigned : Numeral.unsigned? cs = some n ↔
      ∃ digits, (cs = digits ∨ cs = '+' :: digits) ∧ Numeral.Writes digits n := by
    unfold Numeral.unsigned?
    split
    · rename_i digits
      rw [Numeral.natural?_eq_some_iff]
      constructor
      · exact fun hwrites => ⟨digits, .inr rfl, hwrites⟩
      · rintro ⟨other, rfl | hcons, hwrites⟩
        · -- a plus sign is no digit
          exact absurd (hwrites.isDigit '+' List.mem_cons_self) (by decide)
        · obtain rfl := (List.cons.inj hcons).2
          exact hwrites
    · rename_i hplus
      rw [Numeral.natural?_eq_some_iff]
      constructor
      · exact fun hwrites => ⟨cs, .inl rfl, hwrites⟩
      · rintro ⟨digits, rfl | rfl, hwrites⟩
        · exact hwrites
        · exact absurd rfl (hplus digits)
  have hle : n ≤ 255 := hn.trans (by decide)
  rw [length?, Option.filter_eq_some_iff, hsigned]
  simp [IsLength, hn, hle]

theorem IsOctet.notMem {cs : List Char} {n : Nat} (h : IsOctet cs n) {c : Char}
    (hc : c.isDigit = false) : c ∉ cs := by
  intro hmem
  rw [h.digits.isDigit c hmem] at hc
  cases hc

theorem address?_eq_some_iff {cs : List Char} {address : Fin (blockSize 0)} :
    address? cs = some address ↔ IsAddress cs address := by
  constructor
  · intro h
    unfold address? at h
    split at h
    · rename_i as bs ds es hsplit
      simp only [Option.bind_eq_bind, Option.bind_eq_some_iff, octet?_eq_some_iff] at h
      obtain ⟨a, ha, b, hb, d, hd, e, he, haddress⟩ := h
      obtain rfl := Option.some.inj haddress
      refine ⟨as, bs, ds, es, a, b, d, e, ?_, ha, hb, hd, he, ?_⟩
      · have hjoin : ['.'].intercalate (cs.splitOn '.') = cs := List.intercalate_splitOn '.'
        rw [hsplit] at hjoin
        rw [← hjoin]
        simp [List.intercalate]
      · simp only [ofOctets]
        omega
    · cases h
  · rintro ⟨as, bs, ds, es, a, b, d, e, rfl, ha, hb, hd, he, haddress⟩
    have hsplit : (as ++ '.' :: bs ++ '.' :: ds ++ '.' :: es).splitOn '.' = [as, bs, ds, es] := by
      have hfree : ∀ cs ∈ [as, bs, ds, es], '.' ∉ cs := by
        simp only [List.forall_mem_cons, List.not_mem_nil, false_implies, implies_true, and_true]
        exact ⟨ha.notMem (by decide), hb.notMem (by decide), hd.notMem (by decide),
          he.notMem (by decide)⟩
      rw [← List.splitOn_intercalate '.' hfree (by simp)]
      simp [List.intercalate]
    have hread : ∀ {cs : List Char} {n : Nat} (h : IsOctet cs n),
        octet? cs = some ⟨n, Nat.lt_succ_of_le h.le⟩ := fun h => octet?_eq_some_iff.2 h
    rw [address?, hsplit]
    simp only [hread ha, hread hb, hread hd, hread he, bind, Option.bind, pure, Option.some.injEq]
    apply Fin.ext
    simp only [ofOctets, haddress]
    omega

/-- The address reaches up to the first slash. -/
theorem ofChars_eq {cs addressText lengthText : List Char} {address : Fin (blockSize 0)}
    {length : Nat} (htrim : Blank.trim cs = addressText ++ '/' :: lengthText)
    (hslash : '/' ∉ addressText) (haddress : address? addressText = some address)
    (hlength : length? lengthText = some length) (hle : length ≤ 32) :
    ofChars cs = .ok (ofAddress address length hle) := by
  have hfree : ∀ c ∈ addressText, decide (c ≠ '/') = true := fun c hc =>
    decide_eq_true fun heq => hslash (heq ▸ hc)
  have hdrop : (Blank.trim cs).dropWhile (· ≠ '/') = '/' :: lengthText := by
    rw [htrim, List.dropWhile_append_of_pos hfree]
    rfl
  have htake : (Blank.trim cs).takeWhile (· ≠ '/') = addressText := by
    rw [htrim, List.takeWhile_append_of_pos hfree]
    simp
  rw [ofChars]
  simp only [hdrop, htake, haddress, hlength]
  exact dif_pos hle

theorem of_ofChars {cs : List Char} {block : Cidr} (h : ofChars cs = .ok block) :
    ∃ addressText lengthText address length hle,
      Blank.trim cs = addressText ++ '/' :: lengthText ∧ address? addressText = some address ∧
      length? lengthText = some length ∧ block = ofAddress address length hle := by
  unfold ofChars at h
  simp only at h
  split at h
  · rename_i lengthText hdrop
    split at h
    · rename_i address haddress
      split at h
      · rename_i length hlength
        split_ifs at h with hle
        refine ⟨_, lengthText, address, length, hle, ?_, haddress, hlength, (Except.ok.inj h).symm⟩
        rw [← hdrop, List.takeWhile_append_dropWhile]
      · cases h
    · cases h
  · cases h

/-- Nothing in an address or a length is blank. -/
theorem not_blank_of_denoted {addressText lengthText : List Char} {address length : Nat}
    (haddress : IsAddress addressText address) (hlength : IsLength lengthText length) :
    ∀ c ∈ addressText ++ '/' :: lengthText, Blank.isBlank c = false := by
  obtain ⟨as, bs, ds, es, a, b, d, e, rfl, ha, hb, hd, he, -⟩ := haddress
  obtain ⟨⟨digits, hsign, hwrites⟩, -⟩ := hlength
  have hoctet : ∀ {cs : List Char} {n : Nat}, IsOctet cs n → ∀ c ∈ cs, Blank.isBlank c = false :=
    fun h c hc => Blank.isBlank_of_isDigit (h.digits.isDigit c hc)
  have hlengthText : ∀ c ∈ lengthText, Blank.isBlank c = false := by
    intro c hc
    rcases hsign with rfl | rfl
    · exact Blank.isBlank_of_isDigit (hwrites.isDigit c hc)
    · rcases List.mem_cons.1 hc with rfl | hc
      · decide
      · exact Blank.isBlank_of_isDigit (hwrites.isDigit c hc)
  simp only [List.forall_mem_append, List.forall_mem_cons]
  exact ⟨⟨⟨⟨hoctet ha, by decide, hoctet hb⟩, by decide, hoctet hd⟩, by decide, hoctet he⟩, by decide,
    hlengthText⟩

theorem slash_notMem_of_isAddress {cs : List Char} {address : Nat} (h : IsAddress cs address) :
    '/' ∉ cs := by
  obtain ⟨as, bs, ds, es, a, b, d, e, rfl, ha, hb, hd, he, -⟩ := h
  have hdigit : ('/').isDigit = false := by decide
  simp [ha.notMem hdigit, hb.notMem hdigit, hd.notMem hdigit, he.notMem hdigit]

theorem IsAddress.lt {cs : List Char} {address : Nat} (h : IsAddress cs address) :
    address < blockSize 0 := by
  obtain ⟨as, bs, ds, es, a, b, d, e, -, ha, hb, hd, he, rfl⟩ := h
  have hle := And.intro ha.le (And.intro hb.le (And.intro hd.le he.le))
  change _ < 4294967296
  omega

/-- Reading gives the block of the address and length that a text denotes. -/
theorem ofText_eq_ok_iff {text : String} {block : Cidr} :
    ofText text = .ok block ↔ ∃ address length hle, Denotes text address.val length ∧
      block = ofAddress address length hle := by
  constructor
  · intro h
    obtain ⟨addressText, lengthText, address, length, hle, htrim, haddress, hlength, rfl⟩ := of_ofChars h
    obtain ⟨before, after, htext, hbefore, hafter⟩ := Blank.exists_eq_trim text.toList
    rw [htrim] at htext
    exact ⟨address, length, hle, ⟨before, addressText, lengthText, after, htext, hbefore, hafter,
      address?_eq_some_iff.1 haddress, (length?_eq_some_iff hle).1 hlength⟩, rfl⟩
  · rintro ⟨address, length, hle, hdenotes, rfl⟩
    obtain ⟨before, addressText, lengthText, after, htext, hbefore, hafter, haddress, hlength⟩ := hdenotes
    have htrim : Blank.trim text.toList = addressText ++ '/' :: lengthText := by
      rw [htext]
      exact Blank.trim_append hbefore hafter (by simp) (not_blank_of_denoted haddress hlength)
    exact ofChars_eq htrim (slash_notMem_of_isAddress haddress) (address?_eq_some_iff.2 haddress)
      ((length?_eq_some_iff hle).2 hlength) hle

/-- Clearing host bits leaves all higher bits as they were. -/
theorem testBit_ofAddress (address : Fin (blockSize 0)) {length : Nat} (hle : length ≤ 32) (i : Nat) :
    (ofAddress address length hle).base.testBit i = (decide (32 - length ≤ i) && address.val.testBit i) := by
  change (address.val / 2 ^ (32 - length) * 2 ^ (32 - length)).testBit i = _
  rw [Nat.testBit_mul_two_pow]
  by_cases hi : 32 - length ≤ i
  · have hshift : i - (32 - length) + (32 - length) = i := Nat.sub_add_cancel hi
    simp [hi, Nat.testBit_div_two_pow, hshift]
  · simp [hi]

/-- The block is that address with the bits that the length leaves over cleared. -/
structure Masks (block : Cidr) (address length : Nat) : Prop where
  length_eq : block.length = length
  testBit_base : ∀ i, block.base.testBit i = (decide (32 - length ≤ i) && address.testBit i)

theorem masks_iff {block : Cidr} {address : Fin (blockSize 0)} {length : Nat} (hle : length ≤ 32) :
    block.Masks address length ↔ block = ofAddress address length hle := by
  constructor
  · rintro ⟨hlength, hbase⟩
    refine ext_of_eq (Nat.eq_of_testBit_eq fun i => ?_) hlength
    rw [hbase, testBit_ofAddress]
  · rintro rfl
    exact ⟨rfl, testBit_ofAddress address hle⟩

theorem Denotes.bounds {text : String} {address length : Nat} (h : Denotes text address length) :
    address < blockSize 0 ∧ length ≤ 32 := by
  obtain ⟨_, _, _, _, _, _, _, haddress, hlength⟩ := h
  exact ⟨haddress.lt, hlength.2⟩

theorem parse_eq_ok_iff {text : String} {block : Cidr} :
    parse text = .ok block ↔ ∃ address length, Denotes text address length ∧ block.Masks address length := by
  rw [parse, Outcome.mapError_eq_ok_iff, ofText_eq_ok_iff]
  constructor
  · rintro ⟨address, length, hle, hdenotes, hblock⟩
    exact ⟨address, length, hdenotes, (masks_iff hle).2 hblock⟩
  · rintro ⟨address, length, hdenotes, hmasks⟩
    obtain ⟨hlt, hle⟩ := hdenotes.bounds
    exact ⟨⟨address, hlt⟩, length, hle, hdenotes, (masks_iff hle).1 hmasks⟩

theorem exists_parse_iff {text : String} :
    (∃ block, parse text = .ok block) ↔ ∃ address length, Denotes text address length := by
  constructor
  · rintro ⟨block, hblock⟩
    obtain ⟨address, length, hdenotes, -⟩ := parse_eq_ok_iff.1 hblock
    exact ⟨address, length, hdenotes⟩
  · rintro ⟨address, length, hdenotes⟩
    obtain ⟨hlt, hle⟩ := hdenotes.bounds
    exact ⟨ofAddress ⟨address, hlt⟩ length hle,
      parse_eq_ok_iff.2 ⟨address, length, hdenotes, (masks_iff hle).2 rfl⟩⟩

/--
Reading accepts just the texts of the grammar and gives the address with its host bits cleared.
It undoes writing, so texts are read as the same block when the blocks are written the same.
-/
theorem reads_just_notation :
    (∀ text, (∃ block, parse text = .ok block) ↔ ∃ address length, Denotes text address length) ∧
    (∀ text block, parse text = .ok block ↔
      ∃ address length, Denotes text address length ∧ block.Masks address length) ∧
    (∀ block : Cidr, parse block.text = .ok block) ∧
    ∀ s t a b, parse s = .ok a → parse t = .ok b → (a = b ↔ a.text = b.text) := by
  refine ⟨fun _ => exists_parse_iff, fun _ _ => parse_eq_ok_iff, parse_text, ?_⟩
  intro s t a b _ _
  exact text_injective.eq_iff.symm

theorem reads_just_notation_sample :
    ∃ a b, parse "\u2003 10.250.3.7/+022\n" = .ok a ∧ parse "10.250.0.0/23" = .ok b ∧
      (∃ address length, Denotes "\u2003 10.250.3.7/+022\n" address length ∧ a.Masks address length) ∧
      parse a.text = .ok a ∧ a.text ≠ b.text := by
  obtain ⟨-, hreads, hwritten, htexts⟩ := reads_just_notation
  obtain ⟨a, b, ha, hb, hne⟩ : ∃ a b, parse "\u2003 10.250.3.7/+022\n" = .ok a ∧
      parse "10.250.0.0/23" = .ok b ∧ a ≠ b := ⟨_, _, rfl, rfl, by decide⟩
  exact ⟨a, b, ha, hb, (hreads _ a).1 ha, hwritten a, fun h => hne ((htexts _ _ a b ha hb).2 h)⟩

end ShootPlan.Cidr
