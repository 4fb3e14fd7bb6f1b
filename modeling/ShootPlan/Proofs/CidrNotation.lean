import ShootPlan.Proofs.Blanks
import ShootPlan.Proofs.Numerals
import ShootPlan.Proofs.Outcomes
import ShootPlan.ZoneRules
/-!
The notation of a block reads as the block, so the texts of subnets can stand for them.
-/
namespace ShootPlan.Cidr

theorem octet?_chars : ∀ n : Fin 256, octet? (Numeral.chars n) = some n := by
  decide +kernel

theorem splitOn_addressChars (address : Nat) :
    (addressChars address).splitOn '.' = (octets address).map Numeral.chars := by
  refine List.splitOn_intercalate '.' ?_ (by simp [octets])
  rintro _ hchars hdot
  obtain ⟨n, -, rfl⟩ := List.mem_map.1 hchars
  exact absurd (Numeral.isDigit_of_mem_chars hdot) (by decide)

theorem address?_addressChars (address : Fin (blockSize 0)) :
    address? (addressChars address) = some address := by
  have hread : ∀ n, octet? (Numeral.chars (n % 256)) = some ⟨n % 256, Nat.mod_lt _ (by decide)⟩ :=
    fun n => octet?_chars ⟨n % 256, Nat.mod_lt _ (by decide)⟩
  have hlt : address.val < 4294967296 := address.isLt
  rw [address?, splitOn_addressChars]
  simp only [octets, List.map_cons, List.map_nil, hread, bind, Option.bind, pure, Option.some.injEq]
  apply Fin.ext
  simp only [ofOctets]
  omega

theorem length?_chars {n : Nat} (h : n ≤ 255) : length? (Numeral.chars n) = some n := by
  rw [length?, Numeral.unsigned?_chars]
  simp [h]

theorem mem_addressChars {address : Nat} {c : Char} (h : c ∈ addressChars address) :
    c.isDigit ∨ c = '.' := by
  simp only [addressChars, List.intercalate, octets, List.map_cons, List.map_nil,
    List.intersperse_cons_cons, List.intersperse_singleton, List.mem_flatten] at h
  obtain ⟨part, hpart, hc⟩ := h
  simp only [List.mem_cons, List.not_mem_nil, or_false] at hpart
  rcases hpart with rfl | rfl | rfl | rfl | rfl | rfl | rfl
  all_goals first
    | exact .inr (List.mem_singleton.1 hc)
    | exact .inl (Numeral.isDigit_of_mem_chars hc)

theorem ne_slash_of_mem_addressChars {address : Nat} {c : Char} (h : c ∈ addressChars address) :
    c ≠ '/' := by
  rintro rfl
  rcases mem_addressChars h with h | h
  · exact absurd h (by decide)
  · exact absurd h (by decide)

theorem isBlank_of_mem_chars {block : Cidr} {c : Char} (h : c ∈ block.chars) :
    Blank.isBlank c = false := by
  rw [chars, List.mem_append, List.mem_cons] at h
  rcases h with h | rfl | h
  · rcases mem_addressChars h with h | rfl
    · exact Blank.isBlank_of_isDigit h
    · decide
  · decide
  · exact Blank.isBlank_of_isDigit (Numeral.isDigit_of_mem_chars h)

theorem ext_of_eq {a b : Cidr} (hbase : a.base = b.base) (hlength : a.length = b.length) : a = b := by
  cases a
  cases b
  congr

theorem ofAddress_base (block : Cidr) :
    ofAddress ⟨block.base, block.base_lt⟩ block.length block.length_le = block :=
  ext_of_eq (Nat.div_mul_cancel block.aligned) rfl

theorem ofText_text (block : Cidr) : ofText block.text = .ok block := by
  have htrim : Blank.trim block.chars = block.chars :=
    Blank.trim_of_forall fun c hc => isBlank_of_mem_chars hc
  have haddress : ∀ c ∈ addressChars block.base, decide (c ≠ '/') = true :=
    fun c hc => decide_eq_true (ne_slash_of_mem_addressChars hc)
  have hdrop : block.chars.dropWhile (· ≠ '/') = '/' :: Numeral.chars block.length := by
    rw [chars, List.dropWhile_append_of_pos haddress]
    rfl
  have htake : block.chars.takeWhile (· ≠ '/') = addressChars block.base := by
    rw [chars, List.takeWhile_append_of_pos haddress]
    simp
  have hlength : length? (Numeral.chars block.length) = some block.length :=
    length?_chars (block.length_le.trans (by decide))
  rw [ofText, text, String.toList_ofList, ofChars]
  simp only [htrim, hdrop, htake, address?_addressChars ⟨block.base, block.base_lt⟩, hlength]
  rw [dif_pos block.length_le, ofAddress_base]
  rfl

theorem parse_text (block : Cidr) : parse block.text = .ok block := by
  rw [parse, ofText_text]
  rfl

theorem text_injective : Function.Injective Cidr.text := by
  intro a b h
  have hread := parse_text a
  rw [h, parse_text b] at hread
  exact (Except.ok.inj hread).symm

end ShootPlan.Cidr
