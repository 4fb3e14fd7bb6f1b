import ShootPlan.Proofs.VersionOrder
/-!
What versions are ranked by. A version shows one number in each of its parts, and versions with
different numbers are ranked by these, the first difference deciding. Since the order is total,
the greatest of several versions does not depend on the order in which they are met: it is the
last one of the sorted list.
-/
namespace ShootPlan.Version
open Std

/-- The part starts with digits of that value, and goes on without one. No digits mean zero. -/
def Leads (part : List Char) (n : Nat) : Prop :=
  ∃ digits rest, part = digits ++ rest ∧ (∀ c ∈ digits, c.isDigit) ∧ (∀ c ∈ rest.head?, ¬c.isDigit) ∧
    n = Nat.ofDigitChars 10 digits 0

/-- The `v`s set aside, the version is a row of parts with dots between, led by these numbers. -/
def Shows (version : String) (numbers : List Nat) : Prop :=
  ∃ count row texts, version.toList = List.replicate count 'v' ++ row ∧ row.head? ≠ some 'v' ∧
    row = ['.'].intercalate texts ∧ texts ≠ [] ∧ (∀ text ∈ texts, '.' ∉ text) ∧
    List.Forall₂ Leads texts numbers

/-- All numbers can be held in 64 bits. -/
def Fit (numbers : List Nat) : Prop := ∀ n ∈ numbers, n < 2 ^ 64

instance (numbers : List Nat) : Decidable (Fit numbers) :=
  inferInstanceAs (Decidable (∀ n ∈ numbers, n < 2 ^ 64))

theorem takeWhile_isDigit {digits rest : List Char} (hdigits : ∀ c ∈ digits, c.isDigit)
    (hrest : ∀ c ∈ rest.head?, ¬c.isDigit) :
    (digits ++ rest).takeWhile Char.isDigit = digits := by
  have hnone : rest.takeWhile Char.isDigit = [] := by
    cases rest with
    | nil => rfl
    | cons c rest => exact List.takeWhile_cons_of_neg (hrest c rfl)
  rw [List.takeWhile_append_of_pos hdigits, hnone, List.append_nil]

theorem head?_dropWhile_isDigit (text : List Char) :
    ∀ c ∈ (text.dropWhile Char.isDigit).head?, ¬c.isDigit := by
  intro c hc hdigit
  have hfirst := List.head?_dropWhile_not Char.isDigit text
  rw [Option.mem_def.1 hc] at hfirst
  simp [hdigit] at hfirst

/-- Each part is led by just one number. -/
theorem leads_iff {text : List Char} {n : Nat} :
    Leads text n ↔ n = Nat.ofDigitChars 10 (text.takeWhile Char.isDigit) 0 := by
  constructor
  · rintro ⟨digits, rest, rfl, hdigits, hrest, rfl⟩
    rw [takeWhile_isDigit hdigits hrest]
  · rintro rfl
    have hsplit : text = text.takeWhile Char.isDigit ++ text.dropWhile Char.isDigit :=
      List.takeWhile_append_dropWhile.symm
    have hdigits : ∀ c ∈ text.takeWhile Char.isDigit, c.isDigit :=
      List.all_eq_true.1 List.all_takeWhile
    exact ⟨_, _, hsplit, hdigits, head?_dropWhile_isDigit text, rfl⟩

instance (text : List Char) (n : Nat) : Decidable (Leads text n) := decidable_of_iff _ leads_iff.symm

theorem part_of_leads {text : List Char} {n : Nat} (h : Leads text n) (hfit : n < 2 ^ 64) :
    part text = n := by
  have hvalue := leads_iff.1 h
  simp only [part, ← hvalue]
  exact if_pos hfit

theorem map_part {texts : List (List Char)} {numbers : List Nat}
    (h : List.Forall₂ Leads texts numbers) (hfit : Fit numbers) : texts.map part = numbers := by
  induction h with
  | nil => rfl
  | cons hlead _ ih =>
    obtain ⟨hfirst, hrest⟩ := List.forall_mem_cons.1 hfit
    rw [List.map_cons, part_of_leads hlead hfirst, ih hrest]

theorem parts_of_shows {version : String} {numbers : List Nat} (h : Shows version numbers)
    (hfit : Fit numbers) : parts version = numbers := by
  obtain ⟨count, row, texts, hversion, hrow, hdots, hne, hfree, hleads⟩ := h
  have hvs : ∀ c ∈ List.replicate count 'v', decide (c = 'v') = true := fun c hc =>
    decide_eq_true (List.eq_of_mem_replicate hc)
  have hdrop : row.dropWhile (· = 'v') = row := by
    cases row with
    | nil => rfl
    | cons c row => exact List.dropWhile_cons_of_neg (by simpa using hrow)
  have hsplit : row.splitOn '.' = texts := hdots ▸ List.splitOn_intercalate '.' hfree hne
  rw [parts, hversion, List.dropWhile_append_of_pos hvs, hdrop, hsplit, map_part hleads hfit]

/-- Where the numbers differ, they decide. -/
theorem order_of_parts_ne {a b : String} {n : Nat} (ha : (parts a).length ≤ n)
    (hb : (parts b).length ≤ n) (hne : (parts a).rightpad n 0 ≠ (parts b).rightpad n 0) :
    order a b = List.compareLex compare ((parts a).rightpad n 0) ((parts b).rightpad n 0) := by
  rw [order, compareParts_eq_compareLex ha hb]
  have hdiffer : List.compareLex compare ((parts a).rightpad n 0) ((parts b).rightpad n 0) ≠ .eq :=
    fun h => hne (LawfulEqCmp.eq_of_compare h)
  cases h : List.compareLex compare ((parts a).rightpad n 0) ((parts b).rightpad n 0) with
  | lt => rfl
  | eq => exact absurd h hdiffer
  | gt => rfl

section Greatest

variable {first greatest : String} {versions rest : List String}

/-- Taking the greater of two again and again keeps one of the versions. -/
theorem foldl_max_mem (first : String) (rest : List String) : rest.foldl max first ∈ first :: rest := by
  induction rest generalizing first with
  | nil => exact List.mem_singleton.2 rfl
  | cons next rest ih =>
    have hmem := ih (max first next)
    rw [List.foldl_cons]
    rcases List.mem_cons.1 hmem with heq | hrest
    · rw [heq]
      rcases max_eq_or first next with hmax | hmax
      · simp [hmax]
      · simp [hmax]
    · exact List.mem_cons_of_mem _ (List.mem_cons_of_mem _ hrest)

theorem isLE_foldl_max_first (first : String) (rest : List String) :
    (order first (rest.foldl max first)).isLE := by
  induction rest generalizing first with
  | nil => exact ReflCmp.isLE_rfl
  | cons next rest ih => exact TransCmp.isLE_trans (isLE_max_left first next) (ih (max first next))

theorem isLE_foldl_max {version : String} (h : version ∈ first :: rest) :
    (order version (rest.foldl max first)).isLE := by
  induction rest generalizing first with
  | nil =>
    obtain rfl := List.mem_singleton.1 h
    exact ReflCmp.isLE_rfl
  | cons next rest ih =>
    rw [List.foldl_cons]
    rcases List.mem_cons.1 h with rfl | h
    · exact isLE_foldl_max_first version (next :: rest)
    · rcases List.mem_cons.1 h with rfl | h
      · exact TransCmp.isLE_trans (isLE_max_right first version)
          (isLE_foldl_max_first (max first version) rest)
      · exact ih (List.mem_cons_of_mem _ h)

/-- The last version in increasing order is the one that none exceeds. -/
theorem getLast?_of_greatest (hsorted : versions.Pairwise fun a b => (order a b).isLE)
    (hmem : greatest ∈ versions) (hall : ∀ version ∈ versions, (order version greatest).isLE) :
    versions.getLast? = some greatest := by
  induction versions with
  | nil => cases hmem
  | cons version versions ih =>
    obtain ⟨hfirst, hrest⟩ := List.pairwise_cons.1 hsorted
    have hall' := (List.forall_mem_cons.1 hall).2
    cases versions with
    | nil => rw [List.mem_singleton.1 hmem, List.getLast?_singleton]
    | cons next versions =>
      rw [List.getLast?_cons_cons]
      rcases List.mem_cons.1 hmem with rfl | hmem
      · -- the first version is the greatest only if it equals all that follow
        have hnext : greatest = next := LawfulEqCmp.eq_of_compare
          (OrientedCmp.isLE_antisymm (hfirst next List.mem_cons_self)
            (hall' next List.mem_cons_self))
        exact ih hrest (hnext ▸ List.mem_cons_self) hall'
      · exact ih hrest hmem hall'

theorem pairwise_sort (versions : List String) :
    (sort versions).Pairwise fun a b => (order a b).isLE := by
  have htrans : ∀ a b c : String, decide (order a b ≠ .gt) → decide (order b c ≠ .gt) →
      decide (order a c ≠ .gt) := by
    intro a b c hab hbc
    simp only [decide_eq_true_eq, ne_eq, ← Ordering.isLE_iff_ne_gt] at hab hbc ⊢
    exact TransCmp.isLE_trans hab hbc
  have htotal : ∀ a b : String, decide (order a b ≠ .gt) || decide (order b a ≠ .gt) := by
    intro a b
    simp only [Bool.or_eq_true, decide_eq_true_eq, ne_eq, ← Ordering.isLE_iff_ne_gt]
    by_contra hnone
    obtain ⟨hab, hba⟩ := not_or.1 hnone
    exact hba (Ordering.isLE_of_eq_lt (OrientedCmp.lt_of_not_isLE hab))
  refine (List.pairwise_mergeSort htrans htotal versions).imp fun {a b} h => ?_
  exact Ordering.isLE_iff_ne_gt.2 (of_decide_eq_true h)

/-- The greatest version, found from the left, is the last one of any sorted arrangement. -/
theorem getLast?_eq_foldl_max {sorted : List String} (hperm : sorted.Perm (first :: rest))
    (hsorted : sorted.Pairwise fun a b => (order a b).isLE) :
    sorted.getLast? = some (rest.foldl max first) :=
  getLast?_of_greatest hsorted (hperm.mem_iff.2 (foldl_max_mem first rest)) fun _ hversion =>
    isLE_foldl_max (hperm.mem_iff.1 hversion)

end Greatest

/--
The order of versions is total: only equal texts tie, turning the texts round turns the result
round, and it is transitive. Numbers that fit into 64 bits decide where they differ, the shorter
row filled up with zeros. The greatest of some versions is the last one of the sorted list, in
whatever order they come.
-/
theorem totally_ordered :
    (∀ a b, order a b = .eq ↔ a = b) ∧
    (∀ a b, order b a = (order a b).swap) ∧
    (∀ a b c, (order a b).isLE → (order b c).isLE → (order a c).isLE) ∧
    (∀ a b as bs n, Shows a as → Shows b bs → Fit as → Fit bs → as.length ≤ n → bs.length ≤ n →
      as.rightpad n 0 ≠ bs.rightpad n 0 →
      order a b = List.compareLex compare (as.rightpad n 0) (bs.rightpad n 0)) ∧
    (∀ versions, (sort versions).Perm versions ∧
      (sort versions).Pairwise fun a b => (order a b).isLE) ∧
    ∀ first rest versions, (first :: rest).Perm versions →
      (sort versions).getLast? = some (rest.foldl max first) := by
  have hsorts : ∀ versions, (sort versions).Perm versions := fun versions =>
    List.mergeSort_perm versions _
  refine ⟨fun a b => LawfulEqCmp.compare_eq_iff_eq, fun a b => OrientedCmp.eq_swap,
    fun a b c => TransCmp.isLE_trans, ?_, fun versions => ⟨hsorts versions, pairwise_sort versions⟩, ?_⟩
  · intro a b as bs n ha hb hfitA hfitB hlengthA hlengthB hne
    obtain rfl := parts_of_shows ha hfitA
    obtain rfl := parts_of_shows hb hfitB
    exact order_of_parts_ne hlengthA hlengthB hne
  · intro first rest versions hperm
    exact getLast?_eq_foldl_max ((hsorts versions).trans hperm.symm) (pairwise_sort versions)

/-! Versions of different length, one with a `v` and a suffix. -/

theorem shows_suffixed : Shows "v1.10-rc1" [1, 10] := by
  refine ⟨1, "1.10-rc1".toList, ["1".toList, "10-rc1".toList], by decide, by decide, by decide,
    by decide, by decide, ?_⟩
  exact .cons (by decide) (.cons (by decide) .nil)

theorem shows_plain : Shows "1.9.3" [1, 9, 3] := by
  refine ⟨0, "1.9.3".toList, ["1".toList, "9".toList, "3".toList], by decide, by decide, by decide,
    by decide, by decide, ?_⟩
  exact .cons (by decide) (.cons (by decide) (.cons (by decide) .nil))

theorem totally_ordered_sample :
    Shows "1.9.3" [1, 9, 3] ∧ Shows "v1.10-rc1" [1, 10] ∧ order "1.9.3" "v1.10-rc1" = .lt ∧
    (order "" "1.9.3").isLE ∧ (order "" "v1.10-rc1").isLE ∧
    (sort ["1.30", "v1.31", "1.30.0"]).getLast? = some (["1.30", "v1.31"].foldl max "1.30.0") := by
  obtain ⟨-, -, htrans, hnumbers, -, hgreatest⟩ := totally_ordered
  have hlt : order "1.9.3" "v1.10-rc1" = List.compareLex compare [1, 9, 3] [1, 10, 0] :=
    hnumbers _ _ _ _ 3 shows_plain shows_suffixed (by decide) (by decide) (by decide) (by decide)
      (by decide)
  have hlt : order "1.9.3" "v1.10-rc1" = .lt := hlt.trans (by decide)
  have hempty : (order "" "1.9.3").isLE := isLE_order_empty _
  exact ⟨shows_plain, shows_suffixed, hlt, hempty, htrans _ _ _ hempty (by rw [hlt]; rfl),
    hgreatest "1.30.0" ["1.30", "v1.31"] _ (by decide)⟩

end ShootPlan.Version
