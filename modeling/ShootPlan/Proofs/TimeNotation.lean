import ShootPlan.MaintenanceTime
import ShootPlan.Proofs.Blanks
import ShootPlan.Proofs.Numerals
import ShootPlan.Proofs.Outcomes
/-!
Times of day, as their notation has them and as they pass. In the notation hour, minute and
second have two digits each, and a sign and four digits follow. A text passes also if blanks take
the place of digits in its first six bytes. Among the texts without blanks just those in the
notation pass.
-/
namespace ShootPlan

namespace ClockText

variable {width low high n : Nat} {highs : List Nat} {cs rest : List Char}

/-- The text starts with this number, whose digits end at the width or where no digit follows. -/
structure Starts (width n : Nat) (digits rest : List Char) : Prop where
  writes : Numeral.Writes digits n
  length_le : digits.length ≤ width
  stops : digits.length < width → ∀ c ∈ rest.head?, c.isDigit = false

theorem takeWhile_take_append {p : Char → Bool} {run : List Char} (hrun : ∀ c ∈ run, p c)
    (hle : run.length ≤ width) (hstops : run.length < width → ∀ c ∈ rest.head?, p c = false) :
    ((run ++ rest).take width).takeWhile p = run := by
  rw [List.take_append, List.take_of_length_le hle, List.takeWhile_append_of_pos hrun]
  rcases Nat.lt_or_ge run.length width with hlt | hge
  · obtain ⟨more, hmore⟩ : ∃ more, width - run.length = more + 1 := ⟨width - run.length - 1, by omega⟩
    cases rest with
    | nil => simp
    | cons c rest => simp [hmore, hstops hlt c rfl]
  · simp [Nat.sub_eq_zero_of_le hge]

theorem exists_eq_takeWhile_take (p : Char → Bool) (width : Nat) (cs : List Char) :
    ∃ run rest, cs = run ++ rest ∧ (cs.take width).takeWhile p = run ∧ (∀ c ∈ run, p c) ∧
      run.length ≤ width ∧ (run.length < width → ∀ c ∈ rest.head?, p c = false) := by
  induction width generalizing cs with
  | zero => exact ⟨[], cs, rfl, rfl, by simp, by simp, by simp⟩
  | succ width ih =>
    cases cs with
    | nil => exact ⟨[], [], rfl, rfl, by simp, by simp, by simp⟩
    | cons c cs =>
      rw [List.take_succ_cons, List.takeWhile_cons]
      cases hc : p c with
      | false => exact ⟨[], c :: cs, rfl, rfl, by simp, by simp, by simp [hc]⟩
      | true =>
        obtain ⟨run, rest, rfl, hrun, hall, hle, hstops⟩ := ih cs
        exact ⟨c :: run, rest, rfl, by simp [hrun], List.forall_mem_cons.2 ⟨hc, hall⟩,
          by simpa using hle, by simpa using hstops⟩

theorem digits_eq_ok_iff : digits width cs = .ok (n, rest) ↔
    n < 2 ^ 63 ∧ ∃ run, cs = run ++ rest ∧ Starts width n run rest := by
  constructor
  · intro h
    obtain ⟨run, after, hcs, hrun, hall, hle, hstops⟩ := exists_eq_takeWhile_take Char.isDigit width cs
    unfold digits at h
    rw [hrun] at h
    split at h
    · cases h
    · rename_i hne
      split_ifs at h with hlt
      obtain ⟨hvalue, hrest⟩ := Prod.mk.inj (Except.ok.inj h)
      rw [hcs, List.drop_left] at hrest
      subst hrest
      exact ⟨hvalue ▸ hlt, run, hcs, ⟨hne, hall, hvalue⟩, hle, hstops⟩
  · rintro ⟨hlt, run, rfl, hstarts⟩
    have hrun : ((run ++ rest).take width).takeWhile Char.isDigit = run :=
      takeWhile_take_append hstarts.writes.isDigit hstarts.length_le hstarts.stops
    have hvalue : value run = n := hstarts.writes.value
    unfold digits
    rw [hrun]
    split
    · exact absurd rfl hstarts.writes.ne_nil
    · simp only [hvalue, List.drop_left]
      exact if_pos hlt

theorem field_eq_ok_iff (hhigh : high < 2 ^ 63) : field width low high cs = .ok (n, rest) ↔
    ∃ blanks run, cs = blanks ++ (run ++ rest) ∧ (∀ c ∈ blanks, Blank.isBlank c) ∧
      Starts width n run rest ∧ low ≤ n ∧ n ≤ high := by
  have hopen : field width low high cs = .ok (n, rest) ↔
      digits width (Blank.trimStart cs) = .ok (n, rest) ∧ low ≤ n ∧ n ≤ high := by
    simp only [field, Outcome.bind_eq_ok_iff, Prod.exists, Outcome.ite_throw_eq_ok_iff, Prod.mk.injEq]
    constructor
    · rintro ⟨_, _, hdigits, hle, rfl, rfl⟩
      exact ⟨hdigits, hle⟩
    · rintro ⟨hdigits, hle⟩
      exact ⟨n, rest, hdigits, hle, rfl, rfl⟩
  rw [hopen, digits_eq_ok_iff]
  constructor
  · rintro ⟨⟨-, run, htrim, hstarts⟩, hle⟩
    obtain ⟨blanks, hcs, hblanks⟩ := Blank.exists_eq_trimStart cs
    rw [htrim] at hcs
    exact ⟨blanks, run, hcs, hblanks, hstarts, hle⟩
  · rintro ⟨blanks, run, rfl, hblanks, hstarts, hle⟩
    -- trimming ends at the first digit
    have hfirst : ∀ c ∈ (run ++ rest).head?, Blank.isBlank c = false := by
      rw [List.head?_append_of_ne_nil _ hstarts.writes.ne_nil]
      exact fun c hc => Blank.isBlank_of_isDigit (hstarts.writes.isDigit c (List.mem_of_head? hc))
    exact ⟨⟨hle.2.trans_lt hhigh, run, Blank.trimStart_append hblanks hfirst, hstarts⟩, hle⟩

/--
Numbers up to these bounds, one after the other. Each has one or two digits and may stand after
blanks, and after a number of one digit the next one does.
-/
inductive Row : List Nat → List Char → Prop
  | nil : Row [] []
  | cons {high n : Nat} {highs : List Nat} {blanks run rest : List Char}
      (blank : ∀ c ∈ blanks, Blank.isBlank c) (starts : Starts 2 n run rest) (le : n ≤ high)
      (row : Row highs rest) : Row (high :: highs) (blanks ++ (run ++ rest))

theorem row_nil_iff : Row [] cs ↔ cs = [] := by
  constructor
  · rintro ⟨⟩
    rfl
  · rintro rfl
    exact .nil

theorem row_cons_iff (hhigh : high < 2 ^ 63) :
    Row (high :: highs) cs ↔ ∃ n rest, field 2 0 high cs = .ok (n, rest) ∧ Row highs rest := by
  simp only [field_eq_ok_iff hhigh]
  constructor
  · rintro ⟨⟩
    rename_i n blanks run rest hblanks hstarts hle hrow
    exact ⟨n, rest, ⟨blanks, run, rfl, hblanks, hstarts, n.zero_le, hle⟩, hrow⟩
  · rintro ⟨n, rest, ⟨blanks, run, rfl, hblanks, hstarts, -, hle⟩, hrow⟩
    exact .cons hblanks hstarts hle hrow

/-- Two digits of a number up to the bound. -/
def IsPair (high : Nat) (cs : List Char) : Prop := cs.length = 2 ∧ ∃ n ≤ high, Numeral.Writes cs n

theorem IsPair.isDigit (h : IsPair high cs) : ∀ c ∈ cs, c.isDigit := by
  obtain ⟨-, n, -, hwrites⟩ := h
  exact hwrites.isDigit

theorem Row.isDigit_or_isBlank (h : Row highs cs) : ∀ c ∈ cs, c.isDigit ∨ Blank.isBlank c := by
  induction h with
  | nil => simp
  | cons hblanks hstarts _ _ ih =>
    simp only [List.forall_mem_append]
    exact ⟨fun c hc => .inr (hblanks c hc), fun c hc => .inl (hstarts.writes.isDigit c hc), ih⟩

/-- Without blanks a row has at most two characters for each number; as many as that are pairs. -/
theorem Row.pairs (h : Row highs cs) (hcs : ∀ c ∈ cs, Blank.isBlank c = false) :
    cs.length ≤ 2 * highs.length ∧
      (cs.length = 2 * highs.length → ∃ pairs, List.Forall₂ IsPair highs pairs ∧ cs = pairs.flatten) := by
  induction h with
  | nil => exact ⟨le_rfl, fun _ => ⟨[], .nil, rfl⟩⟩
  | @cons high n highs blanks run rest hblanks hstarts hle _ ih =>
    simp only [List.forall_mem_append] at hcs
    obtain ⟨hnone, -, hrest⟩ := hcs
    obtain rfl : blanks = [] := List.eq_nil_iff_forall_not_mem.2 fun c hc =>
      absurd (hblanks c hc) (by simp [hnone c hc])
    obtain ⟨hlength, hpairs⟩ := ih hrest
    -- the run has at most two characters and the rest at most its share, so both have all of theirs
    have hrun := hstarts.length_le
    simp only [List.nil_append, List.length_append, List.length_cons]
    refine ⟨by omega, fun hall => ?_⟩
    obtain ⟨pairs, hforall, rfl⟩ := hpairs (by omega)
    exact ⟨run :: pairs, .cons ⟨by omega, n, hle, hstarts.writes⟩ hforall, rfl⟩

theorem row_flatten {pairs : List (List Char)} (h : List.Forall₂ IsPair highs pairs) :
    Row highs pairs.flatten := by
  induction h with
  | nil => exact .nil
  | cons hpair _ ih =>
    obtain ⟨hlength, n, hle, hwrites⟩ := hpair
    exact .cons (List.forall_mem_nil _) ⟨hwrites, hlength.le, fun hlt => absurd hlength hlt.ne⟩ hle ih

end ClockText

namespace MaintenanceTime

open ClockText

variable {text : String} {cs front back : List Char}

/-- How many bytes the characters take. -/
def byteLength (cs : List Char) : Nat := (cs.map Char.utf8Size).sum

@[simp] theorem byteLength_nil : byteLength [] = 0 := rfl

@[simp] theorem byteLength_cons (c : Char) (cs : List Char) :
    byteLength (c :: cs) = c.utf8Size + byteLength cs := rfl

theorem byteLength_eq_zero_iff : byteLength cs = 0 ↔ cs = [] := by
  cases cs with
  | nil => simp
  | cons c cs =>
    have hpos := c.utf8Size_pos
    simp only [byteLength_cons, reduceCtorEq, iff_false]
    omega

theorem byteLength_of_isDigit (h : ∀ c ∈ cs, c.isDigit) : byteLength cs = cs.length := by
  induction cs with
  | nil => rfl
  | cons c cs ih =>
    obtain ⟨hc, hcs⟩ := List.forall_mem_cons.1 h
    have hsize : c.utf8Size = 1 := by
      simp only [Char.isDigit, Bool.and_eq_true, decide_eq_true_eq] at hc
      have hle : c.val ≤ 57 := hc.2
      have hascii : (57 : UInt32) ≤ 127 := by decide
      exact Char.utf8Size_eq_one_iff.2 (UInt32.le_trans hle hascii)
    rw [byteLength_cons, hsize, ih hcs, List.length_cons, Nat.add_comm]

theorem splitBytes_eq_some_iff {n : Nat} :
    splitBytes n cs = some (front, back) ↔ cs = front ++ back ∧ byteLength front = n := by
  fun_induction splitBytes n cs generalizing front back with
  | case1 cs =>
    rw [byteLength_eq_zero_iff]
    constructor
    · rintro ⟨⟩
      exact ⟨rfl, rfl⟩
    · rintro ⟨rfl, rfl⟩
      rfl
  | case2 n =>
    cases front with
    | nil => simp
    | cons d front => simp
  | case3 n c cs hle ih =>
    simp only [Option.map_eq_some_iff, Prod.exists, Prod.mk.injEq, ih]
    cases front with
    | nil => simp
    | cons d front =>
      simp only [List.cons_append, List.cons.injEq, byteLength_cons]
      constructor
      · rintro ⟨_, _, ⟨rfl, hbytes⟩, ⟨rfl, rfl⟩, rfl⟩
        exact ⟨⟨rfl, rfl⟩, by omega⟩
      · rintro ⟨⟨rfl, rfl⟩, hbytes⟩
        exact ⟨front, back, ⟨rfl, by omega⟩, ⟨rfl, rfl⟩, rfl⟩
  | case4 n c cs hle =>
    cases front with
    | nil => simp
    | cons d front =>
      simp only [reduceCtorEq, List.cons_append, List.cons.injEq, byteLength_cons, false_iff]
      rintro ⟨⟨rfl, -⟩, hbytes⟩
      omega

/-- A sign and four digits. -/
def IsOffset (cs : List Char) : Prop :=
  ∃ sign digits, cs = sign :: digits ∧ (sign = '+' ∨ sign = '-') ∧ digits.length = 4 ∧
    ∀ c ∈ digits, c.isDigit

theorem isZone_iff : isZone cs = true ↔ IsOffset cs := by
  cases cs with
  | nil => simp [isZone, IsOffset]
  | cons sign digits => simp [isZone, IsOffset, and_assoc]

theorem checkClock_eq_ok_iff : checkClock cs = .ok () ↔ Row [23, 59, 60] cs := by
  simp (disch := decide) only [checkClock, row_cons_iff, row_nil_iff, Outcome.bind_eq_ok_iff,
    Outcome.ite_throw_eq_ok_iff, Prod.exists, List.isEmpty_iff, and_true]

/--
What is accepted for a time: six bytes with a row of three numbers, up to 23, 59 and 60, and then
an offset.
-/
def Passes (text : String) : Prop :=
  ∃ clock offset, text.toList = clock ++ offset ∧ byteLength clock = 6 ∧ Row [23, 59, 60] clock ∧
    IsOffset offset

theorem check_eq_ok_iff : check text = .ok () ↔ Passes text := by
  have hpasses : Passes text ↔ ∃ clock offset, splitBytes 6 text.toList = some (clock, offset) ∧
      checkClock clock = .ok () ∧ isZone offset := by
    simp only [Passes, splitBytes_eq_some_iff, checkClock_eq_ok_iff, isZone_iff, and_assoc]
  rw [hpasses, check]
  cases splitBytes 6 text.toList with
  | none => simp
  | some parts =>
    obtain ⟨clock, zone⟩ := parts
    simp [Outcome.ite_throw_eq_ok_iff, Unique.exists_iff]

/-- The notation: six digits for an hour, a minute and a second, and then an offset. -/
def InNotation (text : String) : Prop :=
  ∃ hour minute second offset, text.toList = hour ++ minute ++ second ++ offset ∧
    IsPair 23 hour ∧ IsPair 59 minute ∧ IsPair 60 second ∧ IsOffset offset

/-- No character is a blank. -/
def Unspaced (text : String) : Prop := ∀ c ∈ text.toList, Blank.isBlank c = false

instance : Decidable (Unspaced text) :=
  decidable_of_iff (text.toList.all fun c => !Blank.isBlank c) (by simp [Unspaced])

theorem IsOffset.unspaced (h : IsOffset cs) : ∀ c ∈ cs, Blank.isBlank c = false := by
  obtain ⟨sign, digits, rfl, hsign, -, hdigits⟩ := h
  rw [List.forall_mem_cons]
  refine ⟨?_, fun c hc => Blank.isBlank_of_isDigit (hdigits c hc)⟩
  rcases hsign with rfl | rfl <;> decide

/-- Without blanks the six bytes are six digits. -/
theorem inNotation_iff : InNotation text ↔ Passes text ∧ Unspaced text := by
  constructor
  · rintro ⟨hour, minute, second, offset, htext, hhour, hminute, hsecond, hoffset⟩
    have hclock : List.Forall₂ IsPair [23, 59, 60] [hour, minute, second] :=
      .cons hhour (.cons hminute (.cons hsecond .nil))
    have htext : text.toList = [hour, minute, second].flatten ++ offset := by simpa using htext
    have hdigits : ∀ c ∈ [hour, minute, second].flatten, c.isDigit := by
      simp only [List.flatten_cons, List.flatten_nil, List.forall_mem_append]
      exact ⟨hhour.isDigit, hminute.isDigit, hsecond.isDigit, List.forall_mem_nil _⟩
    have hbytes : byteLength [hour, minute, second].flatten = 6 := by
      rw [byteLength_of_isDigit hdigits]
      simp [hhour.1, hminute.1, hsecond.1]
    refine ⟨⟨_, offset, htext, hbytes, row_flatten hclock, hoffset⟩, ?_⟩
    rw [Unspaced, htext, List.forall_mem_append]
    exact ⟨fun c hc => Blank.isBlank_of_isDigit (hdigits c hc), hoffset.unspaced⟩
  · rintro ⟨⟨clock, offset, htext, hbytes, hrow, hoffset⟩, hunspaced⟩
    rw [Unspaced, htext, List.forall_mem_append] at hunspaced
    have hdigits : ∀ c ∈ clock, c.isDigit := fun c hc =>
      (hrow.isDigit_or_isBlank c hc).resolve_right (by simp [hunspaced.1 c hc])
    rw [byteLength_of_isDigit hdigits] at hbytes
    obtain ⟨pairs, hpairs, rfl⟩ := (hrow.pairs hunspaced.1).2 hbytes
    simp only [List.forall₂_cons_left_iff, List.forall₂_nil_left_iff] at hpairs
    obtain ⟨hour, _, hhour, ⟨minute, _, hminute, ⟨second, _, hsecond, rfl, rfl⟩, rfl⟩, rfl⟩ := hpairs
    refine ⟨hour, minute, second, offset, ?_, hhour, hminute, hsecond, hoffset⟩
    simpa using htext

end MaintenanceTime

end ShootPlan
