import ShootPlan.ClockText
import ShootPlan.Coded
/-!
Points in time as documents write them: RFC 3339 with any offset on the way in, in UTC on
the way out.
-/
namespace ShootPlan

/-- A time in UTC. Second 60 is a leap second. -/
structure Instant where
  year : Int
  month : Nat
  day : Nat
  hour : Nat
  minute : Nat
  second : Nat
  nano : Nat
  deriving DecidableEq, Repr

namespace Instant

def isLeap (year : Int) : Bool := year % 4 = 0 && (year % 100 ≠ 0 || year % 400 = 0)

def daysIn (year : Int) (month : Nat) : Nat :=
  if month = 2 then (if isLeap year then 29 else 28)
  else if month = 4 ∨ month = 6 ∨ month = 9 ∨ month = 11 then 30
  else 31

def nextDay (t : Instant) : Instant :=
  if t.day < daysIn t.year t.month then { t with day := t.day + 1 }
  else if t.month < 12 then { t with month := t.month + 1, day := 1 }
  else { t with year := t.year + 1, month := 1, day := 1 }

def previousDay (t : Instant) : Instant :=
  if 1 < t.day then { t with day := t.day - 1 }
  else if 1 < t.month then { t with month := t.month - 1, day := daysIn t.year (t.month - 1) }
  else { t with year := t.year - 1, month := 12, day := 31 }

/-- The time that many minutes earlier; at most one day is crossed. -/
def earlier (t : Instant) (minutes : Int) : Instant :=
  let total : Int := t.hour * 60 + t.minute - minutes
  let inDay := (total % 1440).toNat
  let moved := { t with hour := inDay / 60, minute := inDay % 60 }
  if total < 0 then moved.previousDay else if total < 1440 then moved else moved.nextDay

/-- A signed year has any number of digits and fits 32 bits, a plain one has at most four. -/
def readYear (cs : List Char) : Except ClockFault (Int × List Char) := do
  match Blank.trimStart cs with
  | '-' :: rest =>
    let (n, rest) ← ClockText.digits rest.length rest
    if n ≤ Nat.pow 2 31 then return (-(n : Int), rest) else throw .outOfRange
  | '+' :: rest =>
    let (n, rest) ← ClockText.digits rest.length rest
    if n < Nat.pow 2 31 then return (n, rest) else throw .outOfRange
  | cs =>
    let (n, rest) ← ClockText.digits 4 cs
    return (n, rest)

/-- Nanoseconds after a point; digits beyond the ninth are dropped. -/
def readFraction : List Char → Except ClockFault (Nat × List Char)
  | '.' :: rest => do
    let (n, after) ← ClockText.digits 9 rest
    return (n * Nat.pow 10 (9 - (rest.length - after.length)), after.dropWhile Char.isDigit)
  | cs => return (0, cs)

/-- Two digits and what follows; a text of less than two bytes is too short for them. -/
def twoDigits : List Char → Except ClockFault (Char × Char × List Char)
  | a :: b :: rest => if a.isDigit && b.isDigit then .ok (a, b, rest) else .error .invalidCharacters
  | [a] => .error (if a.utf8Size < 2 then .tooShort else .invalidCharacters)
  | [] => .error .tooShort

/-- The offset from UTC in minutes. -/
def readOffset : List Char → Except ClockFault (Int × List Char)
  | [] => .error .tooShort
  | c :: rest =>
    if c = 'Z' ∨ c = 'z' then .ok (0, rest)
    else if c = '+' ∨ c = '-' ∨ c.toNat = 0x2212 then do
      let (a, b, rest) ← twoDigits rest
      let rest := rest.dropWhile fun c => c = ':' || Blank.isBlank c
      let (d, e, rest) ← twoDigits rest
      if '6' ≤ d then throw .outOfRange
      let minutes : Int := ClockText.value [a, b] * 60 + ClockText.value [d, e]
      return (if c = '+' then minutes else -minutes, rest)
    else .error .invalidCharacters

/-- Years that a calendar date can have. -/
def yearInRange (year : Int) : Bool := -262143 ≤ year && year ≤ 262142

/-- Read a date and a time with its offset, parted by a `T` or a blank. -/
def readChars (cs : List Char) : Except ClockFault Instant := do
  let (year, rest) ← readYear cs
  let rest ← ClockText.literal '-' (Blank.trimStart rest)
  let (month, rest) ← ClockText.field 2 1 12 rest
  let rest ← ClockText.literal '-' (Blank.trimStart rest)
  let (day, rest) ← ClockText.field 2 1 31 rest
  let rest ←
    match rest with
    | c :: rest => if c = 'T' ∨ c = 't' ∨ c = ' ' then pure rest else throw .invalidCharacters
    | [] => throw .tooShort
  let (hour, rest) ← ClockText.field 2 0 23 rest
  let rest ← ClockText.literal ':' (Blank.trimStart rest)
  let (minute, rest) ← ClockText.field 2 0 59 rest
  let rest ← ClockText.literal ':' (Blank.trimStart rest)
  let (second, rest) ← ClockText.field 2 0 60 rest
  let (nano, rest) ← readFraction rest
  let rest := Blank.trimStart rest
  let (offset, rest) ←
    match rest with
    | a :: b :: c :: more =>
      if a.toUpper = 'U' ∧ b.toUpper = 'T' ∧ c.toUpper = 'C' then pure (0, more) else readOffset rest
    | _ => readOffset rest
  unless (Blank.trimStart rest).isEmpty do throw .trailing
  unless yearInRange year && day ≤ daysIn year month do throw .outOfRange
  unless -1440 < offset && offset < 1440 do throw .outOfRange
  let written : Instant := ⟨year, month, day, hour, minute, second, nano⟩
  let t := if offset = 0 then written else written.earlier offset
  if yearInRange t.year then return t else throw .impossible

def padded (width n : Nat) : List Char :=
  let ds := Nat.toDigits 10 n
  List.replicate (width - ds.length) '0' ++ ds

/-- Years outside 0 to 9999 carry a sign. -/
def yearChars (year : Int) : List Char :=
  if 0 ≤ year ∧ year ≤ 9999 then padded 4 year.toNat
  else (if year < 0 then '-' else '+') :: padded 4 year.natAbs

/-- Three, six or nine digits, none for a whole second. -/
def fractionChars (nano : Nat) : List Char :=
  if nano = 0 then []
  else if nano % 1000000 = 0 then '.' :: padded 3 (nano / 1000000)
  else if nano % 1000 = 0 then '.' :: padded 6 (nano / 1000)
  else '.' :: padded 9 nano

def chars (t : Instant) : List Char :=
  yearChars t.year ++ '-' :: padded 2 t.month ++ '-' :: padded 2 t.day ++ 'T' :: padded 2 t.hour
    ++ ':' :: padded 2 t.minute ++ ':' :: padded 2 t.second ++ fractionChars t.nano ++ ['Z']

instance : Coded Instant where
  read node := do
    let s ← Coded.expect "an RFC 3339 formatted date and time string" (Source.string? node) node
    match readChars s.toList with
    | .ok t => return t
    | .error reason => throw (.clock reason)
  write t := .string (String.ofList t.chars)
  shape := .scalar

end Instant

/-- A time of which only whole seconds are kept. -/
structure WholeSecond where
  time : Instant
  deriving DecidableEq, Repr

instance : Coded WholeSecond where
  read node := (Coded.read (α := Instant) node).map fun t => ⟨{ t with nano := 0 }⟩
  write t := Coded.write t.time
  shape := Coded.shape Instant

end ShootPlan
