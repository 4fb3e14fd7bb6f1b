/-!
Order of version texts. Parts between dots compare by the number their leading digits
show; texts with the same numbers compare as texts, so different texts are never equal.
-/
namespace ShootPlan.Version

/-- The number at the head of a part; zero when there is none or it needs over 64 bits. -/
def part (cs : List Char) : Nat :=
  let n := Nat.ofDigitChars 10 (cs.takeWhile Char.isDigit) 0
  if n < Nat.pow 2 64 then n else 0

/-- The numbers of a version, without leading `v`s. -/
def parts (version : String) : List Nat :=
  ((version.toList.dropWhile (· = 'v')).splitOn '.').map part

/-- Lexicographic order of number sequences; missing numbers count as zero. -/
def compareParts : List Nat → List Nat → Ordering
  | [], [] => .eq
  | a :: as, [] => (compare a 0).then (compareParts as [])
  | [], b :: bs => (compare 0 b).then (compareParts [] bs)
  | a :: as, b :: bs => (compare a b).then (compareParts as bs)

def order (left right : String) : Ordering :=
  (compareParts (parts left) (parts right)).then (compare left right)

/-- The greater version; the left one of equals. -/
def max (left right : String) : String := if order left right = .lt then right else left

/-- Versions in increasing order. -/
def sort (versions : List String) : List String :=
  versions.mergeSort fun a b => order a b ≠ .gt

/-- The greatest of a list, found from the left. -/
def maxOf? : List String → Option String
  | [] => none
  | first :: rest => some (rest.foldl max first)

end ShootPlan.Version
