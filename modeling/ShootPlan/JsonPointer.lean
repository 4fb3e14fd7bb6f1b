import ShootPlan.Json
/-!
Places inside a JSON value, and the replacement of the value at such a place.
-/
namespace ShootPlan.JsonPointer

/-- A step names a member of an object or the position of an array item. -/
abbrev Path := List String

/-- Undo the escapes of a step: `~1` is a slash and `~0` a tilde. -/
def unescape : List Char → List Char
  | '~' :: '1' :: rest => '/' :: unescape rest
  | '~' :: '0' :: rest => '~' :: unescape rest
  | c :: rest => c :: unescape rest
  | [] => []

/-- The empty pointer is the whole value; any other starts with a slash. -/
def ofText (pointer : String) : Option Path :=
  if pointer.isEmpty then some []
  else
    match pointer.splitOn "/" with
    | "" :: steps => some (steps.map fun step => String.ofList (unescape step.toList))
    | _ => none

/-- Positions are plain decimals without a leading zero. -/
def position (step : String) : Option Nat :=
  match step.toList with
  | [] => none
  | ['0'] => some 0
  | '0' :: _ => none
  | cs => if cs.all Char.isDigit then some (Nat.ofDigitChars 10 cs 0) else none

/-- Apply a change to the first member of that key; `none` where there is no such member. -/
def changeMember (key : String) (change : Json → Option Json) :
    List (String × Json) → Option (List (String × Json))
  | [] => none
  | (k, v) :: rest =>
    if k = key then (change v).map fun v => (k, v) :: rest
    else (changeMember key change rest).map ((k, v) :: ·)

def changeItem (change : Json → Option Json) : Nat → List Json → Option (List Json)
  | _, [] => none
  | 0, item :: rest => (change item).map (· :: rest)
  | n + 1, item :: rest => (changeItem change n rest).map (item :: ·)

/-- Replace what stands at the path; `none` when nothing stands there. -/
def replace (value : Json) : Path → Json → Option Json
  | [], _ => some value
  | step :: path, .object members =>
    (changeMember step (replace value path) members).map .object
  | step :: path, .array items => do
    let n ← position step
    return .array (← changeItem (replace value path) n items)
  | _ :: _, _ => none

end ShootPlan.JsonPointer
