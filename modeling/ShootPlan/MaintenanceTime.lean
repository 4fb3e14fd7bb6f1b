import ShootPlan.ClockText
/-!
Times of day as maintenance windows write them: six characters for hours, minutes and
seconds, then a sign and a zone of four digits.
-/
namespace ShootPlan

inductive MaintenanceFault where
  /-- The text is too short, or a character lies across the end of the time. -/
  | format
  | time (reason : ClockFault)
  | zone
  deriving DecidableEq, Repr

namespace MaintenanceTime

/-- Split after so many bytes, if a character ends there. -/
def splitBytes : Nat → List Char → Option (List Char × List Char)
  | 0, cs => some ([], cs)
  | _ + 1, [] => none
  | n + 1, c :: cs =>
    if c.utf8Size ≤ n + 1 then
      (splitBytes (n + 1 - c.utf8Size) cs).map fun (front, back) => (c :: front, back)
    else none

/-- Hour, minute and second, each of one or two digits that may stand after white space. -/
def checkClock (cs : List Char) : Except ClockFault Unit := do
  let (_, rest) ← ClockText.field 2 0 23 cs
  let (_, rest) ← ClockText.field 2 0 59 rest
  let (_, rest) ← ClockText.field 2 0 60 rest
  if rest.isEmpty then return () else throw .trailing

/-- A sign and four digits. -/
def isZone : List Char → Bool
  | sign :: digits => (sign = '+' || sign = '-') && digits.length = 4 && digits.all Char.isDigit
  | [] => false

def check (text : String) : Except MaintenanceFault Unit := do
  let some (clock, zone) := splitBytes 6 text.toList | throw .format
  (checkClock clock).mapError .time
  if isZone zone then return () else throw .zone

end MaintenanceTime

/-- The wording, with the text it is about. -/
def MaintenanceFault.message (text : String) : MaintenanceFault → String
  | .format => "'" ++ text ++ "' is not in HHMMSS+ZZZZ format"
  | .time reason => "'" ++ text ++ "' has an invalid time: " ++ reason.message
  | .zone => "'" ++ text ++ "' has an invalid zone offset"

end ShootPlan
