import ShootPlan.Decimal
import ShootPlan.Unprintable
/-!
Reasons why a document does not fit the model it is read as. `message` words them.
-/
namespace ShootPlan

/-- What stands where something else was wanted. -/
inductive Found where
  | null
  | bool (value : Bool)
  | int (value : Int)
  | decimal (value : Decimal)
  | string (value : String)
  | sequence
  | map
  deriving DecidableEq, Repr

/-- A time text is refused for one of these reasons. -/
inductive ClockFault where
  | invalidCharacters
  | outOfRange
  | tooShort
  | trailing
  /-- The time in UTC lies outside the calendar. -/
  | impossible
  deriving DecidableEq, Repr

inductive Fault where
  /-- A required member is not there. -/
  | missing (key : String)
  /-- A member of a record is there twice. -/
  | repeated (key : String)
  | wrongType (found : Found) (wanted : String)
  /-- An integer of the right type that the field has no room for. -/
  | outOfRange (value : Int) (wanted : String)
  | unknownVariant (name : String) (known : List String)
  /-- A variant given as an object needs exactly one member. -/
  | notOneKey
  /-- A record given as an array ends before a field that has to be there. -/
  | tooShort (count : Nat) (record : String) (size : Nat)
  /-- A record given as an array has more items than fields. -/
  | surplus (count : Nat)
  /-- The same in a text, where reading stops at the first item too many. -/
  | trailing
  | clock (reason : ClockFault)
  /-- The text or the node has no value at all. -/
  | unreadable
  deriving DecidableEq, Repr

namespace Fault

def hexDigits (n : Nat) : List Char := Nat.toDigits 16 n

/-- How a character is shown inside a quoted text. -/
def shown (c : Char) : List Char :=
  if c = '"' then ['\\', '"']
  else if c = '\\' then ['\\', '\\']
  else if c = '\n' then ['\\', 'n']
  else if c = '\r' then ['\\', 'r']
  else if c = '\t' then ['\\', 't']
  else if c.toNat = 0 then ['\\', '0']
  else if Unprintable.holds c then ['\\', 'u', '\x7b'] ++ hexDigits c.toNat ++ ['\x7d']
  else [c]

def quote (s : String) : String := String.ofList ('"' :: s.toList.flatMap shown ++ ['"'])

end Fault

def Found.describe : Found → String
  | .null => "null"
  | .bool b => "boolean `" ++ toString b ++ "`"
  | .int n => "integer `" ++ toString n ++ "`"
  | .decimal d => "floating point `" ++ d.text ++ "`"
  | .string s => "string " ++ Fault.quote s
  | .sequence => "sequence"
  | .map => "map"

def ClockFault.message : ClockFault → String
  | .invalidCharacters => "input contains invalid characters"
  | .outOfRange => "input is out of range"
  | .tooShort => "premature end of input"
  | .trailing => "trailing input"
  | .impossible => "no possible date and time matching input"

namespace Fault

def ticked (name : String) : String := "`" ++ name ++ "`"

/-- One name, two joined by `or`, or a list of them. -/
def choices : List String → String
  | [] => "there are no variants"
  | [a] => "expected " ++ ticked a
  | [a, b] => "expected " ++ ticked a ++ " or " ++ ticked b
  | names => "expected one of " ++ ", ".intercalate (names.map ticked)

def elements (n : Nat) : String := toString n ++ if n = 1 then " element" else " elements"

def message : Fault → String
  | .missing key => "missing field " ++ ticked key
  | .repeated key => "duplicate field " ++ ticked key
  | .wrongType found wanted => "invalid type: " ++ found.describe ++ ", expected " ++ wanted
  | .outOfRange n wanted => "invalid value: integer " ++ ticked (toString n) ++ ", expected " ++ wanted
  | .unknownVariant name known => "unknown variant " ++ ticked name ++ ", " ++ choices known
  | .notOneKey => "invalid value: map, expected map with a single key"
  | .tooShort count record size =>
    "invalid length " ++ toString count ++ ", expected struct " ++ record ++ " with " ++ elements size
  | .surplus count => "invalid length " ++ toString count ++ ", expected fewer elements in array"
  | .trailing => "trailing characters"
  | .clock reason => reason.message
  | .unreadable => "unreadable document"

end Fault

end ShootPlan
