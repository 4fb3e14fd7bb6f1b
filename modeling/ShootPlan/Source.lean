import ShootPlan.Fault
import ShootPlan.JsonText
/-!
The documents that models are read from. `Json` values are one kind, JSON texts another;
they differ in how they take a record written as an array that is too long. A kind of
document has its own idea of what may be read as a text, as nothing or as a list.
-/
namespace ShootPlan

class Source (ν : Type) where
  /-- What the node is, for a reader that wanted something else. -/
  found : ν → Found
  string? : ν → Option String
  bool? : ν → Option Bool
  int? : ν → Option Int
  items? : ν → Option (List ν)
  members? : ν → Option (List (String × ν))
  /-- Whether the node reads as nothing in an optional field. -/
  isNull : ν → Except Fault Bool
  /-- The name of a variant, and whether what comes with it is nothing. -/
  variant : ν → Except Fault (String × Except Fault Unit)
  /-- The node as a value of its own. -/
  json : ν → Except Fault Json
  /-- The node as a wrapped value, which counts as one level more where levels are counted. -/
  wrapped : ν → ν
  surplus : Nat → Fault

namespace Json

def found : Json → Found
  | .null => .null
  | .bool b => .bool b
  | .int n => .int n
  | .decimal d => .decimal d
  | .string s => .string s
  | .array _ => .sequence
  | .object _ => .map

def string? : Json → Option String
  | .string s => some s
  | _ => none

def bool? : Json → Option Bool
  | .bool b => some b
  | _ => none

def int? : Json → Option Int
  | .int n => some n
  | _ => none

def items? : Json → Option (List Json)
  | .array items => some items
  | _ => none

def members? : Json → Option (List (String × Json))
  | .object members => some members
  | _ => none

def isNull : Json → Bool
  | .null => true
  | _ => false

/-- A variant is its name, or an object whose only member has that name and is null. -/
def variant : Json → Except Fault (String × Except Fault Unit)
  | .string s => .ok (s, .ok ())
  | .object [(key, .null)] => .ok (key, .ok ())
  | .object [(key, payload)] => .ok (key, .error (.wrongType payload.found "unit"))
  | .object _ => .error .notOneKey
  | other => .error (.wrongType other.found "string or map")

instance : Source Json where
  found := found
  string? := string?
  bool? := bool?
  int? := int?
  items? := items?
  members? := members?
  isNull node := .ok node.isNull
  variant := variant
  json := .ok
  wrapped := id
  surplus := .surplus

end Json

namespace Written

def found : Written → Found
  | .null => .null
  | .bool b => .bool b
  | .int n => .int n
  | .decimal d => .decimal d
  | .string s => .string (s.getD "")
  | .array _ => .sequence
  | .object _ => .map

def string? : Written → Option String
  | .string s => s
  | _ => none

def bool? : Written → Option Bool
  | .bool b => some b
  | _ => none

def int? : Written → Option Int
  | .int n => some n
  | _ => none

def items? : Written → Option (List Written)
  | .array items => some items
  | _ => none

def members? : Written → Option (List (String × Written))
  | .object members => members.mapM fun (key, value) => key.map (·, value)
  | _ => none

def isNull : Written → Bool
  | .null => true
  | _ => false

def variant (w : Written) : Except Fault (String × Except Fault Unit) :=
  match w.json with
  | some json => json.variant
  | none => .error .unreadable

instance : Source Written where
  found := found
  string? := string?
  bool? := bool?
  int? := int?
  items? := items?
  members? := members?
  isNull node := .ok node.isNull
  variant := variant
  json w :=
    match w.json with
    | some json => .ok json.canonical
    | none => .error .unreadable
  wrapped := id
  surplus _ := .trailing

end Written

end ShootPlan
