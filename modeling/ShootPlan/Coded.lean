import ShootPlan.Dict
import ShootPlan.Source
/-!
Types with a form in documents: how a value is read from any kind of document and how it
is written as JSON. Here are the scalars, lists, optional values, maps and enumerations.
-/
namespace ShootPlan

/-- The parts of a document that a reader looks at. -/
inductive Shape where
  | scalar
  /-- Everything there is. -/
  | whole
  /-- All items of a list, or all values of a map, in the same shape. -/
  | each (part : Shape)
  /-- The members with these keys, or the items in this order. -/
  | members (parts : List (String × Shape))

namespace Shape

/-- How a reader looks at the member with this key; it passes over what has no part. -/
def member? (shape : Shape) (key : String) : Option Shape :=
  match shape with
  | scalar => none
  | whole => some whole
  | each part => some part
  | members parts => parts.lookup key

/-- How a reader looks at the item at this index. -/
def item? (shape : Shape) (index : Nat) : Option Shape :=
  match shape with
  | scalar => none
  | whole => some whole
  | each part => some part
  | members parts => parts[index]?.map Prod.snd

end Shape

class Coded (α : Type) where
  read : {ν : Type} → [Source ν] → ν → Except Fault α
  write : α → Json
  shape : Shape

namespace Coded

variable {α ν : Type}

/-- What a reader got, unless it is of the wanted kind. -/
def expect [Source ν] (wanted : String) (got : Option α) (node : ν) : Except Fault α :=
  match got with
  | some a => .ok a
  | none => .error (.wrongType (Source.found node) wanted)

instance : Coded String where
  read node := expect "a string" (Source.string? node) node
  write := .string
  shape := .scalar

instance : Coded Bool where
  read node := expect "a boolean" (Source.bool? node) node
  write := .bool
  shape := .scalar

/-- An integer of a named type that holds `low` to `high`. -/
def integer [Source ν] (low high : Int) (wanted : String) (node : ν) : Except Fault Int := do
  let n ← expect wanted (Source.int? node) node
  if low ≤ n ∧ n ≤ high then return n else throw (.outOfRange n wanted)

instance : Coded Int32 where
  read node := (integer (-2147483648) 2147483647 "i32" node).map Int32.ofInt
  write n := .int n.toInt
  shape := .scalar

instance : Coded Int64 where
  read node := (integer (-9223372036854775808) 9223372036854775807 "i64" node).map Int64.ofInt
  write n := .int n.toInt
  shape := .scalar

instance [Coded α] : Coded (List α) where
  read node := do (← expect "a sequence" (Source.items? node) node).mapM Coded.read
  write items := .array (items.map Coded.write)
  shape := .each (Coded.shape α)

instance [Coded α] : Coded (Option α) where
  read node := do if ← Source.isNull node then return none else return some (← Coded.read node)
  write
    | some a => Coded.write a
    | none => .null
  shape := Coded.shape α

/-- A document of which nothing is known. -/
instance : Coded Json where
  read := Source.json
  write := id
  shape := .whole

def readEntries [Source ν] [Coded α] : List (String × ν) → Dict α → Except Fault (Dict α)
  | [], dict => .ok dict
  | (key, node) :: rest, dict => do readEntries rest (dict.insert key (← Coded.read node))

instance [Coded α] : Coded (Dict α) where
  read node := do readEntries (← expect "a map" (Source.members? node) node) .empty
  write dict := .object (dict.entries.map fun entry => (entry.1, Coded.write entry.2))
  shape := .each (Coded.shape α)

/-- A value known by its name, among the listed ones. -/
def readNamed [Source ν] (values : List (String × α)) (node : ν) : Except Fault α := do
  let (name, payload) ← Source.variant node
  match values.find? fun v => v.1 == name with
  | some v => payload.map fun _ => v.2
  | none => throw (.unknownVariant name (values.map Prod.fst))

end Coded

end ShootPlan
