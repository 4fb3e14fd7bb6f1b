import ShootPlan.Coded
/-!
Records of documents, described once by the list of their fields. From the description
come the reader, which takes an object or an array of all fields in order, and the writer,
which gives an object with the fields in order.

The first problem met is the one reported. A bad value is met where it stands in the
document, a missing field only at the end.
-/
namespace ShootPlan

/-- A named field and what to do when it is not there. -/
structure Field (α : Type) where
  key : String
  read : {ν : Type} → [Source ν] → ν → Except Fault α
  write : α → Json
  shape : Shape
  /-- The value where an object has no such member. -/
  absent : Option α
  /-- The value where an array ends before it. -/
  short : Option α
  /-- Values that are left out when writing. -/
  hidden : α → Bool

namespace Field

variable {α : Type}

def required [Coded α] (key : String) : Field α :=
  ⟨key, Coded.read, Coded.write, Coded.shape α, none, none, fun _ => false⟩

def optional [Coded α] (key : String) : Field (Option α) :=
  ⟨key, Coded.read, Coded.write, Coded.shape (Option α), some none, some none, Option.isNone⟩

/-- Optional in an object, required in an array. -/
def placed [Coded α] (key : String) : Field (Option α) :=
  ⟨key, Coded.read, Coded.write, Coded.shape (Option α), some none, none, Option.isNone⟩

/-- Always written; the default stands in where it is not there. -/
def defaulted [Coded α] (key : String) (value : α) : Field α :=
  ⟨key, Coded.read, Coded.write, Coded.shape α, some value, some value, fun _ => false⟩

/-- A list that is left out when empty. -/
def sparse [Coded α] (key : String) : Field (List α) :=
  ⟨key, Coded.read, Coded.write, Coded.shape (List α), some [], some [], List.isEmpty⟩

/-- A map that is left out when empty. -/
def sparseMap [Coded α] (key : String) : Field (Dict α) :=
  ⟨key, Coded.read, Coded.write, Coded.shape (Dict α), some .empty, some .empty, Dict.isEmpty⟩

/-- A text whose absence and null mean the empty text. -/
def lenient (key : String) : Field String where
  key := key
  read node := (Coded.read (α := Option String) node).map fun s => s.getD ""
  write := Coded.write
  shape := .scalar
  absent := some ""
  short := some ""
  hidden _ := false

end Field

inductive Fields : List Type → Type 1 where
  | nil : Fields []
  | cons {α : Type} {αs : List Type} (field : Field α) (rest : Fields αs) : Fields (α :: αs)

/-- The values of all fields, in order. -/
def Values : List Type → Type
  | [] => Unit
  | α :: αs => α × Values αs

/-- The values met so far while an object is read. -/
def Slots : List Type → Type
  | [] => Unit
  | α :: αs => Option α × Slots αs

namespace Fields

variable {ν : Type} [Source ν]

def blank : {αs : List Type} → Fields αs → Slots αs
  | _, .nil => ()
  | _, .cons _ rest => (none, rest.blank)

def shapes : {αs : List Type} → Fields αs → List (String × Shape)
  | _, .nil => []
  | _, .cons field rest => (field.key, field.shape) :: rest.shapes

def size : {αs : List Type} → Fields αs → Nat
  | _, .nil => 0
  | _, .cons _ rest => rest.size + 1

/--
Take one member of an object into its slot. Members that no field names are ignored. A
second member of one field is refused when `strict`, else it replaces the first.
-/
def accept (strict : Bool) (key : String) (node : ν) :
    {αs : List Type} → Fields αs → Slots αs → Except Fault (Slots αs)
  | _, .nil, () => .ok ()
  | _, .cons field rest, (slot, slots) =>
    if field.key = key then
      if strict && slot.isSome then .error (.repeated key)
      else (field.read node).map fun value => (some value, slots)
    else (rest.accept strict key node slots).map (slot, ·)

def acceptAll (strict : Bool) {αs : List Type} (fields : Fields αs) :
    List (String × ν) → Slots αs → Except Fault (Slots αs)
  | [], slots => .ok slots
  | (key, node) :: more, slots => do
    fields.acceptAll strict more (← fields.accept strict key node slots)

/-- Fill the slots left open; the first field that cannot do without a value is missing. -/
def complete : {αs : List Type} → Fields αs → Slots αs → Except Fault (Values αs)
  | _, .nil, () => .ok ()
  | _, .cons field rest, (slot, slots) =>
    match slot.or field.absent with
    | some value => (rest.complete slots).map (value, ·)
    | none => .error (.missing field.key)

/-- Read the fields from the items of an array, giving the items left over. -/
def fromItems (record : String) (total : Nat) :
    {αs : List Type} → Fields αs → Nat → List ν → Except Fault (Values αs × List ν)
  | _, .nil, _, items => .ok ((), items)
  | _, .cons field rest, count, item :: items => do
    let value ← field.read item
    let (values, left) ← rest.fromItems record total (count + 1) items
    return ((value, values), left)
  | _, .cons field rest, count, [] =>
    match field.short with
    | some value => do
      let (values, left) ← rest.fromItems record total (count + 1) []
      return ((value, values), left)
    | none => .error (.tooShort count record total)

def write : {αs : List Type} → Fields αs → Values αs → List (String × Json)
  | _, .nil, () => []
  | _, .cons field rest, (value, values) =>
    if field.hidden value then rest.write values
    else (field.key, field.write value) :: rest.write values

end Fields

/-- Most records may be given as arrays and refuse repeats; a few are objects only, where
the last of a repeated member counts. -/
inductive Layout where
  | positional
  | objectOnly
  deriving DecidableEq

structure Record (σ : Type) where
  name : String
  layout : Layout := .positional
  /-- Members with fixed values, written first and ignored when read. -/
  banner : List (String × Json) := []
  {columns : List Type}
  fields : Fields columns
  build : Values columns → σ
  split : σ → Values columns

namespace Record

variable {σ ν : Type} [Source ν]

def readMembers (record : Record σ) (members : List (String × ν)) : Except Fault σ := do
  let slots ← record.fields.acceptAll (record.layout = .positional) members record.fields.blank
  return record.build (← record.fields.complete slots)

def readItems (record : Record σ) (items : List ν) : Except Fault σ := do
  let (values, left) ← record.fields.fromItems record.name record.fields.size 0 items
  if left.isEmpty then return record.build values
  else throw (Source.surplus ν items.length)

def read (record : Record σ) (node : ν) : Except Fault σ :=
  match Source.members? node, record.layout, Source.items? node with
  | some members, _, _ => record.readMembers members
  | none, .positional, some items => record.readItems items
  | none, .positional, none => .error (.wrongType (Source.found node) ("struct " ++ record.name))
  | none, .objectOnly, _ => .error (.wrongType (Source.found node) record.name)

def write (record : Record σ) (value : σ) : Json :=
  .object (record.banner ++ record.fields.write (record.split value))

/-- The form of a type that is described as a record. -/
@[reducible] def coded (record : Record σ) : Coded σ where
  read := record.read
  write := record.write
  shape := .members record.fields.shapes

end Record

end ShootPlan
