import ShootPlan.NetworkError
/-!
Rules that the networks of all providers share: which worker networks and zone names are
allowed, and that subnets of added zones keep clear of those in use.
-/
namespace ShootPlan

/-- The network of a text, with the text named where it is none. -/
def Cidr.parse (text : String) : Except NetworkError Cidr :=
  (Cidr.ofText text).mapError (.invalidCidr text)

/-- A worker network has to leave room for all zones and not be too large. -/
def workerNetwork (text : String) : Except NetworkError Cidr := do
  let block ← Cidr.parse text
  if workerLengths.1 ≤ block.length ∧ block.length ≤ workerLengths.2 then return block
  else throw (.unsupportedLength text block.length)

/-- The first name that stands before it already. -/
def firstRepeated (seen : List String) : List String → Option String
  | [] => none
  | name :: rest => if name ∈ seen then some name else firstRepeated (name :: seen) rest

/-- Names are distinct, and neither fewer than the least number nor more than eight. -/
def checkZoneNames (names : List String) (least : Nat) : Except NetworkError Unit :=
  if names.length < least ∨ maxZones < names.length then .error (.zoneCount names.length least)
  else
    match firstRepeated [] names with
    | some name => .error (.duplicateZone name)
    | none => .ok ()

/-- No added subnet overlaps a persisted one. All persisted texts are read first. -/
def ensureDisjoint (persisted added : List String) : Except NetworkError Unit := do
  let inUse ← persisted.mapM Cidr.parse
  added.forM fun text => do
    let subnet ← Cidr.parse text
    match inUse.find? (·.overlaps subnet) with
    | some other => throw (.subnetOverlap subnet other)
    | none => return ()

/-- Carve a subnet out of a network. -/
def Cidr.subnet (parent : Cidr) (offset : UInt64) (length : UInt8) : Except NetworkError Cidr :=
  match parent.subnet? offset length with
  | some block => .ok block
  | none => .error (.subnetOutOfRange parent offset length)

/-- The subnet with so many more bits of prefix, at an offset that is small enough to count. -/
def Cidr.carve (parent : Cidr) (offset bits : Nat) : Except NetworkError Cidr :=
  parent.subnet (.ofNat offset) (.ofNat (parent.length + bits))

end ShootPlan
