import ShootPlan.Record
/-!
Worker pools: groups of like machines, known by their names. A cluster request and a Shoot
describe them the same way.
-/
namespace ShootPlan

structure MachineImage where
  name : String
  version : Option String := none
  deriving DecidableEq

def MachineImage.record : Record MachineImage where
  name := "ShootMachineImage"
  fields := .cons (.required "name") <| .cons (.optional "version") .nil
  build := fun (a, b, ()) => ⟨a, b⟩
  split i := (i.name, i.version, ())

instance : Coded MachineImage := MachineImage.record.coded

structure Machine where
  type : String
  image : Option MachineImage := none
  architecture : Option String := none
  deriving DecidableEq

def Machine.record : Record Machine where
  name := "Machine"
  fields :=
    .cons (.required "type") <| .cons (.optional "image") <| .cons (.optional "architecture") .nil
  build := fun (a, b, c, ()) => ⟨a, b, c⟩
  split m := (m.type, m.image, m.architecture, ())

instance : Coded Machine := Machine.record.coded

structure Volume where
  type : Option String := none
  size : String
  deriving DecidableEq

def Volume.record : Record Volume where
  name := "Volume"
  fields := .cons (.optional "type") <| .cons (.required "size") .nil
  build := fun (a, b, ()) => ⟨a, b⟩
  split v := (v.type, v.size, ())

instance : Coded Volume := Volume.record.coded

/-- How the machines of a pool are brought up to date. -/
inductive UpdateStrategy where
  | autoRollingUpdate
  | autoInPlaceUpdate
  | manualInPlaceUpdate
  deriving DecidableEq

namespace UpdateStrategy

def name : UpdateStrategy → String
  | autoRollingUpdate => "AutoRollingUpdate"
  | autoInPlaceUpdate => "AutoInPlaceUpdate"
  | manualInPlaceUpdate => "ManualInPlaceUpdate"

def all : List UpdateStrategy := [autoRollingUpdate, autoInPlaceUpdate, manualInPlaceUpdate]

instance : Coded UpdateStrategy where
  read := Coded.readNamed (all.map fun s => (s.name, s))
  write s := .string s.name
  shape := .scalar

end UpdateStrategy

structure Worker where
  name : String
  machine : Machine
  minimum : Int32
  maximum : Int32
  maxSurge : Option Int32 := none
  maxUnavailable : Option Int32 := none
  zones : List String := []
  volume : Option Volume := none
  providerConfig : Option Json := none
  updateStrategy : Option UpdateStrategy := none
  deriving DecidableEq

def Worker.record : Record Worker where
  name := "Worker"
  fields :=
    .cons (.required "name") <| .cons (.required "machine") <| .cons (.required "minimum") <|
    .cons (.required "maximum") <| .cons (.optional "maxSurge") <|
    .cons (.optional "maxUnavailable") <| .cons (.sparse "zones") <| .cons (.optional "volume") <|
    .cons (.optional "providerConfig") <| .cons (.optional "updateStrategy") .nil
  build := fun (a, b, c, d, e, f, g, h, i, j, ()) => ⟨a, b, c, d, e, f, g, h, i, j⟩
  split w :=
    (w.name, w.machine, w.minimum, w.maximum, w.maxSurge, w.maxUnavailable, w.zones, w.volume,
      w.providerConfig, w.updateStrategy, ())

instance : Coded Worker := Worker.record.coded

/-- The name of the machine image, if one is set. -/
def Worker.imageName (worker : Worker) : Option String := worker.machine.image.map MachineImage.name

end ShootPlan
