import ShootPlan.Record
/-!
Pull-through caches of image registries.
-/
namespace ShootPlan

structure CacheVolume where
  size : Option String := none
  storageClassName : Option String := none
  deriving DecidableEq

def CacheVolume.record : Record CacheVolume where
  name := "RegistryCacheVolume"
  fields := .cons (.optional "size") <| .cons (.optional "storageClassName") .nil
  build := fun (a, b, ()) => ⟨a, b⟩
  split v := (v.size, v.storageClassName, ())

instance : Coded CacheVolume := CacheVolume.record.coded

structure CacheExpiry where
  ttl : String
  deriving DecidableEq

def CacheExpiry.record : Record CacheExpiry where
  name := "RegistryCacheGarbageCollection"
  fields := .cons (.required "ttl") .nil
  build := fun (a, ()) => ⟨a⟩
  split e := (e.ttl, ())

instance : Coded CacheExpiry := CacheExpiry.record.coded

/-- One cache, for one registry. -/
structure RegistryCache where
  registry : String
  remoteURL : Option String := none
  volume : Option CacheVolume := none
  garbageCollection : Option CacheExpiry := none
  secretReferenceName : Option String := none
  deriving DecidableEq

/-- The two documents that list caches name their entries differently. -/
def RegistryCache.recordNamed (name : String) : Record RegistryCache where
  name := name
  fields :=
    .cons (.required "upstream") <| .cons (.optional "remoteURL") <| .cons (.optional "volume") <|
    .cons (.optional "garbageCollection") <| .cons (.optional "secretReferenceName") .nil
  build := fun (a, b, c, d, e, ()) => ⟨a, b, c, d, e⟩
  split c := (c.registry, c.remoteURL, c.volume, c.garbageCollection, c.secretReferenceName, ())

end ShootPlan
