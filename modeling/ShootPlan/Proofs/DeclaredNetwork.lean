import ShootPlan.Proofs.ZoneLifecycle
import ShootPlan.Proofs.ZoneRanges
/-!
The network that a document declares and the ranges that it holds. The network is declared
once, for the worker network of the new cluster. Later zones get the ranges of their positions
in the worker network of their own request, which nothing compares with the declared one.
-/
namespace ShootPlan

namespace Cidr

variable {network : Cidr} {texts more : List String}

/-- The texts are the notation of blocks within the network. -/
def Encloses (network : Cidr) (texts : List String) : Prop :=
  ∀ text ∈ texts, ∃ block, parse text = .ok block ∧ block.Within network

theorem encloses_append : network.Encloses (texts ++ more) ↔
    network.Encloses texts ∧ network.Encloses more := List.forall_mem_append

theorem encloses_flatMap {α : Type} {items : List α} {ranges : α → List String} :
    network.Encloses (items.flatMap ranges) ↔ ∀ item ∈ items, network.Encloses (ranges item) :=
  List.forall_mem_flatMap

theorem encloses_of_texts
    (h : ∀ text ∈ texts, ∃ block : Cidr, block.text = text ∧ block.Within network) :
    network.Encloses texts := by
  intro text htext
  obtain ⟨block, rfl, hwithin⟩ := h text htext
  exact ⟨block, parse_text block, hwithin⟩

theorem PartedInto.encloses (h : network.PartedInto texts) : network.Encloses texts := by
  obtain ⟨blocks, rfl, -, hwithin, -⟩ := h
  refine encloses_of_texts fun text htext => ?_
  obtain ⟨block, hblock, rfl⟩ := List.mem_map.1 htext
  exact ⟨block, rfl, hwithin block hblock⟩

theorem Encloses.mono {wider : Cidr} (h : network.Encloses texts) (hwider : network.Within wider) :
    wider.Encloses texts := by
  intro text htext
  obtain ⟨block, hblock, hwithin⟩ := h text htext
  exact ⟨block, hblock, fun address haddress => hwider address (hwithin address haddress)⟩

end Cidr

theorem Hyperscaler.encloses_rangesAt (provider : Hyperscaler) (network : Cidr) (index : Nat) :
    network.Encloses (provider.rangesAt network index) := by
  have heighth : network.Encloses (network.eighthAt index) := by
    unfold Cidr.eighthAt
    split
    · rename_i block hblock
      refine Cidr.encloses_of_texts fun text htext => ?_
      obtain rfl := List.mem_singleton.1 htext
      exact ⟨block, rfl, Cidr.within_of_carve hblock⟩
    · exact fun _ htext => absurd htext List.not_mem_nil
  cases provider with
  | aws =>
    change network.Encloses (AwsNetwork.rangesAt network index)
    unfold AwsNetwork.rangesAt
    split
    · rename_i zone hzone
      exact Cidr.encloses_of_texts (AwsNetwork.within_of_zone hzone)
    · exact fun _ htext => absurd htext List.not_mem_nil
  | azure => exact heighth
  | alicloud => exact heighth
  | openstack => exact fun _ htext => absurd htext List.not_mem_nil

namespace InfrastructureDocument

variable {doc grown : InfrastructureDocument} {provider : Hyperscaler} {network : String}
  {zones added : List String} {dualStack : Bool}

/-- The network that the document declares for the cluster. -/
def network? : InfrastructureDocument → Option String
  | aws doc => doc.networks.vpc.cidr
  | azure doc => doc.networks.vnet.cidr
  | alicloud doc => doc.networks.vpc.cidr
  | openstack _ => none

/-- A new document declares its worker network, and its zones lie in it. -/
theorem network_of_create (hprovider : provider ≠ .openstack)
    (h : create provider network zones dualStack = .ok doc) :
    doc.network? = some network ∧
      ∃ declared, Cidr.parse network = .ok declared ∧ declared.Encloses doc.subnets := by
  cases provider with
  | openstack => exact absurd rfl hprovider
  | aws =>
    obtain ⟨_, haws, rfl⟩ := Outcome.map_eq_ok_iff.1 h
    obtain ⟨zones, hzones, rfl⟩ := AwsNetwork.Infrastructure.create_eq_ok_iff.1 haws
    obtain ⟨declared, hdeclared, hparted⟩ :=
      (AwsNetwork.hasRoom.laysOut_names AwsNetwork.placesInOrder).parts zones hzones
    exact ⟨rfl, declared, hdeclared, hparted.encloses⟩
  | azure =>
    obtain ⟨_, hazure, rfl⟩ := Outcome.map_eq_ok_iff.1 h
    simp only [AzureNetwork.Infrastructure.create, Outcome.bind_eq_ok_iff] at hazure
    obtain ⟨zones, hzones, hazure⟩ := hazure
    obtain ⟨declared, hdeclared, hparted⟩ := (AzureNetwork.laysOut _ _).parts zones hzones
    rw [← List.map_eq_flatMap] at hparted
    split_ifs at hazure with hempty
    · obtain rfl := Outcome.pure_eq_ok_iff.1 hazure
      exact ⟨rfl, declared, hdeclared, fun _ htext => absurd htext List.not_mem_nil⟩
    · obtain rfl := Outcome.pure_eq_ok_iff.1 hazure
      exact ⟨rfl, declared, hdeclared, hparted.encloses⟩
  | alicloud =>
    obtain ⟨_, halicloud, rfl⟩ := Outcome.map_eq_ok_iff.1 h
    obtain ⟨zones, hzones, rfl⟩ := AlicloudNetwork.Infrastructure.create_eq_ok_iff.1 halicloud
    obtain ⟨declared, hdeclared, hparted⟩ :=
      (AlicloudNetwork.hasRoom.laysOut_names AlicloudNetwork.placesInOrder).parts zones hzones
    rw [← List.map_eq_flatMap] at hparted
    exact ⟨rfl, declared, hdeclared, hparted.encloses⟩

theorem network_of_grow (h : doc.grow network added = .ok grown) : grown.network? = doc.network? := by
  cases gainsZones_of_grow h <;> rfl

/-- Whether a document outgrows a network is up to the ranges at the positions it takes. -/
theorem encloses_of_grow (hprovider : doc.provider ≠ .openstack) (hdoc : doc.Numbered)
    (h : doc.grow network added = .ok grown) :
    ∃ parent, Cidr.parse network = .ok parent ∧ ∀ declared : Cidr,
      declared.Encloses grown.subnets ↔ declared.Encloses doc.subnets ∧
        ∀ index, doc.names.length ≤ index → index < grown.names.length →
          declared.Encloses (doc.provider.rangesAt parent index) := by
  obtain ⟨parent, count, hparent, hcount, hsubnets⟩ := subnets_of_grow hprovider hdoc h
  refine ⟨parent, hparent, fun declared => ?_⟩
  rw [hsubnets, hcount, Cidr.encloses_append, Cidr.encloses_flatMap]
  simp only [List.mem_range'_1, and_imp]

theorem length_zoneEntries_json (hprovider : doc.provider ≠ .openstack) :
    doc.json.zoneEntries.length = doc.names.length := by
  cases doc with
  | openstack => exact absurd rfl hprovider
  | aws doc =>
    rw [json, AwsNetwork.Infrastructure.zoneEntries_json, List.length_map]
    exact (List.length_map _).symm
  | azure doc =>
    rw [json, AzureNetwork.Infrastructure.zoneEntries_json, List.length_map]
    exact (List.length_map _).symm
  | alicloud doc =>
    rw [json, AlicloudNetwork.Infrastructure.zoneEntries_json, List.length_map]
    exact (List.length_map _).symm

end InfrastructureDocument

namespace Shoot

variable {shoot : Shoot} {doc other : InfrastructureDocument}

/-- How many zones the infrastructure document has. -/
def zoneCount (shoot : Shoot) : Nat :=
  (shoot.spec.provider.infrastructureConfig.map fun json => json.zoneEntries.length).getD 0

theorem Zoned.zoneCount_eq (h : shoot.Zoned doc) (hprovider : doc.provider ≠ .openstack) :
    shoot.zoneCount = doc.names.length := by
  rw [zoneCount, h.written]
  exact InfrastructureDocument.length_zoneEntries_json hprovider

theorem Zoned.eq_of_written (h : shoot.Zoned doc) (hprovider : other.provider = doc.provider)
    (hother : shoot.spec.provider.infrastructureConfig = some other.json) : other = doc := by
  have hjson : other.json = doc.json := Option.some.inj (hother.symm.trans h.written)
  have hread := other.decode_json
  rw [hjson, hprovider, doc.decode_json] at hread
  exact (Except.ok.inj hread).symm

end Shoot

namespace Conversion

variable {setup : Setup} {runtime : Runtime} {provider : Hyperscaler} {shoot next : Shoot}
  {doc : InfrastructureDocument}

/-- The document of a new Shoot is the one made for the Runtime's own network. -/
theorem document_of_create (htype : runtime.spec.shoot.provider.type = provider.name)
    (hnone : runtime.spec.shoot.provider.infrastructureConfig = none)
    (h : run ⟨setup, .create⟩ runtime = .ok shoot) :
    ∃ doc : InfrastructureDocument, doc.provider = provider ∧ shoot.Zoned doc ∧
      InfrastructureDocument.create provider runtime.spec.shoot.networking.nodes
        (zonesOf runtime.spec.shoot.provider.allWorkers) runtime.dualStack = .ok doc := by
  obtain ⟨zoned, hzonedProvider, hzoned⟩ := zoned_of_create htype hnone h
  obtain ⟨-, -, provider', json, hruntime, -, hjson, rfl⟩ := run_eq_ok_iff.1 h
  obtain rfl : provider = provider' := Except.ok.inj ((hyperscaler_of_type htype).symm.trans hruntime)
  simp only [infrastructure, Runtime.createInfrastructure, hnone] at hjson
  obtain ⟨doc, hdoc, rfl⟩ := newInfrastructure_eq_ok_iff.1 hjson
  have hprovider := InfrastructureDocument.provider_of_create hdoc
  obtain rfl : doc = zoned := hzoned.eq_of_written (hprovider.trans hzonedProvider.symm) rfl
  exact ⟨doc, hprovider, hzoned, hdoc⟩

/-- The document of a Shoot after a patch is the one before it or that one grown. -/
theorem document_of_patch (hprovider : doc.provider ≠ .openstack)
    (htype : runtime.spec.shoot.provider.type = doc.provider.name) (hshoot : shoot.Zoned doc)
    (h : run ⟨setup, .patch (.ofShoot shoot)⟩ runtime = .ok next) :
    ∃ grown : InfrastructureDocument, grown.provider = doc.provider ∧ next.Zoned grown ∧
      (grown = doc ∨
        ∃ added, doc.grow runtime.spec.shoot.networking.nodes added = .ok grown) := by
  obtain ⟨grown, hgrown, hnext, -⟩ := zoned_of_patch hprovider htype hshoot h
  refine ⟨grown, hgrown, hnext, ?_⟩
  obtain ⟨-, -, provider, json, hruntime, -, hjson, rfl⟩ := run_eq_ok_iff.1 h
  obtain rfl : doc.provider = provider :=
    Except.ok.inj ((hyperscaler_of_type htype).symm.trans hruntime)
  have hwritten : (ExistingShoot.ofShoot shoot).provider.infrastructureConfig = some doc.json :=
    hshoot.written
  rcases PriorProvider.infrastructure_eq_ok hjson with ⟨hnone, -⟩ | ⟨old, doc', hold, hdoc, hcases⟩
  · rw [hwritten] at hnone
    cases hnone
  obtain rfl : doc.json = old := Option.some.inj (hwritten.symm.trans hold)
  obtain rfl : doc = doc' := Except.ok.inj (doc.decode_json.symm.trans hdoc)
  rcases hcases with ⟨-, rfl⟩ | ⟨-, other, rfl, hgrow⟩
  · exact .inl (hnext.eq_of_written hgrown.symm rfl).symm
  · have hother := InfrastructureDocument.provider_of_grow hgrow
    obtain rfl := hnext.eq_of_written (hother.trans hgrown.symm) rfl
    exact .inr ⟨_, hgrow⟩

end Conversion

namespace Lifecycle

/-- The zones that a step adds, at their positions in its worker network, lie in this network. -/
def Step.AddsWithin (step : Step) (provider : Hyperscaler) (declared : Cidr) (before next : Shoot) :
    Prop :=
  ∀ network, Cidr.parse step.runtime.spec.shoot.networking.nodes = .ok network →
    ∀ index, before.zoneCount ≤ index → index < next.zoneCount →
      declared.Encloses (provider.rangesAt network index)

/-- All steps that succeed add their zones within this network. -/
def GrowsWithin (provider : Hyperscaler) (declared : Cidr) : Shoot → List Step → Prop
  | _, [] => True
  | shoot, step :: rest =>
    match convert (some shoot) step with
    | .ok next => step.AddsWithin provider declared shoot next ∧ GrowsWithin provider declared next rest
    | .error _ => GrowsWithin provider declared shoot rest

variable {provider : Hyperscaler} {first step : Step} {steps : List Step}
  {created shoot next last : Shoot} {doc : InfrastructureDocument} {declared : Cidr}

theorem encloses_of_patch (hprovider : doc.provider ≠ .openstack)
    (htype : step.runtime.spec.shoot.provider.type = doc.provider.name) (hshoot : shoot.Zoned doc)
    (h : convert (some shoot) step = .ok next) :
    ∃ grown : InfrastructureDocument, grown.provider = doc.provider ∧ next.Zoned grown ∧
      grown.network? = doc.network? ∧ ∀ declared : Cidr, declared.Encloses grown.subnets ↔
        declared.Encloses doc.subnets ∧ step.AddsWithin doc.provider declared shoot next := by
  obtain ⟨grown, hgrown, hnext, hsame | ⟨added, hgrow⟩⟩ :=
    Conversion.document_of_patch hprovider htype hshoot h
  · subst hsame
    refine ⟨grown, rfl, hnext, rfl, fun declared => (and_iff_left ?_).symm⟩
    intro network _ index hlow hhigh
    rw [hshoot.zoneCount_eq hprovider] at hlow
    rw [hnext.zoneCount_eq hprovider] at hhigh
    omega
  · obtain ⟨parent, hparent, hencloses⟩ :=
      InfrastructureDocument.encloses_of_grow hprovider hshoot.numbered hgrow
    refine ⟨grown, hgrown, hnext, InfrastructureDocument.network_of_grow hgrow, fun declared => ?_⟩
    have hcount := hshoot.zoneCount_eq hprovider
    have hcount' := hnext.zoneCount_eq (hgrown ▸ hprovider)
    rw [hencloses, Step.AddsWithin, hcount, hcount', hparent]
    simp only [Except.ok.injEq, forall_eq']

theorem encloses_of_run (hprovider : doc.provider ≠ .openstack)
    (htypes : ∀ step ∈ steps, step.runtime.spec.shoot.provider.type = doc.provider.name)
    (hshoot : shoot.Zoned doc) (hrun : run (some shoot) steps = some last) :
    ∃ grown : InfrastructureDocument, grown.provider = doc.provider ∧ last.Zoned grown ∧
      grown.network? = doc.network? ∧ ∀ declared : Cidr, declared.Encloses grown.subnets ↔
        declared.Encloses doc.subnets ∧ GrowsWithin doc.provider declared shoot steps := by
  induction steps generalizing shoot doc with
  | nil =>
    obtain rfl : shoot = last := Option.some.inj hrun
    exact ⟨doc, rfl, hshoot, rfl, fun _ => (and_iff_left trivial).symm⟩
  | cons step rest ih =>
    obtain ⟨htype, hrest⟩ := List.forall_mem_cons.1 htypes
    rw [run_cons, advance] at hrun
    simp only [GrowsWithin]
    cases hconvert : convert (some shoot) step with
    | error error =>
      rw [hconvert] at hrun
      exact ih hprovider hrest hshoot hrun
    | ok next =>
      rw [hconvert] at hrun
      obtain ⟨grown, hgrown, hnext, hnetwork, hstep⟩ := encloses_of_patch hprovider htype hshoot hconvert
      rw [← hgrown] at hprovider hrest
      obtain ⟨final, hfinal, hlast, hnetwork', hlater⟩ := ih hprovider hrest hnext hrun
      refine ⟨final, hfinal.trans hgrown, hlast, hnetwork'.trans hnetwork, fun declared => ?_⟩
      rw [hlater, hstep, hgrown, and_assoc]

/-- Worker networks within the declared one have no ranges outside of it. -/
theorem growsWithin_of_within (h : ∀ step ∈ steps, ∀ network,
    Cidr.parse step.runtime.spec.shoot.networking.nodes = .ok network → network.Within declared) :
    GrowsWithin provider declared shoot steps := by
  induction steps generalizing shoot with
  | nil => trivial
  | cons step rest ih =>
    obtain ⟨hstep, hrest⟩ := List.forall_mem_cons.1 h
    rw [GrowsWithin]
    split
    · refine ⟨fun network hnetwork index _ _ => ?_, ih hrest⟩
      exact (provider.encloses_rangesAt network index).mono (hstep network hnetwork)
    · exact ih hrest

/--
The network that a cluster was created for is the declared one forever. All ranges lie in it
just when every step that adds zones adds them within it.
-/
theorem subnets_declared_iff (hprovider : provider ≠ .openstack)
    (htypes : ∀ step ∈ first :: steps, step.runtime.spec.shoot.provider.type = provider.name)
    (hnone : first.runtime.spec.shoot.provider.infrastructureConfig = none)
    (hcreated : convert none first = .ok created) (hlast : run (some created) steps = some last) :
    ∃ json doc declared, last.spec.provider.infrastructureConfig = some json ∧
      InfrastructureDocument.decode provider json = .ok doc ∧
      doc.network? = some first.runtime.spec.shoot.networking.nodes ∧
      Cidr.parse first.runtime.spec.shoot.networking.nodes = .ok declared ∧
      (declared.Encloses doc.subnets ↔ GrowsWithin provider declared created steps) := by
  obtain ⟨htype, hrest⟩ := List.forall_mem_cons.1 htypes
  obtain ⟨start, rfl, hstart, hnew⟩ := Conversion.document_of_create htype hnone hcreated
  obtain ⟨hnetwork, declared, hdeclared, hinside⟩ :=
    InfrastructureDocument.network_of_create hprovider hnew
  obtain ⟨doc, hdoc, hzoned, hsame, hencloses⟩ := encloses_of_run hprovider hrest hstart hlast
  refine ⟨doc.json, doc, declared, hzoned.written, hdoc ▸ doc.decode_json, hsame.trans hnetwork,
    hdeclared, ?_⟩
  rw [hencloses, and_iff_right hinside]

/-- The same request with another worker network. -/
def Step.withNodes (step : Step) (nodes : String) : Step :=
  let runtime := step.runtime
  let shoot := { runtime.spec.shoot with networking := { runtime.spec.shoot.networking with nodes } }
  { step with runtime := { runtime with spec := { runtime.spec with shoot } } }

theorem subnets_declared_iff_sample : ∃ created last json doc declared,
    convert none (sampleStep .aws "1.30.1" ["eu-1a"]) = .ok created ∧
    run (some created) [sampleStep .aws "1.30.1" ["eu-1a", "eu-1b"]] = some last ∧
    last.spec.provider.infrastructureConfig = some json ∧
    InfrastructureDocument.decode .aws json = .ok doc ∧ doc.network? = some "10.250.0.0/22" ∧
    Cidr.parse "10.250.0.0/22" = .ok declared ∧ declared.Encloses doc.subnets := by
  obtain ⟨created, hcreated⟩ :
      ∃ created, convert none (sampleStep .aws "1.30.1" ["eu-1a"]) = .ok created := ⟨_, by rfl⟩
  obtain ⟨last, hlast⟩ := exists_run_eq_some created [sampleStep .aws "1.30.1" ["eu-1a", "eu-1b"]]
  have htypes : ∀ step ∈ [sampleStep .aws "1.30.1" ["eu-1a"], sampleStep .aws "1.30.1" ["eu-1a", "eu-1b"]],
      step.runtime.spec.shoot.provider.type = Hyperscaler.aws.name := by simp [sampleStep]
  obtain ⟨json, doc, declared, hjson, hdoc, hnetwork, hdeclared, hiff⟩ :=
    subnets_declared_iff (by decide) htypes rfl hcreated hlast
  -- the second request has the worker network of the first
  have hwithin : GrowsWithin .aws declared created [sampleStep .aws "1.30.1" ["eu-1a", "eu-1b"]] := by
    refine growsWithin_of_within fun step hstep network hparse => ?_
    obtain rfl := List.mem_singleton.1 hstep
    obtain rfl : declared = network := Except.ok.inj (hdeclared.symm.trans hparse)
    exact fun _ haddress => haddress
  exact ⟨created, last, json, doc, declared, hcreated, hlast, hjson, hdoc, hnetwork, hdeclared,
    hiff.2 hwithin⟩

/-! A cluster whose second zone is asked for together with a larger worker network. -/

def firstRequest : Step := sampleStep .aws "1.30.1" ["eu-1a"]

def widerRequest : Step := (sampleStep .aws "1.30.1" ["eu-1a", "eu-1b"]).withNodes "10.250.0.0/16"

def firstZone : AwsNetwork.Zone := ⟨"eu-1a", "10.250.0.0/25", "10.250.0.128/26", "10.250.0.192/26"⟩

def widerZone : AwsNetwork.Zone := ⟨"eu-1b", "10.250.64.0/19", "10.250.96.0/20", "10.250.112.0/20"⟩

/-- The document with these zones, for the network of the first request. -/
def outgrown (zones : List AwsNetwork.Zone) : InfrastructureDocument :=
  .aws { networks := { vpc := { cidr := some "10.250.0.0/22" }, zones } }

def firstShoot : Shoot :=
  Conversion.outcome ⟨sampleSetup, .create⟩ firstRequest.runtime .aws (outgrown [firstZone]).json

theorem convert_firstRequest : convert none firstRequest = .ok firstShoot :=
  Conversion.run_eq_ok_iff.2 ⟨by decide, by decide, .aws, _, rfl, rfl, by decide +kernel, rfl⟩

theorem convert_widerRequest : convert (some firstShoot) widerRequest =
    .ok (Conversion.outcome ⟨sampleSetup, .patch (.ofShoot firstShoot)⟩ widerRequest.runtime .aws
      (outgrown [firstZone, widerZone]).json) := by
  have hversion : Extender.chosenVersion "1.30.0" (some "1.30.1") (some "1.30.1") ≠ "" := by
    unfold Extender.chosenVersion
    simp [Option.filter]
  have hgrown : (ExistingShoot.ofShoot firstShoot).provider.infrastructure widerRequest.runtime .aws
      widerRequest.runtime.spec.shoot.provider.workers = .ok (outgrown [firstZone, widerZone]).json := by
    decide +kernel
  exact Conversion.run_eq_ok_iff.2 ⟨hversion, by decide, .aws, _, rfl, rfl,
    (Conversion.infrastructure_of_one_pool _ _ rfl).trans hgrown, rfl⟩

/-- The second zone lies outside of the network that the document still declares. -/
theorem growth_leaves_network : ∃ last declared,
    convert none firstRequest = .ok firstShoot ∧
    firstRequest.runtime.spec.shoot.provider.infrastructureConfig = none ∧
    convert (some firstShoot) widerRequest = .ok last ∧
    widerRequest.runtime.spec.shoot.provider.type = firstRequest.runtime.spec.shoot.provider.type ∧
    last.spec.provider.infrastructureConfig = some (outgrown [firstZone, widerZone]).json ∧
    InfrastructureDocument.decode .aws (outgrown [firstZone, widerZone]).json =
      .ok (outgrown [firstZone, widerZone]) ∧
    (outgrown [firstZone, widerZone]).network? = some "10.250.0.0/22" ∧
    Cidr.parse "10.250.0.0/22" = .ok declared ∧
    ¬declared.Encloses (outgrown [firstZone, widerZone]).subnets := by
  -- the address 10.250.64.0
  obtain ⟨declared, hdeclared, hoff⟩ : ∃ declared, Cidr.parse "10.250.0.0/22" = .ok declared ∧
      ¬declared.Holds 184172544 := ⟨_, rfl, by decide⟩
  obtain ⟨block, hblock, hheld⟩ : ∃ block, Cidr.parse "10.250.64.0/19" = .ok block ∧
      block.Holds 184172544 := ⟨_, rfl, by decide⟩
  refine ⟨_, declared, convert_firstRequest, rfl, convert_widerRequest, rfl, rfl,
    (outgrown [firstZone, widerZone]).decode_json, rfl, hdeclared, ?_⟩
  intro hencloses
  obtain ⟨other, hother, hwithin⟩ := hencloses "10.250.64.0/19" (by decide)
  obtain rfl : block = other := Except.ok.inj (hblock.symm.trans hother)
  exact hoff (hwithin 184172544 hheld)

end Lifecycle

end ShootPlan
