import ShootPlan.Proofs.KeptDocuments
import ShootPlan.Proofs.PoolPatch
/-!
The pools of a cluster after a patch. None of the Runtime's pools is lost or doubled. Those of
existing names keep their places and the others follow as the Runtime has them. Each is the pool
that was asked for, but for what it takes over from the first existing pool of its name.
-/
namespace ShootPlan

section

variable {α : Type} {le : α → α → Bool} {items : List α}

/-- A list in which the items with a property come before all others. -/
theorem eq_filter_append_filter_not {p : α → Bool} (h : items.Pairwise fun a b => p b → p a) :
    items = items.filter p ++ items.filter fun a => !p a := by
  induction items with
  | nil => rfl
  | cons first rest ih =>
    obtain ⟨hfirst, hrest⟩ := List.pairwise_cons.1 h
    by_cases hp : p first
    · rw [List.filter_cons_of_pos hp, List.filter_cons_of_neg (by simpa using hp), List.cons_append,
        ← ih hrest]
    · have hnone : ∀ b ∈ rest, ¬p b := fun b hb hpb => hp (hfirst b hb hpb)
      have hnil : (first :: rest).filter p = [] :=
        List.filter_eq_nil_iff.2 (List.forall_mem_cons.2 ⟨hp, hnone⟩)
      have hall : (first :: rest).filter (fun a => !p a) = first :: rest :=
        List.filter_eq_self.2 fun b hb => by
          rcases List.mem_cons.1 hb with rfl | hb
          · simpa using hp
          · simpa using hnone b hb
      rw [hnil, hall, List.nil_append]

/-- Sorting leaves items that are tied in the order they had. -/
theorem filter_mergeSort_of_tied (htrans : ∀ a b c, le a b → le b c → le a c)
    (htotal : ∀ a b, le a b || le b a) {p : α → Bool} (htied : ∀ a b, p a → p b → le a b) :
    (items.mergeSort le).filter p = items.filter p := by
  have hsorted : (items.filter p).Pairwise fun a b => le a b = true :=
    List.pairwise_of_forall_mem_list fun a ha b hb =>
      htied a b (List.mem_filter.1 ha).2 (List.mem_filter.1 hb).2
  have hsublist : (items.filter p).Sublist (items.mergeSort le) :=
    List.sublist_mergeSort htrans htotal hsorted List.filter_sublist
  have hkept := hsublist.filter p
  rw [List.filter_filter] at hkept
  simp only [Bool.and_self] at hkept
  refine (hkept.eq_of_length ?_).symm
  exact ((List.mergeSort_perm items le).filter p).length_eq.symm

end

/--
Pools in the order of the names that exist: those of existing names first, by the place of the
name, then all others as they were. Pools that share a name stay in order too.
-/
structure Arranges (names : List String) (pools arranged : List Worker) : Prop where
  perm : arranged.Perm pools
  newLast : arranged =
    arranged.filter (fun pool => pool.name ∈ names) ++ pools.filter fun pool => pool.name ∉ names
  byPlace : (arranged.filter fun pool => pool.name ∈ names).Pairwise fun a b =>
    names.idxOf a.name ≤ names.idxOf b.name
  stable : ∀ name, arranged.filter (fun pool => pool.name = name) =
    pools.filter fun pool => pool.name = name

/-- Pools of new names stay as they were. -/
theorem Arranges.filter_notMem {names : List String} {pools arranged : List Worker}
    (h : Arranges names pools arranged) :
    arranged.filter (fun pool => pool.name ∉ names) = pools.filter fun pool => pool.name ∉ names := by
  have hknown : (arranged.filter fun pool => pool.name ∈ names).filter
      (fun pool => pool.name ∉ names) = [] := by
    rw [List.filter_eq_nil_iff]
    intro pool hpool
    simpa using (List.mem_filter.1 hpool).2
  have hnew : (pools.filter fun pool => pool.name ∉ names).filter (fun pool => pool.name ∉ names) =
      pools.filter fun pool => pool.name ∉ names :=
    List.filter_eq_self.2 fun pool hpool => (List.mem_filter.1 hpool).2
  conv_lhs => rw [h.newLast]
  rw [List.filter_append, hknown, hnew, List.nil_append]

namespace PriorProvider

variable {prior : PriorProvider}

theorem arranges_ordered (pools : List Worker) :
    Arranges (prior.workers.map Worker.name) pools (prior.ordered pools) := by
  have hsorted := prior.pairwise_ordered pools
  simp only [decide_eq_true_eq, rank_eq_idxOf] at hsorted
  have hstable {p : Worker → Bool} (htied : ∀ a b, p a → p b → prior.rank a ≤ prior.rank b) :
      (prior.ordered pools).filter p = pools.filter p :=
    filter_mergeSort_of_tied rank_le_trans rank_le_total fun a b ha hb =>
      decide_eq_true (htied a b ha hb)
  have hnew : (prior.ordered pools).filter (fun pool => pool.name ∉ prior.workers.map Worker.name) =
      pools.filter fun pool => pool.name ∉ prior.workers.map Worker.name := by
    refine hstable fun a b ha hb => ?_
    -- names that do not exist are all placed behind the last one that does
    rw [rank_eq_idxOf, rank_eq_idxOf, List.idxOf_eq_length (of_decide_eq_true ha),
      List.idxOf_eq_length (of_decide_eq_true hb)]
  refine ⟨List.mergeSort_perm _ _, ?_, hsorted.filter _, fun name => hstable fun a b ha hb => ?_⟩
  · rw [← hnew]
    simp only [decide_not]
    refine eq_filter_append_filter_not (hsorted.imp fun {a b} hle hb => ?_)
    rw [decide_eq_true_eq, ← List.idxOf_lt_length_iff] at hb ⊢
    exact hle.trans_lt hb
  · rw [rank_eq_idxOf, rank_eq_idxOf, of_decide_eq_true ha, of_decide_eq_true hb]

end PriorProvider

/--
The pool made of a requested one. What a pool of its name has is kept where the request leaves
it open, and zones are only added.
-/
structure Worker.Renews (existing? : Option Worker) (standard : Option Json) (asked made : Worker) :
    Prop where
  rest : made = { asked with
    machine := { asked.machine with image := made.machine.image }
    zones := made.zones
    updateStrategy := made.updateStrategy
    providerConfig := made.providerConfig }
  zones : made.zones = (existing?.map Worker.zones).getD [] ++
    asked.zones.filter (· ∉ (existing?.map Worker.zones).getD [])
  updateStrategy : made.updateStrategy = asked.updateStrategy.or (existing?.bind Worker.updateStrategy)
  providerConfig : made.providerConfig =
    (asked.providerConfig.or (existing?.bind Worker.providerConfig)).or standard

theorem PriorProvider.renews_patch (prior : PriorProvider) (defaults : WorkerDefaults)
    (provider : Hyperscaler) (asked : Worker) :
    Worker.Renews (prior.worker? asked.name) (defaults.providerConfig provider) asked
      (prior.patch defaults provider asked) where
  rest := rfl
  zones := by
    cases h : prior.worker? asked.name with
    | none =>
      have hall : asked.zones.filter (· ∉ ([] : List String)) = asked.zones :=
        List.filter_eq_self.2 (by simp)
      simp only [patch, h, Option.map_none, Option.getD_none, List.nil_append, hall]
    | some existing => simp only [patch, h, Option.map_some, Option.getD_some, alignZones]
  updateStrategy := rfl
  providerConfig := (Option.or_assoc ..).symm

/-- A document of AWS pools: instance metadata only for requests that carry a session token. -/
def tokensDocument : Json := .object [
  ("apiVersion", .string "aws.provider.extensions.gardener.cloud/v1alpha1"),
  ("instanceMetadataOptions", .object [
    ("httpPutResponseHopLimit", .int 2), ("httpTokens", .string "required")]),
  ("kind", .string "WorkerConfig")]

/-- What pools are configured with when nobody says anything. -/
def Settings.poolDocument? (settings : Settings) (provider : Hyperscaler) : Option Json :=
  if provider = .aws ∧ settings.provider.aws.enableIMDSv2 = true then some tokensDocument else none

theorem canonical_tokensRequired :
    (Coded.write AwsNetwork.WorkerConfig.tokensRequired).canonical = tokensDocument := by
  decide +kernel

theorem Conversion.providerConfig_workerDefaults (settings : Settings) (provider : Hyperscaler) :
    (workerDefaults settings).providerConfig provider = settings.poolDocument? provider := by
  rw [WorkerDefaults.providerConfig, canonical_tokensRequired]
  rfl

namespace Conversion

variable {setup : Setup} {existing : ExistingShoot} {runtime : Runtime} {shoot : Shoot}

/--
A patch makes one pool of each pool of the Runtime, in the order of the existing pools, and
changes nothing in it but its image, its zones, its update strategy and its document.
-/
theorem pools_renewed (h : run ⟨setup, .patch existing⟩ runtime = .ok shoot) :
    ∃ provider arranged, runtime.hyperscaler = .ok provider ∧
      Arranges (existing.workers.map Worker.name) runtime.spec.shoot.provider.allWorkers arranged ∧
      List.Forall₂ (fun asked made => Worker.Renews
          (existing.workers.find? fun worker => worker.name == asked.name)
          (setup.settings.poolDocument? provider) asked made)
        arranged shoot.spec.provider.workers := by
  obtain ⟨-, -, provider, json, hprovider, -, -, rfl⟩ := run_eq_ok_iff.1 h
  refine ⟨provider, _, hprovider, existing.provider.arranges_ordered _, ?_⟩
  change List.Forall₂ _ _ ((existing.provider.ordered _).map _)
  rw [List.forall₂_map_right_iff, List.forall₂_same]
  intro asked _
  rw [← providerConfig_workerDefaults]
  exact existing.provider.renews_patch _ provider asked

/-! A cluster of two zones, whose second pool is listed twice, and a request for three pools. -/

def pooledSetup : Setup :=
  let settings := Lifecycle.sampleSetup.settings
  { Lifecycle.sampleSetup with settings := { settings with provider := { aws := ⟨true⟩ } } }

def samplePool (name : String) (zones : List String) : Worker where
  name := name
  machine := { type := "m6.large" }
  minimum := 1
  maximum := 3
  zones := zones

def pooledExisting : ExistingShoot where
  workers := [samplePool "gpu" ["eu-1b", "eu-1a"],
    { samplePool "main" ["eu-1b"] with updateStrategy := some .manualInPlaceUpdate },
    { samplePool "gpu" ["eu-1a"] with providerConfig := some (.bool true) }]
  infrastructureConfig := some (sampleDocument [firstEntry, secondEntry])

def pooledRuntime : Runtime :=
  let step := Lifecycle.sampleStep .aws "1.30.1" ["eu-1a"]
  let wanted := step.runtime.spec.shoot
  let shoot := { wanted with
    provider := { wanted.provider with
      additionalWorkers := some [samplePool "new" ["eu-1a"], samplePool "gpu" ["eu-1a"]] } }
  { step.runtime with spec := { step.runtime.spec with shoot } }

def pooledDocument : InfrastructureDocument := .aws {
  networks := {
    vpc := { cidr := some "10.250.0.0/22" }
    zones := [⟨"eu-1a", "10.250.0.0/25", "10.250.0.128/26", "10.250.0.192/26"⟩,
      ⟨"eu-1b", "10.250.1.0/25", "10.250.1.128/26", "10.250.1.192/26"⟩] } }

/-- The cluster has all zones that the pools ask for, in whatever order they come. -/
theorem infrastructure_pooled :
    infrastructure ⟨pooledSetup, .patch pooledExisting⟩ pooledRuntime .aws =
      .ok (sampleDocument [firstEntry, secondEntry]) := by
  have hdoc : InfrastructureDocument.decode .aws (sampleDocument [firstEntry, secondEntry]) =
      .ok pooledDocument := by decide +kernel
  refine PriorProvider.infrastructure_of_serves rfl hdoc ?_
  rw [PriorProvider.serves_iff_suffices (ordered_perm ⟨pooledSetup, .patch pooledExisting⟩ _)]
  exact .inr (.inr (by decide))

theorem pools_renewed_sample : ∃ shoot arranged,
    run ⟨pooledSetup, .patch pooledExisting⟩ pooledRuntime = .ok shoot ∧
      Arranges ["gpu", "main", "gpu"] pooledRuntime.spec.shoot.provider.allWorkers arranged ∧
      List.Forall₂ (fun asked made => Worker.Renews
          (pooledExisting.workers.find? fun worker => worker.name == asked.name)
          (some tokensDocument) asked made)
        arranged shoot.spec.provider.workers := by
  obtain ⟨shoot, hshoot⟩ : ∃ shoot,
      run ⟨pooledSetup, .patch pooledExisting⟩ pooledRuntime = .ok shoot :=
    ⟨_, run_eq_ok_iff.2 ⟨by decide, by decide, .aws, _, rfl, rfl, infrastructure_pooled, rfl⟩⟩
  obtain ⟨provider, arranged, hprovider, harranges, hpools⟩ := pools_renewed hshoot
  obtain rfl : .aws = provider := Except.ok.inj hprovider
  exact ⟨shoot, arranged, hshoot, harranges, hpools⟩

end Conversion

end ShootPlan
