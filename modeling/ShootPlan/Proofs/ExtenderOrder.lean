import ShootPlan.Proofs.ExtenderParts
import ShootPlan.Proofs.LifecycleRun
/-!
The order of the extenders. Each has a footprint of its own, and only the extensions go by what
another one sets, the domain of the cluster. As long as that comes first, any order gives the
same Shoot.
-/
namespace ShootPlan

namespace Extender

variable {runtime : Runtime}

theorem extensions_within (secretName providerType : String) (auditLogs : AuditLogTable) :
    (extensions secretName providerType auditLogs).Within runtime
      { reads := [.dns], writes := [.extensions] } := by
  refine (extensions_puts runtime secretName providerType auditLogs).within
    fun other hother value shoot => ?_
  have hdns : Part.dns.get (other.set value shoot) = Part.dns.get shoot :=
    Part.get_set_of_ne (fun heq => hother (by simp [← heq])) value shoot
  have hold : Part.extensions.get (other.set value shoot) = Part.extensions.get shoot :=
    Part.get_set_of_ne (fun heq => hother (by simp [← heq])) value shoot
  simp only [Part.get] at hdns hold
  rw [hdns, hold]

theorem auditLog_within (policyConfigMapName : String) (auditLogs : AuditLogTable)
    (existing : Option AuditConfig) :
    (auditLog policyConfigMapName auditLogs existing).Within runtime
      { writes := [.auditConfig, .resources] } where
  ignores other hother value shoot := by
    have hpolicy : Part.auditConfig ≠ other := fun heq => hother (by simp [Footprint.uses, ← heq])
    have hcredentials : Part.resources ≠ other := fun heq => hother (by simp [Footprint.uses, ← heq])
    have hold : (other.set value shoot).spec.resources = shoot.spec.resources :=
      Part.get_set_of_ne hcredentials value shoot
    rw [auditLog_apply_eq, auditLog_apply_eq, hold, Part.put_set_of_ne hpolicy,
      Part.put_set_of_ne hcredentials]
    rfl
  sets {shoot next} h := by
    rw [auditLog_apply_eq] at h
    exact ⟨_, .comp (.put (by simp) _) (.put (by simp) _), (Except.ok.inj h).symm⟩

end Extender

theorem Conversion.providerExtender_within (c : Conversion) (runtime : Runtime) :
    c.providerExtender.Within runtime { writes := [.provider] } := by
  obtain ⟨setup, mode⟩ := c
  cases mode with
  | create => exact (Extender.providerCreate_updates runtime _).within
  | patch existing => exact (Extender.providerPatch_updates runtime _ existing.provider).within

namespace Extender

/-- The first sets the domain that the second one needs. -/
def Feeds (first second : Extender) : Prop := first.name = "dns" ∧ second.name = "extensions"

/-- The order of the two makes no difference, unless one feeds the other. -/
def Loose (runtime : Runtime) (a b : Extender) : Prop :=
  Independent runtime a b ∨ a.Feeds b ∨ b.Feeds a

instance (runtime : Runtime) : Std.Symm (Loose runtime) where
  symm _ _ h := h.imp Independent.symm Or.symm

end Extender

/-- Without repetitions no two names come in both orders. -/
theorem not_sublist_of_sublist {names : List String} {first second : String} (hnodup : names.Nodup)
    (h : [first, second].Sublist names) : ¬[second, first].Sublist names := by
  induction names with
  | nil => cases h
  | cons name names ih =>
    rw [List.nodup_cons] at hnodup
    intro hswapped
    cases h with
    | cons _ h =>
      cases hswapped with
      | cons _ hswapped => exact ih hnodup.2 h hswapped
      | cons_cons _ _ => exact hnodup.1 (h.subset (by simp))
    | cons_cons _ h =>
      have hsecond : second ∈ names := h.subset (List.mem_singleton_self second)
      cases hswapped with
      | cons _ hswapped => exact hnodup.1 (hswapped.subset (by simp))
      | cons_cons _ _ => exact hnodup.1 hsecond

/-- An extender with what is known of where it works. -/
structure Framed (runtime : Runtime) where
  extender : Extender
  footprint : Footprint
  within : extender.Within runtime footprint

namespace Conversion

def framed (c : Conversion) (runtime : Runtime) : List (Framed runtime) :=
  open Extender in [
    ⟨_, _, (annotations_updates runtime).within⟩,
    ⟨_, _, (labels_updates runtime).within⟩,
    ⟨_, _, (kubernetes_updates runtime c.setup.settings.kubernetes.defaultVersion
      (c.mode.existing?.map ExistingShoot.kubernetesVersion)).within⟩,
    ⟨_, _, (dns_updates runtime c.setup.settings.dns.domainPrefix).within⟩,
    ⟨_, _, (oidc_updates runtime c.setup.settings.kubernetes.defaultOperatorOidc).within⟩,
    ⟨_, _, (cloudProfile_updates runtime).within⟩,
    ⟨_, _, (accessRestrictions_updates runtime).within⟩,
    ⟨_, _, extensions_within c.setup.settings.dns.secretName c.setup.settings.dns.providerType
      c.setup.auditLogs⟩,
    ⟨_, _, (exposureClass_updates runtime).within⟩,
    ⟨_, _, (tolerations_updates runtime).within⟩,
    ⟨_, _, (seedSelector_updates runtime).within⟩,
    ⟨_, _, (maintenance_updates runtime c.setup.settings.kubernetes.enableKubernetesVersionAutoUpdate
      c.setup.settings.kubernetes.enableMachineImageVersionAutoUpdate c.setup.windows).within⟩,
    ⟨_, _, (tokenExpiration_updates runtime).within⟩,
    ⟨_, _, auditLog_within c.setup.settings.auditLogging.policyConfigMapName c.setup.auditLogs
      (c.mode.existing?.bind ExistingShoot.auditConfig)⟩,
    ⟨_, _, c.providerExtender_within runtime⟩]

/-- The names of the extenders, and where they work. -/
def footprints : List (String × Footprint) := [
  ("annotations", { writes := [.annotations] }),
  ("labels", { writes := [.labels] }),
  ("kubernetes", { writes := [.version] }),
  ("dns", { writes := [.dns] }),
  ("oidc", { writes := [.oidcConfig] }),
  ("cloud-profile", { writes := [.cloudProfile] }),
  ("access-restrictions", { writes := [.accessRestrictions] }),
  ("extensions", { reads := [.dns], writes := [.extensions] }),
  ("exposure-class", { writes := [.exposureClass] }),
  ("tolerations", { writes := [.tolerations] }),
  ("seed-selector", { writes := [.seedSelector] }),
  ("maintenance", { writes := [.maintenance] }),
  ("token-expiration", { writes := [.serviceAccountConfig] }),
  ("audit-log", { writes := [.auditConfig, .resources] }),
  ("provider", { writes := [.provider] })]

theorem footprints_separate : footprints.Pairwise fun a b =>
    a.2.Separate b.2 ∨ (a.1 = "dns" ∧ b.1 = "extensions") := by decide

theorem map_extender_framed (c : Conversion) (runtime : Runtime) :
    (c.framed runtime).map Framed.extender = c.extenders := rfl

theorem map_footprint_framed (c : Conversion) (runtime : Runtime) :
    (c.framed runtime).map (fun framed => (framed.extender.name, framed.footprint)) = footprints := by
  simp only [framed, List.map_cons, providerExtender_name]
  rfl

variable {c : Conversion} {runtime : Runtime} {reordered : List Extender}

theorem map_name_extenders : c.extenders.map Extender.name = footprints.map Prod.fst := by
  simp only [extenders, List.map_cons, providerExtender_name]
  rfl

theorem nodup_names : (c.extenders.map Extender.name).Nodup := by
  rw [map_name_extenders]
  decide

theorem extenders_pairwise : c.extenders.Pairwise fun a b =>
    Extender.Independent runtime a b ∨ a.Feeds b := by
  have hframed : (c.framed runtime).Pairwise fun a b =>
      a.footprint.Separate b.footprint ∨ a.extender.Feeds b.extender := by
    have htable := footprints_separate
    rw [← map_footprint_framed c runtime, List.pairwise_map] at htable
    exact htable
  rw [← map_extender_framed c runtime, List.pairwise_map]
  refine hframed.imp fun {a b} h => ?_
  rcases h with hseparate | hfeeds
  · exact .inl (a.within.independent b.within hseparate)
  · exact .inr hfeeds

theorem loose_of_mem {a b : Extender} (ha : a ∈ c.extenders) (hb : b ∈ c.extenders) (hne : a ≠ b) :
    Extender.Loose runtime a b := by
  have hloose : c.extenders.Pairwise (Extender.Loose runtime) :=
    extenders_pairwise.imp fun h => h.imp_right Or.inl
  exact hloose.forall ha hb hne

/--
A conversion gives the same with its extenders in any other order, as long as the domain is set
before the extensions.
-/
theorem run_reordered_iff (hperm : reordered.Perm c.extenders)
    (hdns : ["dns", "extensions"].Sublist (reordered.map Extender.name)) (shoot : Shoot) :
    Extender.applyAll runtime reordered (c.seed runtime) = .ok shoot ↔ c.run runtime = .ok shoot := by
  have hnodup : (reordered.map Extender.name).Nodup :=
    (hperm.map Extender.name).nodup_iff.2 nodup_names
  have hkept : reordered.Pairwise fun a b => ¬b.Feeds a := by
    rw [List.pairwise_iff_forall_sublist]
    rintro a b hsublist ⟨hb, ha⟩
    refine not_sublist_of_sublist hnodup hdns ?_
    rw [← ha, ← hb]
    exact hsublist.map Extender.name
  exact Extender.applyAll_reordered hperm extenders_pairwise hkept

/-! The sample is created with all extenders after the extensions in front, the last one first. -/

def sampleCreate : Conversion := ⟨Lifecycle.sampleSetup, .create⟩

def sampleReordered : List Extender :=
  (sampleCreate.extenders.drop 8).reverse ++ sampleCreate.extenders.take 8

theorem run_reordered_iff_sample : ∃ shoot,
    sampleReordered.Perm sampleCreate.extenders ∧
      ["dns", "extensions"].Sublist (sampleReordered.map Extender.name) ∧
      sampleCreate.run (Lifecycle.sampleStep .openstack "1.30.1" ["a"]).runtime = .ok shoot ∧
      Extender.applyAll (Lifecycle.sampleStep .openstack "1.30.1" ["a"]).runtime sampleReordered
        (sampleCreate.seed (Lifecycle.sampleStep .openstack "1.30.1" ["a"]).runtime) = .ok shoot := by
  have hperm : sampleReordered.Perm sampleCreate.extenders := by
    refine ((List.reverse_perm _).append_right _).trans (List.perm_append_comm.trans ?_)
    rw [List.take_append_drop]
  have hdns : ["dns", "extensions"].Sublist (sampleReordered.map Extender.name) := by decide
  obtain ⟨shoot, hshoot⟩ : ∃ shoot,
      sampleCreate.run (Lifecycle.sampleStep .openstack "1.30.1" ["a"]).runtime = .ok shoot := ⟨_, by rfl⟩
  exact ⟨shoot, hperm, hdns, hshoot, (run_reordered_iff hperm hdns shoot).2 hshoot⟩

def extensionsExtender (c : Conversion) : Extender :=
  .extensions c.setup.settings.dns.secretName c.setup.settings.dns.providerType c.setup.auditLogs

theorem extensionsExtender_mem : c.extensionsExtender ∈ c.extenders := by
  simp [extenders, extensionsExtender]

/-- With the extensions before the domain there is no Shoot at all. -/
theorem run_reordered_fails (hperm : reordered.Perm c.extenders)
    (hextensions : ["extensions", "dns"].Sublist (reordered.map Extender.name)) (shoot : Shoot) :
    Extender.applyAll runtime reordered (c.seed runtime) ≠ .ok shoot := by
  have hnodup : (reordered.map Extender.name).Nodup :=
    (hperm.map Extender.name).nodup_iff.2 nodup_names
  obtain ⟨earlier, later, rfl⟩ := List.append_of_mem (hperm.mem_iff.2 extensionsExtender_mem)
  have hindependent (other : Extender) (hother : other ∈ earlier) :
      Extender.Independent runtime other c.extensionsExtender := by
    have hsublist : [other, c.extensionsExtender].Sublist (earlier ++ c.extensionsExtender :: later) :=
      (List.singleton_sublist.2 hother).append (List.singleton_sublist.2 List.mem_cons_self)
    have hnames : [other.name, "extensions"].Sublist
        ((earlier ++ c.extensionsExtender :: later).map Extender.name) := hsublist.map Extender.name
    have hdns : other.name ≠ "dns" := fun hname =>
      not_sublist_of_sublist hnodup hextensions (hname ▸ hnames)
    have hself : other.name ≠ "extensions" := fun hname =>
      not_sublist_of_sublist hnodup (hname ▸ hnames) (hname ▸ hnames)
    have hall : other ∈ c.extenders := hperm.subset (List.mem_append_left _ hother)
    rcases loose_of_mem hall extensionsExtender_mem (fun heq => hself (heq ▸ rfl)) with h | h | h
    · exact h
    · exact absurd h.1 hdns
    · exact absurd h.2 hself
  -- so the extensions may as well come first of all, where they find no domain
  rw [ne_eq, Extender.applyAll_move_first hindependent, Extender.applyAll_cons_eq_ok_iff]
  rintro ⟨next, hnext, -⟩
  cases hnext

end Conversion

end ShootPlan
