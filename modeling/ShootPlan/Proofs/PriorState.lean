import ShootPlan.Proofs.AuditLogging
/-!
What an existing Shoot has a say in. Two conversions of one Runtime with one setup may start
from different Shoots, or one of them from none: outside the parts that are there to be kept
their Shoots are the same.
-/
namespace ShootPlan

namespace Shoot

/-- The Shoot without the parts that a conversion takes over from an existing one. -/
def renewedParts (shoot : Shoot) : Shoot :=
  let spec := shoot.spec
  { shoot with spec := { spec with
      extensions := []
      resources := []
      kubernetes := {
        version := ""
        apiServer := spec.kubernetes.apiServer.map fun server => { server with auditConfig := none } }
      provider := { type := spec.provider.type, workersSettings := spec.provider.workersSettings } } }

def resourcesNamed (shoot : Shoot) (name : String) : List NamedResource :=
  shoot.spec.resources.filter fun resource => resource.name == name

end Shoot

namespace Conversion

variable {c c' : Conversion} {runtime : Runtime} {shoot shoot' : Shoot} {tenant : Tenant}

theorem renewedParts_outcome (hsetup : c.setup = c'.setup) (provider : Hyperscaler) (doc doc' : Json) :
    (c.outcome runtime provider doc).renewedParts = (c'.outcome runtime provider doc').renewedParts := by
  simp only [Shoot.renewedParts, outcome, domain, apiServer, oidcConfig, chosenOidc, maintenance, block,
    hsetup]
  rfl

theorem auditConfig?_of_tenant (htenant : c.tenant? runtime = some tenant)
    (h : c.run runtime = .ok shoot) : shoot.auditConfig? = some c.auditPolicy := by
  obtain ⟨-, -, provider, doc, -, -, -, rfl⟩ := run_eq_ok_iff.1 h
  change c.auditConfig runtime = _
  rw [auditConfig, htenant]

/-- Whatever was there, the credentials are the tenant's and no others. -/
theorem credentials_of_tenant (htenant : c.tenant? runtime = some tenant)
    (h : c.run runtime = .ok shoot) :
    shoot.resourcesNamed auditLogCredentials = [credentials tenant] := by
  obtain ⟨-, -, provider, doc, -, -, -, rfl⟩ := run_eq_ok_iff.1 h
  change (c.resources runtime).filter _ = _
  rw [resources, htenant]
  have hdistinct := ((KeyedList.ofList c.priorResources).upsert (credentials tenant)).distinct
  have hmem := KeyedList.mem_upsert_self (KeyedList.ofList c.priorResources) (credentials tenant)
  exact filter_key_eq_of_mem hdistinct hmem

/--
Two conversions of one Runtime, over whatever is there, agree on all that is renewed. With a
tenant for its region audit logging is renewed as well.
-/
theorem prior_state_confined (hsetup : c.setup = c'.setup) (h : c.run runtime = .ok shoot)
    (h' : c'.run runtime = .ok shoot') :
    shoot.renewedParts = shoot'.renewedParts ∧
      ((c.tenant? runtime).isSome →
        shoot.auditConfig? = shoot'.auditConfig? ∧
        shoot.resourcesNamed auditLogCredentials = shoot'.resourcesNamed auditLogCredentials) := by
  constructor
  · obtain ⟨-, -, provider, doc, hprovider, -, -, rfl⟩ := run_eq_ok_iff.1 h
    obtain ⟨-, -, provider', doc', hprovider', -, -, rfl⟩ := run_eq_ok_iff.1 h'
    obtain rfl : provider = provider' := Except.ok.inj (hprovider.symm.trans hprovider')
    exact renewedParts_outcome hsetup provider doc doc'
  · intro hsome
    obtain ⟨tenant, htenant⟩ := Option.isSome_iff_exists.1 hsome
    have htenant' : c'.tenant? runtime = some tenant := by rwa [tenant?, ← hsetup]
    rw [auditConfig?_of_tenant htenant h, auditConfig?_of_tenant htenant' h',
      credentials_of_tenant htenant h, credentials_of_tenant htenant' h', auditPolicy, auditPolicy,
      hsetup]
    exact ⟨rfl, rfl⟩

/-- An existing Shoot with an empty policy and credentials of its own. -/
def sampleKept : ExistingShoot where
  resources := [⟨auditLogCredentials, ⟨"v1", "Secret", "old-secret"⟩⟩]
  auditConfig := some {}

open Lifecycle (auditedStep) in
theorem prior_state_confined_sample : ∃ shoot shoot',
    run ⟨(auditedStep ["a"]).setup, .create⟩ (auditedStep ["a"]).runtime = .ok shoot ∧
    run ⟨(auditedStep ["a"]).setup, .patch sampleKept⟩ (auditedStep ["a"]).runtime = .ok shoot' ∧
    shoot.renewedParts = shoot'.renewedParts ∧ shoot.auditConfig? = shoot'.auditConfig? ∧
    shoot.resourcesNamed auditLogCredentials = shoot'.resourcesNamed auditLogCredentials := by
  obtain ⟨shoot, hshoot⟩ : ∃ shoot,
      run ⟨(auditedStep ["a"]).setup, .create⟩ (auditedStep ["a"]).runtime = .ok shoot := ⟨_, by rfl⟩
  obtain ⟨shoot', hshoot'⟩ : ∃ shoot', run ⟨(auditedStep ["a"]).setup, .patch sampleKept⟩
      (auditedStep ["a"]).runtime = .ok shoot' :=
    ⟨_, run_eq_ok_iff.2 ⟨by decide, by decide, .openstack, _, rfl, rfl,
      (infrastructure_of_one_pool _ _ rfl).trans rfl, rfl⟩⟩
  obtain ⟨hparts, haudit⟩ := prior_state_confined (by rfl) hshoot hshoot'
  exact ⟨shoot, shoot', hshoot, hshoot', hparts, haudit (by decide)⟩

end Conversion

end ShootPlan
