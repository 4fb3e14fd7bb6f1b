import ShootPlan.Proofs.KeyedMerge
import ShootPlan.Proofs.LifecycleRun
/-!
The extensions of a Shoot. There is one of each type; those that a conversion renews are as
it makes them, and all others are those of the Shoot before.
-/
namespace ShootPlan

/-- The types of the extensions that a conversion renews. -/
def AuditLogTable.renewedTypes (table : AuditLogTable) (runtime : Runtime) : List String :=
  open ExtensionType in
  [networkFilter, cert, dns, oidc]
    ++ (if (table.tenant? runtime).isSome then [auditLog] else [])
    ++ (if runtime.spec.caching.isEmpty then [] else [registryCache])

theorem AuditLogTable.nodup_renewedTypes (table : AuditLogTable) (runtime : Runtime) :
    (table.renewedTypes runtime).Nodup := by
  unfold renewedTypes
  split_ifs <;> decide

namespace Extender

variable (secretName providerType : String) (auditLogs : AuditLogTable) (runtime : Runtime)
  (domain : String)

theorem map_key_renewed :
    (renewed secretName providerType auditLogs runtime domain).map Keyed.key =
      auditLogs.renewedTypes runtime := by
  unfold renewed AuditLogTable.renewedTypes
  rw [List.map_append, List.map_append]
  congr 1
  · congr 1
    cases auditLogs.tenant? runtime <;> rfl
  · split_ifs <;> rfl

theorem nodup_renewed :
    ((renewed secretName providerType auditLogs runtime domain).map Keyed.key).Nodup := by
  rw [map_key_renewed]
  exact auditLogs.nodup_renewedTypes runtime

end Extender

namespace Conversion

variable (c : Conversion) (runtime : Runtime)

theorem map_key_renewed :
    (c.renewed runtime).map Keyed.key = c.setup.auditLogs.renewedTypes runtime :=
  Extender.map_key_renewed ..

theorem nodup_renewed : ((c.renewed runtime).map Keyed.key).Nodup := Extender.nodup_renewed ..

theorem nodup_extensions : ((c.extensions runtime).map Keyed.key).Nodup :=
  ((c.renewed runtime).foldl KeyedList.upsert (KeyedList.ofList c.priorExtensions)).distinct

variable {c runtime} {e : Extension}

theorem mem_extensions_iff (hprior : (c.priorExtensions.map Keyed.key).Nodup) :
    e ∈ c.extensions runtime ↔
      e ∈ c.renewed runtime ∨
        e ∈ c.priorExtensions ∧ Keyed.key e ∉ (c.renewed runtime).map Keyed.key := by
  rw [extensions, KeyedList.mem_foldl_upsert_iff (nodup_renewed c runtime),
    KeyedList.ofList_items_of_nodup hprior]

end Conversion

/-- One extension of each type, and each with this property. -/
structure Shoot.ExtensionsAll (P : Extension → Prop) (shoot : Shoot) : Prop where
  distinct : (shoot.spec.extensions.map Keyed.key).Nodup
  all : ∀ e ∈ shoot.spec.extensions, P e

variable {P : Extension → Prop}

theorem Conversion.extensionsAll {c : Conversion} {runtime : Runtime} {shoot : Shoot}
    (h : c.run runtime = .ok shoot) (hrenewed : ∀ e ∈ c.renewed runtime, P e)
    (hdistinct : (c.priorExtensions.map Keyed.key).Nodup) (hprior : ∀ e ∈ c.priorExtensions, P e) :
    shoot.ExtensionsAll P := by
  obtain ⟨-, -, provider, json, -, -, -, rfl⟩ := run_eq_ok_iff.1 h
  refine ⟨nodup_extensions _ _, fun e he => ?_⟩
  rcases (mem_extensions_iff hdistinct).1 he with hnew | ⟨hold, -⟩
  · exact hrenewed e hnew
  · exact hprior e hold

/-- What holds of every extension that a conversion makes holds of all over a whole life. -/
theorem Lifecycle.extensionsAll_of_run {first : Step} {steps : List Step} {created last : Shoot}
    (hrenewed : ∀ (c : Conversion) runtime, ∀ e ∈ c.renewed runtime, P e)
    (hcreated : convert none first = .ok created) (hrun : run (some created) steps = some last) :
    last.ExtensionsAll P := by
  have hstart : created.ExtensionsAll P :=
    Conversion.extensionsAll hcreated (hrenewed _ _) .nil fun _ hmem => absurd hmem List.not_mem_nil
  exact run_invariant (fun step _ shoot next hshoot hnext =>
    Conversion.extensionsAll hnext (hrenewed _ _) hshoot.distinct hshoot.all) hstart hrun

end ShootPlan
