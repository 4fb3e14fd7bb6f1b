import ShootPlan.Proofs.ExtensionComparison
import ShootPlan.Proofs.ExtensionList
import ShootPlan.Proofs.ServiceRoundTrip
import ShootPlan.Proofs.ShootFields
/-!
What a comparison of Shoots reports: each field that differs, once and in a fixed order, and
nothing else. Shoots that are told apart by nothing pass; that is a partial equivalence, and
every Shoot that a life reaches passes against itself.
-/
namespace ShootPlan

/-- A field that is compared, with the path it is reported under. -/
structure ComparedField where
  path : String
  Same : Shoot → Shoot → Prop
  symm : ∀ {e a}, Same e a → Same a e
  trans : ∀ {e b a}, Same e b → Same b a → Same e a

namespace ComparedField

/-- A field whose values are equal or not. -/
def plain {α : Type} (path : String) (value : Shoot → α) : ComparedField where
  path := path
  Same e a := value e = value a
  symm := Eq.symm
  trans := Eq.trans

def extensions : ComparedField where
  path := "spec/Extensions"
  Same e a := SameExtensions e.spec.extensions a.spec.extensions
  symm := SameExtensions.symm
  trans := SameExtensions.trans

/-- All fields in the order of comparison. -/
def all : List ComparedField := [
  plain "metadata/name" fun s => s.metadata.name,
  plain "metadata/namespace" fun s => s.metadata.nameSpace,
  plain "metadata/labels" fun s => s.metadata.labels.getD .empty,
  plain "spec/AccessRestrictions" fun s => s.spec.accessRestrictions,
  plain "spec/CloudProfileName" fun s => s.spec.cloudProfileName,
  plain "spec/ControlPlane" fun s => s.spec.controlPlane,
  plain "spec/DNS" fun s => s.spec.dns,
  plain "spec/ExposureClassName" fun s => s.spec.exposureClassName,
  extensions,
  plain "spec/Kubernetes" fun s => s.spec.kubernetes,
  plain "spec/Maintenance" fun s => s.spec.maintenance,
  plain "spec/Networking" fun s => s.spec.networking,
  plain "spec/Provider" fun s => s.spec.provider.comparand,
  plain "spec/Purpose" fun s => s.spec.purpose,
  plain "spec/Region" fun s => s.spec.region,
  plain "spec/Resources" fun s => s.spec.resources,
  plain "spec/SecretBindingName" fun s => s.spec.secretBindingName,
  plain "spec/SeedSelector" fun s => s.spec.seedSelector,
  plain "spec/Tolerations" fun s => s.spec.tolerations]

variable {fields : List ComparedField} {expected actual : Shoot}

open scoped Classical in
/-- The paths of the fields that differ. -/
noncomputable def differing (fields : List ComparedField) (expected actual : Shoot) : List String :=
  (fields.filter fun f => ¬f.Same expected actual).map path

theorem differing_eq_nil_iff :
    differing fields expected actual = [] ↔ ∀ f ∈ fields, f.Same expected actual := by
  simp [differing]

open scoped Classical in
/-- What is reported part by part is reported of the whole. -/
theorem paths_flatten {parts : List (List Difference)}
    (h : List.Forall₂ (fun part f => part.map Difference.path =
      if f.Same expected actual then [] else [f.path]) parts fields) :
    parts.flatten.map Difference.path = differing fields expected actual := by
  induction h with
  | nil => rfl
  | @cons part f parts fields hpart _ ih =>
    rw [List.flatten_cons, List.map_append, hpart, ih, differing, differing, List.filter_cons]
    split_ifs with hsame hdiffer hdiffer <;> simp_all

end ComparedField

namespace Comparison

variable {expected actual : Shoot} {c : Comparison}

/-- What each field contributes, with the contribution of the extensions. -/
def parts (expected actual : Shoot) (extensions : List Difference) : List (List Difference) :=
  let e := expected.spec
  let a := actual.spec
  [field "metadata/name" expected.metadata.name actual.metadata.name,
    field "metadata/namespace" expected.metadata.nameSpace actual.metadata.nameSpace,
    field "metadata/labels" (expected.metadata.labels.getD .empty) (actual.metadata.labels.getD .empty),
    field "spec/AccessRestrictions" e.accessRestrictions a.accessRestrictions,
    field "spec/CloudProfileName" e.cloudProfileName a.cloudProfileName,
    field "spec/ControlPlane" e.controlPlane a.controlPlane,
    field "spec/DNS" e.dns a.dns,
    field "spec/ExposureClassName" e.exposureClassName a.exposureClassName,
    extensions,
    field "spec/Kubernetes" e.kubernetes a.kubernetes,
    field "spec/Maintenance" e.maintenance a.maintenance,
    field "spec/Networking" e.networking a.networking,
    field "spec/Provider" e.provider a.provider,
    field "spec/Purpose" e.purpose a.purpose,
    field "spec/Region" e.region a.region,
    field "spec/Resources" e.resources a.resources,
    field "spec/SecretBindingName" e.secretBindingName a.secretBindingName,
    field "spec/SeedSelector" e.seedSelector a.seedSelector,
    field "spec/Tolerations" e.tolerations a.tolerations]

theorem ofShoots_eq_ok_iff :
    ofShoots expected actual = .ok c ↔
      ∃ differences, extensions expected.spec.extensions actual.spec.extensions = .ok differences ∧
        c = ⟨(parts expected actual differences).flatten⟩ := by
  simp only [ofShoots, Outcome.bind_eq_ok_iff, Outcome.pure_eq_ok_iff]
  refine exists_congr fun differences => and_congr_right fun _ => ?_
  rw [eq_comm, parts]
  simp only [List.flatten_cons, List.flatten_nil, List.append_nil, List.append_assoc]

theorem path_field {α : Type} [Coded α] {path : String} {x y : α} {p : Prop} [Decidable p]
    (h : (Coded.write x).comparand = (Coded.write y).comparand ↔ p) :
    (field path x y).map Difference.path = if p then [] else [path] := by
  unfold field
  simp only [h]
  split_ifs <;> rfl

/-- The report has the fields that differ, each once, in the order of comparison. -/
theorem paths_eq (h : ofShoots expected actual = .ok c) :
    c.differences.map Difference.path = ComparedField.differing ComparedField.all expected actual := by
  classical
  obtain ⟨differences, hextensions, rfl⟩ := ofShoots_eq_ok_iff.1 h
  open Coded in
  exact ComparedField.paths_flatten <|
    .cons (path_field comparand_write_option_inj) <| .cons (path_field comparand_write_option_inj) <|
    .cons (path_field comparand_write_inj) <| .cons (path_field comparand_write_inj) <|
    .cons (path_field comparand_write_option_inj) <| .cons (path_field comparand_write_option_inj) <|
    .cons (path_field comparand_write_option_inj) <| .cons (path_field comparand_write_option_inj) <|
    .cons (path_extensions hextensions) <| .cons (path_field comparand_write_inj) <|
    .cons (path_field comparand_write_option_inj) <| .cons (path_field comparand_write_option_inj) <|
    .cons (path_field (ProviderBlock.comparand_write_iff _ _)) <|
    .cons (path_field comparand_write_option_inj) <| .cons (path_field comparand_write_inj) <|
    .cons (path_field comparand_write_inj) <| .cons (path_field comparand_write_option_inj) <|
    .cons (path_field comparand_write_option_inj) <| .cons (path_field comparand_write_inj) .nil

/-- The Shoots can be compared, and nothing is reported of them. -/
def Passes (expected actual : Shoot) : Prop := ∃ c, ofShoots expected actual = .ok c ∧ c.passed = true

theorem exists_ofShoots_iff :
    (∃ c, ofShoots expected actual = .ok c) ↔
      ∀ type e a, ofType expected.spec.extensions type = some e →
        ofType actual.spec.extensions type = some a → e.Comparable a := by
  rw [← exists_extensions_iff]
  exact Outcome.exists_bind_eq_ok_iff fun _ => ⟨_, rfl⟩

theorem exists_ofShoots_comm :
    (∃ c, ofShoots expected actual = .ok c) ↔ ∃ c, ofShoots actual expected = .ok c := by
  rw [exists_ofShoots_iff, exists_ofShoots_iff]
  exact ⟨fun h type e a he ha => (h type a e ha he).symm, fun h type e a he ha => (h type a e ha he).symm⟩

theorem exists_error_iff :
    (∃ error, ofShoots expected actual = .error error) ↔ ¬∃ c, ofShoots expected actual = .ok c :=
  Outcome.exists_eq_error_iff

/-- Extensions that are the same can be compared, so all that counts is that the fields are. -/
theorem passes_iff : Passes expected actual ↔ ∀ f ∈ ComparedField.all, f.Same expected actual := by
  have hpassed {c : Comparison} (h : ofShoots expected actual = .ok c) :
      c.passed = true ↔ ∀ f ∈ ComparedField.all, f.Same expected actual := by
    rw [← ComparedField.differing_eq_nil_iff, ← paths_eq h, List.map_eq_nil_iff, passed,
      List.isEmpty_iff]
  constructor
  · rintro ⟨c, hc, hnothing⟩
    exact (hpassed hc).1 hnothing
  · intro hsame
    have hextensions : SameExtensions expected.spec.extensions actual.spec.extensions :=
      hsame ComparedField.extensions (by simp [ComparedField.all])
    obtain ⟨c, hc⟩ := exists_ofShoots_iff.2 hextensions.comparable
    exact ⟨c, hc, (hpassed hc).2 hsame⟩

theorem Passes.symm (h : Passes expected actual) : Passes actual expected :=
  passes_iff.2 fun f hf => f.symm (passes_iff.1 h f hf)

theorem Passes.trans {other : Shoot} (h : Passes expected actual) (h' : Passes actual other) :
    Passes expected other :=
  passes_iff.2 fun f hf => f.trans (passes_iff.1 h f hf) (passes_iff.1 h' f hf)

end Comparison

/-- What the document of one of the garden's own extensions has to be. -/
structure Extension.ConfiguredBy (e : Extension) (json : Json) : Prop where
  dns : e.type = ExtensionType.dns → ∃ config : DnsConfig, Coded.read json = .ok config
  cert : e.type = ExtensionType.cert → ∃ config : CertConfig, Coded.read json = .ok config
  auditLog : e.type = ExtensionType.auditLog → ∃ config : AuditLogConfig, Coded.read json = .ok config
  registryCache :
    e.type = ExtensionType.registryCache → ∃ config : RegistryConfig, Coded.read json = .ok config

/-- The Shoot can be compared: it has each extension once, and known documents are readable. -/
structure Shoot.Comparable (shoot : Shoot) : Prop where
  distinct : (shoot.spec.extensions.map Extension.type).Nodup
  configured : ∀ e ∈ shoot.spec.extensions, ∀ json ∈ e.providerConfig, e.ConfiguredBy json

theorem ServiceDocument.exists_read_iff {e : Extension} {json : Json} :
    (∃ document, read e.type json = .ok document) ↔ e.ConfiguredBy json := by
  unfold read
  split_ifs with hdns hcert hauditLog hcache
  · rw [Outcome.exists_map_eq_ok_iff]
    refine ⟨fun h => ⟨fun _ => h, ?_, ?_, ?_⟩, fun h => h.dns hdns⟩ <;>
      exact fun htype => absurd (hdns.symm.trans htype) (by decide)
  · rw [Outcome.exists_map_eq_ok_iff]
    refine ⟨fun h => ⟨?_, fun _ => h, ?_, ?_⟩, fun h => h.cert hcert⟩ <;>
      exact fun htype => absurd (hcert.symm.trans htype) (by decide)
  · rw [Outcome.exists_map_eq_ok_iff]
    refine ⟨fun h => ⟨?_, ?_, fun _ => h, ?_⟩, fun h => h.auditLog hauditLog⟩ <;>
      exact fun htype => absurd (hauditLog.symm.trans htype) (by decide)
  · rw [Outcome.exists_map_eq_ok_iff]
    refine ⟨fun h => ⟨?_, ?_, ?_, fun _ => h⟩, fun h => h.registryCache hcache⟩ <;>
      exact fun htype => absurd (hcache.symm.trans htype) (by decide)
  · exact ⟨fun _ => ⟨fun h => absurd h hdns, fun h => absurd h hcert, fun h => absurd h hauditLog,
      fun h => absurd h hcache⟩, fun _ => ⟨_, rfl⟩⟩

theorem Extension.decodes_iff {e : Extension} :
    e.Decodes ↔ ∀ json ∈ e.providerConfig, e.ConfiguredBy json := by
  unfold Decodes document?
  cases e.providerConfig with
  | none => simp
  | some json =>
    rw [Outcome.exists_map_eq_ok_iff, ServiceDocument.exists_read_iff]
    simp

theorem Comparison.passes_self_iff {shoot : Shoot} : Passes shoot shoot ↔ shoot.Comparable := by
  have hself : Passes shoot shoot ↔ SameExtensions shoot.spec.extensions shoot.spec.extensions := by
    rw [passes_iff]
    simp [ComparedField.all, ComparedField.plain, ComparedField.extensions]
  rw [hself, SameExtensions.self_iff]
  simp only [Extension.decodes_iff]
  exact ⟨fun h => ⟨h.1, h.2⟩, fun h => ⟨h.distinct, h.configured⟩⟩

namespace Extension

variable {α : Type} [Coded α] {type : String} {config : α}

theorem decodes_plain (type : String) (disabled : Bool) : (plain type disabled).Decodes := ⟨none, rfl⟩

theorem decodes_configured {wrap : α → ServiceDocument}
    (hread : ∀ json, ServiceDocument.read type json = (Coded.read json).map wrap)
    (h : Coded.Faithful config) : (configured type config).Decodes := by
  refine ⟨some (wrap config), (document?_eq_ok_iff rfl).2 ⟨wrap config, ?_, rfl⟩⟩
  exact (hread _).trans (Outcome.map_eq_ok_iff.2 ⟨config, h.read_write, rfl⟩)

end Extension

/-- Every extension that a conversion makes has a document of its kind. -/
theorem Conversion.decodes_renewed (c : Conversion) (runtime : Runtime) :
    ∀ e ∈ c.renewed runtime, e.Decodes := by
  intro e he
  simp only [renewed, Extender.renewed, List.mem_append, List.mem_cons, List.not_mem_nil, or_false,
    Option.mem_toList, Option.map_eq_some_iff] at he
  rcases he with ((rfl | rfl | rfl | rfl) | ⟨tenant, -, rfl⟩) | hcache
  · exact Extension.decodes_plain _ _
  · exact Extension.decodes_configured (fun _ => rfl) (CertConfig.faithful _)
  · exact Extension.decodes_configured (fun _ => rfl) (DnsConfig.faithful _)
  · exact Extension.decodes_plain _ _
  · exact Extension.decodes_configured (fun _ => rfl) (AuditLogConfig.faithful _)
  · split_ifs at hcache
    · exact absurd hcache List.not_mem_nil
    · obtain rfl := List.mem_singleton.1 hcache
      exact Extension.decodes_configured (fun _ => rfl) (RegistryConfig.faithful _)

theorem Lifecycle.comparable_of_run {first : Step} {steps : List Step} {created last : Shoot}
    (hcreated : convert none first = .ok created) (hrun : run (some created) steps = some last) :
    last.Comparable := by
  obtain ⟨hdistinct, hall⟩ := extensionsAll_of_run Conversion.decodes_renewed hcreated hrun
  exact ⟨hdistinct, fun e he => Extension.decodes_iff.1 (hall e he)⟩

namespace Comparison

/--
A comparison that succeeds reports the fields that differ, each once and in order, and nothing
else. So passing is symmetric and transitive, failing does not depend on the order of the
Shoots, and a Shoot passes against itself when it has each extension once with a document
that can be read, which every Shoot that is reached from a new cluster has.
-/
theorem sound_and_complete :
    (∀ expected actual c, ofShoots expected actual = .ok c →
      c.differences.map Difference.path = ComparedField.differing ComparedField.all expected actual) ∧
    (∀ a b, Passes a b → Passes b a) ∧
    (∀ a b c, Passes a b → Passes b c → Passes a c) ∧
    (∀ a b, (∃ error, ofShoots a b = .error error) ↔ ∃ error, ofShoots b a = .error error) ∧
    (∀ shoot, Passes shoot shoot ↔ shoot.Comparable) ∧
    ∀ first steps created last, Lifecycle.convert none first = .ok created →
      Lifecycle.run (some created) steps = some last → last.Comparable := by
  refine ⟨fun _ _ _ => paths_eq, fun _ _ => Passes.symm, fun _ _ _ => Passes.trans, fun a b => ?_,
    fun _ => passes_self_iff, fun _ _ _ _ => Lifecycle.comparable_of_run⟩
  rw [exists_error_iff, exists_error_iff, exists_ofShoots_comm]

/-- A Shoot that has been asked for a second zone, compared with itself. -/
theorem sound_and_complete_sample : ∃ created last c,
    Lifecycle.convert none (Lifecycle.sampleStep .aws "1.30.1" ["eu-1a"]) = .ok created ∧
      Lifecycle.run (some created) [Lifecycle.sampleStep .aws "1.30.1" ["eu-1a", "eu-1b"]] = some last ∧
      ofShoots last last = .ok c ∧
      c.differences.map Difference.path = ComparedField.differing ComparedField.all last last ∧
      Passes last last := by
  obtain ⟨created, hcreated⟩ : ∃ created,
      Lifecycle.convert none (Lifecycle.sampleStep .aws "1.30.1" ["eu-1a"]) = .ok created :=
    ⟨_, by rfl⟩
  obtain ⟨last, hlast⟩ :=
    Lifecycle.exists_run_eq_some created [Lifecycle.sampleStep .aws "1.30.1" ["eu-1a", "eu-1b"]]
  obtain ⟨hreport, hsymm, htrans, -, hself, hreached⟩ := sound_and_complete
  have hcomparable : last.Comparable := hreached _ _ created last hcreated hlast
  have hpasses : Passes last last := (hself last).2 hcomparable
  obtain ⟨c, hc, -⟩ := (hself last).2 hcomparable
  exact ⟨created, last, c, hcreated, hlast, hc, hreport last last c hc,
    htrans last last last hpasses (hsymm last last hpasses)⟩

end Comparison

end ShootPlan
