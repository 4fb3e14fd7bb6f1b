import ShootPlan.Proofs.DocumentForms
import ShootPlan.Proofs.LifecycleRun
import ShootPlan.Proofs.Provenance
import ShootPlan.Proofs.RuntimeRoundTrip
/-!
Shoots, Runtimes and settings survive being written and read, and so does whatever was read: its
documents are parts of the JSON that it was read from.
-/
namespace ShootPlan

open ShootPlan.Coded ShootPlan.Field

theorem ManagedFields.isDocument_of_decoded {managed : ManagedFields} (h : Decoded managed) :
    ∀ doc ∈ managed.documents, IsDocument doc := by
  obtain ⟨-, -, hfields, -⟩ := Record.sourced_split (by decide) (fun _ => rfl) h
  rw [documents, List.forall_mem_map]
  intro fields hmem
  obtain ⟨part, hnull, hpart, hread⟩ :=
    exists_of_sourced_optional hfields fields (Option.mem_toList.1 hmem)
  obtain rfl : FieldSet.mk part = fields := Except.ok.inj hread
  exact ⟨hnull, hpart⟩

theorem Metadata.isDocument_of_decoded {metadata : Metadata} (h : Decoded metadata) :
    ∀ doc ∈ metadata.documents, IsDocument doc := by
  obtain ⟨-, -, -, -, -, -, -, -, hmanaged, -⟩ := Record.sourced_split (by decide) (fun _ => rfl) h
  rw [documents, List.forall_mem_flatMap, forall_mem_getD_nil]
  exact fun notes hnotes managed hmem => ManagedFields.isDocument_of_decoded
    (decoded_of_mem (decoded_optional hmanaged notes hnotes) managed hmem)

theorem Worker.isDocument_of_decoded {worker : Worker} (h : Decoded worker) :
    ∀ doc ∈ worker.documents, IsDocument doc := by
  obtain ⟨-, -, -, -, -, -, -, -, hconfig, -⟩ := Record.sourced_split (by decide) (fun _ => rfl) h
  exact fun doc hdoc => isDocument_of_sourced hconfig doc (Option.mem_toList.1 hdoc)

theorem Extension.isDocument_of_decoded {e : Extension} (h : Decoded e) :
    ∀ doc ∈ e.documents, IsDocument doc := by
  obtain ⟨-, hconfig, -⟩ := Record.sourced_split (by decide) (fun _ => rfl) h
  exact fun doc hdoc => isDocument_of_sourced hconfig doc (Option.mem_toList.1 hdoc)

theorem ProviderBlock.isDocument_of_decoded {block : ProviderBlock} (h : Decoded block) :
    ∀ doc ∈ block.documents, IsDocument doc := by
  obtain ⟨-, hcontrolPlane, hinfrastructure, hworkers, -⟩ :=
    Record.sourced_split (by decide) (fun _ => rfl) h
  simp only [documents, List.forall_mem_append, List.forall_mem_flatMap, Option.mem_toList]
  exact ⟨⟨isDocument_of_sourced hcontrolPlane, isDocument_of_sourced hinfrastructure⟩,
    fun worker hworker =>
      Worker.isDocument_of_decoded (decoded_of_mem_defaulted hworkers worker hworker)⟩

theorem Shoot.isDocument_of_decoded {shoot : Shoot} (h : Decoded shoot) :
    ∀ doc ∈ shoot.documents, IsDocument doc := by
  obtain ⟨hmetadata, hspec, -⟩ := Record.sourced_split (by decide) (fun _ => rfl) h
  obtain ⟨-, -, -, -, -, hextensions, -, -, -, hprovider, -⟩ :=
    Record.sourced_split (by decide) (fun _ => rfl) (decoded_required hspec)
  simp only [documents, List.forall_mem_append, List.forall_mem_flatMap]
  exact ⟨⟨Metadata.isDocument_of_decoded (decoded_required hmetadata),
    fun e he => Extension.isDocument_of_decoded (decoded_of_mem_sparse hextensions e he)⟩,
    ProviderBlock.isDocument_of_decoded (decoded_required hprovider)⟩

theorem RuntimeProvider.isDocument_of_decoded {provider : RuntimeProvider} (h : Decoded provider) :
    ∀ doc ∈ provider.documents, IsDocument doc := by
  obtain ⟨-, hworkers, hadditional, hinfrastructure, hcontrolPlane, -⟩ :=
    Record.sourced_split (by decide) (fun _ => rfl) h
  simp only [documents, List.forall_mem_append, List.forall_mem_flatMap, Option.mem_toList,
    forall_mem_getD_nil]
  exact ⟨⟨⟨fun worker hworker => Worker.isDocument_of_decoded
      (decoded_of_mem (decoded_required hworkers) worker hworker),
    fun workers hsome worker hworker => Worker.isDocument_of_decoded
      (decoded_of_mem (decoded_optional hadditional workers hsome) worker hworker)⟩,
    isDocument_of_sourced hinfrastructure⟩, isDocument_of_sourced hcontrolPlane⟩

theorem Runtime.isDocument_of_decoded {runtime : Runtime} (h : Decoded runtime) :
    ∀ doc ∈ runtime.documents, IsDocument doc := by
  obtain ⟨hmetadata, hspec, -⟩ := Record.sourced_split (by decide) (fun _ => rfl) h
  obtain ⟨hshoot, -⟩ := Record.sourced_split (by decide) (fun _ => rfl) (decoded_required hspec)
  obtain ⟨-, -, -, -, -, -, -, -, hprovider, -⟩ :=
    Record.sourced_split (by decide) (fun _ => rfl) (decoded_required hshoot)
  rw [documents, List.forall_mem_append]
  exact ⟨Metadata.isDocument_of_decoded (decoded_required hmetadata),
    RuntimeProvider.isDocument_of_decoded (decoded_required hprovider)⟩

/--
Shoots and Runtimes are read back as they were written if their times are and their documents are
not null, and what is written of one that was read from JSON is read as the same. Settings are
always read back.
-/
theorem objects_read_back :
    (∀ shoot : Shoot, (∀ time ∈ shoot.metadata.times, Faithful time) →
      (∀ doc ∈ shoot.documents, IsDocument doc) →
      Coded.read (Coded.write shoot).canonical = .ok shoot) ∧
    (∀ runtime : Runtime, (∀ time ∈ runtime.metadata.times, Faithful time) →
      (∀ time ∈ runtime.lastReconciled?, Faithful time) →
      (∀ doc ∈ runtime.documents, IsDocument doc) →
      Coded.read (Coded.write runtime).canonical = .ok runtime) ∧
    (∀ (json : Json) (shoot : Shoot), json.canonical = json → Coded.read json = .ok shoot →
      (∀ time ∈ shoot.metadata.times, Faithful time) →
      Coded.read (Coded.write shoot).canonical = .ok shoot) ∧
    (∀ (json : Json) (runtime : Runtime), json.canonical = json → Coded.read json = .ok runtime →
      (∀ time ∈ runtime.metadata.times, Faithful time) →
      (∀ time ∈ runtime.lastReconciled?, Faithful time) →
      Coded.read (Coded.write runtime).canonical = .ok runtime) ∧
    Coded.ReadsBack Settings := by
  refine ⟨fun shoot htimes h => (Shoot.faithful htimes h).read_write,
    fun runtime htimes htime h => (Runtime.faithful htimes htime h).read_write,
    fun json shoot hjson hread htimes => ?_,
    fun json runtime hjson hread htimes htime => ?_, .of_faithful Settings.faithful⟩
  · exact (Shoot.faithful htimes (Shoot.isDocument_of_decoded ⟨json, hjson, hread⟩)).read_write
  · exact (Runtime.faithful htimes htime
      (Runtime.isDocument_of_decoded ⟨json, hjson, hread⟩)).read_write

/-! The samples have texts, maps and lists that are empty but there, and a leap second. -/

def sampleTime : Instant := ⟨2024, 2, 29, 23, 59, 60, 500000000⟩

def sampleMetadata : Metadata :=
  { name := some "", labels := some .empty, finalizers := some [], generation := some (-1),
    creationTimestamp := some ⟨{ sampleTime with nano := 0 }⟩
    managedFields := some [{ fieldsV1 := some ⟨.object []⟩, manager := some "garden" }] }

def sampleCarrier : Shoot where
  metadata := sampleMetadata
  spec := {
    dns := some {}
    extensions := [⟨"", some (.object [("caches", .array []), ("volume", .null)]), none⟩]
    provider := { infrastructureConfig := some (.bool false) }
    purpose := some "" }

def sampleRequest : Runtime :=
  { (Lifecycle.sampleStep .openstack "1.30.1" ["a"]).runtime with
    metadata := sampleMetadata
    status := some { state := .failed, lastReconciled := some sampleTime } }

theorem sampleMetadata_times : ∀ time ∈ sampleMetadata.times, Faithful time := by
  intro time htime
  obtain rfl := List.mem_singleton.1 htime
  exact ⟨by rfl, by simp [Coded.write, Json.canonical]⟩

/-- A record is also read from an array of its parts, which is not how it is written. -/
def sampleParts : Json :=
  (Json.array [Coded.write sampleRequest.metadata, Coded.write sampleRequest.spec,
    Coded.write sampleRequest.status]).canonical

theorem objects_read_back_sample :
    Coded.read (Coded.write sampleCarrier).canonical = .ok sampleCarrier ∧
    Coded.read (Coded.write sampleRequest).canonical = .ok sampleRequest ∧
    Coded.read sampleParts = .ok sampleRequest := by
  have hdocs : ∀ doc ∈ sampleCarrier.documents, doc ≠ .null ∧ doc.canonical = doc := by decide
  have htime : ∀ time ∈ sampleRequest.lastReconciled?, Faithful time := by
    rintro time ⟨⟩
    exact ⟨by rfl, by simp [Coded.write, Json.canonical]⟩
  have hparts : Coded.read sampleParts = .ok sampleRequest := by rfl
  exact ⟨objects_read_back.1 sampleCarrier sampleMetadata_times
      fun doc hdoc => ⟨(hdocs doc hdoc).1, (hdocs doc hdoc).2⟩,
    objects_read_back.2.2.2.1 sampleParts sampleRequest (Json.canonical_canonical _) hparts
      sampleMetadata_times htime, hparts⟩

end ShootPlan
