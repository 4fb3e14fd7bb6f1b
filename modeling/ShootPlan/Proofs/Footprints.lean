import ShootPlan.Conversion
import ShootPlan.Proofs.Outcomes
/-!
Where extenders work. A Shoot has parts that are set independently of each other. An extender
that works on some of them takes no notice of the others, so two extenders on different parts
may change places.
-/
namespace ShootPlan

/-- The parts that extenders work on. Three of them are inside the API server's settings. -/
inductive Part where
  | annotations
  | labels
  | version
  | oidcConfig
  | serviceAccountConfig
  | auditConfig
  | dns
  | cloudProfile
  | accessRestrictions
  | extensions
  | exposureClass
  | tolerations
  | seedSelector
  | maintenance
  | resources
  | provider
  deriving DecidableEq

namespace Part

def Value : Part → Type
  | annotations | labels => Option (Dict String)
  | version => String
  | oidcConfig => Option OidcConfig
  | serviceAccountConfig => Option ServiceAccountConfig
  | auditConfig => Option AuditConfig
  | dns => Option Dns
  | cloudProfile | exposureClass => Option String
  | accessRestrictions => List AccessRestriction
  | extensions => List Extension
  | tolerations => List Toleration
  | seedSelector => Option SeedSelector
  | maintenance => Option Maintenance
  | resources => List NamedResource
  | provider => ProviderBlock

def get : (part : Part) → Shoot → part.Value
  | annotations, shoot => shoot.metadata.annotations
  | labels, shoot => shoot.metadata.labels
  | version, shoot => shoot.spec.kubernetes.version
  | oidcConfig, shoot => (shoot.spec.kubernetes.apiServer.getD {}).oidcConfig
  | serviceAccountConfig, shoot => (shoot.spec.kubernetes.apiServer.getD {}).serviceAccountConfig
  | auditConfig, shoot => (shoot.spec.kubernetes.apiServer.getD {}).auditConfig
  | dns, shoot => shoot.spec.dns
  | cloudProfile, shoot => shoot.spec.cloudProfileName
  | accessRestrictions, shoot => shoot.spec.accessRestrictions
  | extensions, shoot => shoot.spec.extensions
  | exposureClass, shoot => shoot.spec.exposureClassName
  | tolerations, shoot => shoot.spec.tolerations
  | seedSelector, shoot => shoot.spec.seedSelector
  | maintenance, shoot => shoot.spec.maintenance
  | resources, shoot => shoot.spec.resources
  | provider, shoot => shoot.spec.provider

def set : (part : Part) → part.Value → Shoot → Shoot
  | annotations, value, shoot => { shoot with metadata := { shoot.metadata with annotations := value } }
  | labels, value, shoot => { shoot with metadata := { shoot.metadata with labels := value } }
  | version, value, shoot =>
    { shoot with spec := { shoot.spec with kubernetes := { shoot.spec.kubernetes with version := value } } }
  | oidcConfig, value, shoot => shoot.updateApiServer fun server => { server with oidcConfig := value }
  | serviceAccountConfig, value, shoot =>
    shoot.updateApiServer fun server => { server with serviceAccountConfig := value }
  | auditConfig, value, shoot => shoot.updateApiServer fun server => { server with auditConfig := value }
  | dns, value, shoot => { shoot with spec := { shoot.spec with dns := value } }
  | cloudProfile, value, shoot => { shoot with spec := { shoot.spec with cloudProfileName := value } }
  | accessRestrictions, value, shoot =>
    { shoot with spec := { shoot.spec with accessRestrictions := value } }
  | extensions, value, shoot => { shoot with spec := { shoot.spec with extensions := value } }
  | exposureClass, value, shoot => { shoot with spec := { shoot.spec with exposureClassName := value } }
  | tolerations, value, shoot => { shoot with spec := { shoot.spec with tolerations := value } }
  | seedSelector, value, shoot => { shoot with spec := { shoot.spec with seedSelector := value } }
  | maintenance, value, shoot => { shoot with spec := { shoot.spec with maintenance := value } }
  | resources, value, shoot => { shoot with spec := { shoot.spec with resources := value } }
  | provider, value, shoot => { shoot with spec := { shoot.spec with provider := value } }

variable {a b : Part}

theorem get_set_of_ne (h : a ≠ b) (value : b.Value) (shoot : Shoot) :
    a.get (b.set value shoot) = a.get shoot := by
  cases a <;> cases b <;> first | rfl | exact absurd rfl h

/-- Whoever comes first makes the API server's settings, and the other finds them. -/
theorem set_comm (h : a ≠ b) (value : a.Value) (other : b.Value) (shoot : Shoot) :
    a.set value (b.set other shoot) = b.set other (a.set value shoot) := by
  cases a <;> cases b <;> first | rfl | exact absurd rfl h

/-- Set the part if there is something to set it to. -/
def put (part : Part) : Option part.Value → Shoot → Shoot
  | some value, shoot => part.set value shoot
  | none, shoot => shoot

theorem put_ite (part : Part) {condition : Prop} [Decidable condition] (value : part.Value)
    (shoot : Shoot) : part.put (if condition then some value else none) shoot =
      if condition then part.set value shoot else shoot := by
  split_ifs <;> rfl

theorem put_set_of_ne (h : a ≠ b) (value : Option a.Value) (other : b.Value) (shoot : Shoot) :
    a.put value (b.set other shoot) = b.set other (a.put value shoot) := by
  cases value with
  | none => rfl
  | some value => exact set_comm h value other shoot

end Part

/-- A change that sets some of these parts and nothing else. -/
inductive Sets (parts : List Part) : (Shoot → Shoot) → Prop
  | nothing : Sets parts id
  | part {part : Part} (h : part ∈ parts) (value : part.Value) {change : Shoot → Shoot}
      (rest : Sets parts change) : Sets parts (part.set value ∘ change)

namespace Sets

variable {parts others : List Part} {change other : Shoot → Shoot} {part : Part}

theorem put (h : part ∈ parts) (value : Option part.Value) : Sets parts (part.put value) := by
  cases value with
  | none => exact nothing
  | some value => exact .part h value nothing

theorem comp (hchange : Sets parts change) (hother : Sets parts other) :
    Sets parts (change ∘ other) := by
  induction hchange with
  | nothing => exact hother
  | part hmem value _ ih => exact .part hmem value ih

theorem set_comm (hchange : Sets parts change) (h : part ∉ parts) (value : part.Value) (shoot : Shoot) :
    change (part.set value shoot) = part.set value (change shoot) := by
  induction hchange with
  | nothing => rfl
  | part hmem _ _ ih =>
    have hne : part ≠ _ := fun heq => h (heq ▸ hmem)
    rw [Function.comp_apply, Function.comp_apply, ih, Part.set_comm hne]

theorem comm (hchange : Sets parts change) (hother : Sets others other)
    (h : ∀ part ∈ others, part ∉ parts) (shoot : Shoot) :
    change (other shoot) = other (change shoot) := by
  induction hother with
  | nothing => rfl
  | part hmem value _ ih =>
    rw [Function.comp_apply, Function.comp_apply, hchange.set_comm (h _ hmem), ih]

end Sets

/-- The parts that an extender looks at, and those it sets. -/
structure Footprint where
  reads : List Part := []
  writes : List Part
  deriving DecidableEq

namespace Footprint

def uses (footprint : Footprint) : List Part := footprint.reads ++ footprint.writes

/-- Neither sets what the other one uses. -/
def Separate (a b : Footprint) : Prop :=
  (∀ part ∈ a.writes, part ∉ b.uses) ∧ ∀ part ∈ b.writes, part ∉ a.uses

instance (a b : Footprint) : Decidable (a.Separate b) := inferInstanceAs (Decidable (_ ∧ _))

theorem Separate.symm {a b : Footprint} (h : a.Separate b) : b.Separate a := ⟨h.2, h.1⟩

end Footprint

namespace Extender

variable {runtime : Runtime} {extender first second : Extender} {footprint a b : Footprint}

/-- What is set elsewhere is neither noticed nor lost, and nothing else is set. -/
structure Within (extender : Extender) (runtime : Runtime) (footprint : Footprint) : Prop where
  ignores : ∀ part ∉ footprint.uses, ∀ value shoot,
    extender.apply runtime (part.set value shoot) =
      (extender.apply runtime shoot).map (part.set value)
  sets : ∀ {shoot next}, extender.apply runtime shoot = .ok next →
    ∃ change, Sets footprint.writes change ∧ next = change shoot

theorem Within.ignores_change (h : extender.Within runtime footprint) {parts : List Part}
    {change : Shoot → Shoot} (hchange : Sets parts change)
    (hparts : ∀ part ∈ parts, part ∉ footprint.uses) (shoot : Shoot) :
    extender.apply runtime (change shoot) = (extender.apply runtime shoot).map change := by
  induction hchange with
  | nothing =>
    rw [id_eq]
    cases extender.apply runtime shoot <;> rfl
  | part hmem value _ ih =>
    rw [Function.comp_apply, h.ignores _ (hparts _ hmem), ih]
    cases extender.apply runtime shoot <;> rfl

/-- The extender sets this part to what it makes of the Shoot, if it makes anything. -/
def Puts (extender : Extender) (runtime : Runtime) (part : Part)
    (change : Shoot → Except ConversionError (Option part.Value)) : Prop :=
  ∀ shoot, extender.apply runtime shoot = (change shoot).map fun value => part.put value shoot

/-- What the part is set to depends only on what it is. -/
def Updates (extender : Extender) (runtime : Runtime) (part : Part)
    (change : part.Value → Except ConversionError (Option part.Value)) : Prop :=
  extender.Puts runtime part (change ∘ part.get)

theorem Puts.within {part : Part} {reads : List Part}
    {change : Shoot → Except ConversionError (Option part.Value)}
    (h : extender.Puts runtime part change)
    (hchange : ∀ other ∉ reads ++ [part], ∀ value shoot, change (other.set value shoot) = change shoot) :
    extender.Within runtime { reads, writes := [part] } where
  ignores other hother value shoot := by
    have hne : part ≠ other := fun heq => hother (by simp [Footprint.uses, heq])
    rw [h, h, hchange other hother]
    cases change shoot with
    | error => rfl
    | ok new => exact congrArg Except.ok (Part.put_set_of_ne hne new value shoot)
  sets {shoot next} hnext := by
    rw [h] at hnext
    obtain ⟨value, -, rfl⟩ := Outcome.map_eq_ok_iff.1 hnext
    exact ⟨part.put value, .put (List.mem_singleton_self part) value, rfl⟩

theorem Updates.within {part : Part}
    {change : part.Value → Except ConversionError (Option part.Value)}
    (h : extender.Updates runtime part change) : extender.Within runtime { writes := [part] } := by
  refine Puts.within h fun other hother value shoot => ?_
  have hne : part ≠ other := fun heq => hother (by simp [heq])
  exact congrArg change (Part.get_set_of_ne hne value shoot)

/-- Two extenders that give the same in either order. -/
def Independent (runtime : Runtime) (first second : Extender) : Prop :=
  ∀ shoot next, applyAll runtime [first, second] shoot = .ok next ↔
    applyAll runtime [second, first] shoot = .ok next

theorem Independent.symm (h : Independent runtime first second) : Independent runtime second first :=
  fun shoot next => (h shoot next).symm

theorem applyAll_nil_eq_ok_iff {shoot last : Shoot} :
    applyAll runtime [] shoot = .ok last ↔ shoot = last := by
  rw [applyAll, Except.ok.injEq]

theorem applyAll_cons_eq_ok_iff {rest : List Extender} {shoot last : Shoot} :
    applyAll runtime (extender :: rest) shoot = .ok last ↔
      ∃ next, extender.apply runtime shoot = .ok next ∧ applyAll runtime rest next = .ok last := by
  simp only [applyAll]
  cases extender.apply runtime shoot <;> simp

theorem applyAll_pair_eq_ok_iff {shoot last : Shoot} :
    applyAll runtime [first, second] shoot = .ok last ↔
      ∃ next, first.apply runtime shoot = .ok next ∧ second.apply runtime next = .ok last := by
  simp only [applyAll_cons_eq_ok_iff, applyAll_nil_eq_ok_iff, exists_eq_right]

theorem applyAll_append_eq_ok_iff {extenders rest : List Extender} {shoot last : Shoot} :
    applyAll runtime (extenders ++ rest) shoot = .ok last ↔
      ∃ next, applyAll runtime extenders shoot = .ok next ∧ applyAll runtime rest next = .ok last := by
  induction extenders generalizing shoot with
  | nil => simp [applyAll_nil_eq_ok_iff]
  | cons extender extenders ih =>
    simp only [List.cons_append, applyAll_cons_eq_ok_iff, ih]
    constructor
    · rintro ⟨mid, hmid, next, hnext, hlast⟩
      exact ⟨next, ⟨mid, hmid, hnext⟩, hlast⟩
    · rintro ⟨next, ⟨mid, hmid, hnext⟩, hlast⟩
      exact ⟨mid, hmid, next, hnext, hlast⟩

theorem Within.swap (hfirst : first.Within runtime a) (hsecond : second.Within runtime b)
    (h : a.Separate b) {shoot last : Shoot} (hlast : applyAll runtime [first, second] shoot = .ok last) :
    applyAll runtime [second, first] shoot = .ok last := by
  rw [applyAll_pair_eq_ok_iff] at hlast ⊢
  obtain ⟨next, hnext, hlast⟩ := hlast
  obtain ⟨change, hchange, rfl⟩ := hfirst.sets hnext
  -- the second extender does the same on the Shoot as it was, and then the first one does too
  rw [hsecond.ignores_change hchange h.1] at hlast
  obtain ⟨other, hother, rfl⟩ := Outcome.map_eq_ok_iff.1 hlast
  obtain ⟨change', hchange', rfl⟩ := hsecond.sets hother
  have hnew : ∀ part ∈ b.writes, part ∉ a.writes := fun part hpart hmem =>
    h.2 part hpart (List.mem_append_right _ hmem)
  refine ⟨change' shoot, hother, ?_⟩
  rw [hfirst.ignores_change hchange' h.2, hnext, hchange.comm hchange' hnew]
  rfl

theorem Within.independent (hfirst : first.Within runtime a) (hsecond : second.Within runtime b)
    (h : a.Separate b) : Independent runtime first second :=
  fun _ _ => ⟨hfirst.swap hsecond h, hsecond.swap hfirst h.symm⟩

theorem applyAll_swap (h : Independent runtime first second) {rest : List Extender}
    {shoot last : Shoot} :
    applyAll runtime (first :: second :: rest) shoot = .ok last ↔
      applyAll runtime (second :: first :: rest) shoot = .ok last := by
  change applyAll runtime ([first, second] ++ rest) shoot = .ok last ↔
    applyAll runtime ([second, first] ++ rest) shoot = .ok last
  rw [applyAll_append_eq_ok_iff, applyAll_append_eq_ok_iff]
  exact exists_congr fun next => and_congr_left fun _ => h shoot next

/-- An extender may run first if it is independent of all before it. -/
theorem applyAll_move_first {extenders rest : List Extender}
    (h : ∀ other ∈ extenders, Independent runtime other extender) {shoot last : Shoot} :
    applyAll runtime (extenders ++ extender :: rest) shoot = .ok last ↔
      applyAll runtime (extender :: (extenders ++ rest)) shoot = .ok last := by
  induction extenders generalizing shoot with
  | nil => rfl
  | cons other extenders ih =>
    rw [List.forall_mem_cons] at h
    calc applyAll runtime (other :: (extenders ++ extender :: rest)) shoot = .ok last
      _ ↔ applyAll runtime (other :: extender :: (extenders ++ rest)) shoot = .ok last := by
        rw [applyAll_cons_eq_ok_iff, applyAll_cons_eq_ok_iff]
        exact exists_congr fun next => and_congr_right fun _ => ih h.2
      _ ↔ applyAll runtime (extender :: other :: (extenders ++ rest)) shoot = .ok last :=
        applyAll_swap h.1

/-- A reordering changes nothing if it keeps the order of those that are not independent. -/
theorem applyAll_reordered {Before : Extender → Extender → Prop} {extenders reordered : List Extender}
    (hperm : reordered.Perm extenders)
    (hpairs : extenders.Pairwise fun a b => Independent runtime a b ∨ Before a b)
    (hkept : reordered.Pairwise fun a b => ¬Before b a) {shoot last : Shoot} :
    applyAll runtime reordered shoot = .ok last ↔ applyAll runtime extenders shoot = .ok last := by
  induction extenders generalizing reordered shoot with
  | nil => rw [hperm.eq_nil]
  | cons extender extenders ih =>
    rw [List.pairwise_cons] at hpairs
    -- what runs earlier now came after this extender, so it can be moved in front again
    obtain ⟨earlier, later, rfl⟩ := List.append_of_mem (hperm.mem_iff.2 List.mem_cons_self)
    have hrest : (earlier ++ later).Perm extenders := (List.perm_middle.symm.trans hperm).cons_inv
    have hindependent (other : Extender) (hother : other ∈ earlier) :
        Independent runtime other extender := by
      have hmem : other ∈ extenders := hrest.subset (List.mem_append_left _ hother)
      have hnot : ¬Before extender other :=
        (List.pairwise_append.1 hkept).2.2 other hother extender List.mem_cons_self
      exact ((hpairs.1 other hmem).resolve_right hnot).symm
    have hsublist : (earlier ++ later).Sublist (earlier ++ extender :: later) :=
      (List.sublist_cons_self extender later).append_left earlier
    rw [applyAll_move_first hindependent, applyAll_cons_eq_ok_iff, applyAll_cons_eq_ok_iff]
    exact exists_congr fun next => and_congr_right fun _ => ih hrest hpairs.2 (hkept.sublist hsublist)

end Extender

end ShootPlan
