import ShootPlan.Proofs.ComparisonReport
/-!
Extension lists as maps by type. A list that has each type once says no more than which extension
each type has, so its order does not matter to a comparison. Types are gone through in their
order, so the first failure is that of the least type whose documents cannot be compared.
-/
namespace ShootPlan

theorem Dict.pairwise_keys {α : Type} (dict : Dict α) : dict.keys.Pairwise (· < ·) :=
  List.pairwise_map.2 dict.sorted

/-- The types of extensions whose documents are known. -/
def ServiceDocument.types : List String :=
  [ExtensionType.dns, ExtensionType.cert, ExtensionType.auditLog, ExtensionType.registryCache]

/-- Documents of other types are taken as they are. -/
theorem ServiceDocument.mem_types_of_read {type : String} {json : Json} {fault : Fault}
    (h : read type json = .error fault) : type ∈ types := by
  by_contra hother
  simp only [types, List.mem_cons, List.not_mem_nil, or_false, not_or] at hother
  obtain ⟨hdns, hcert, hauditLog, hcache⟩ := hother
  rw [read, if_neg hdns, if_neg hcert, if_neg hauditLog, if_neg hcache] at h
  cases h

namespace Extension

variable {e a : Extension}

theorem not_decodes_iff :
    ¬e.Decodes ↔ ∃ json fault, e.providerConfig = some json ∧
      ServiceDocument.read e.type json = .error fault := by
  rw [Decodes, ← Outcome.exists_eq_error_iff, document?]
  cases e.providerConfig with
  | none => simp
  | some json => simp [Outcome.map_eq_error_iff]

/-- There are two documents, and one of them cannot be read. -/
theorem not_comparable_iff :
    ¬e.Comparable a ↔ ∃ json json', e.providerConfig = some json ∧ a.providerConfig = some json' ∧
      ((∃ fault, ServiceDocument.read e.type json = .error fault) ∨
        ∃ fault, ServiceDocument.read a.type json' = .error fault) := by
  rw [Comparable, not_or, not_or, not_and_or, not_decodes_iff, not_decodes_iff]
  cases e.providerConfig <;> cases a.providerConfig <;> simp

end Extension

namespace Comparison

variable {expected actual extensions others : List Extension} {type : String} {e : Extension}
  {error : ComparisonError}

/-- The first extensions of a known type both have documents, and one of these cannot be read. -/
structure Undecodable (expected actual : List Extension) (type : String) : Prop where
  known : type ∈ ServiceDocument.types
  unread : ∃ e a json json', ofType expected type = some e ∧ ofType actual type = some a ∧
    e.providerConfig = some json ∧ a.providerConfig = some json' ∧
      ((∃ fault, ServiceDocument.read type json = .error fault) ∨
        ∃ fault, ServiceDocument.read type json' = .error fault)

theorem undecodable_iff :
    Undecodable expected actual type ↔
      ∃ e a, ofType expected type = some e ∧ ofType actual type = some a ∧ ¬e.Comparable a := by
  simp only [Extension.not_comparable_iff]
  constructor
  · rintro ⟨-, e, a, json, json', he, ha, hjson, hjson', hunread⟩
    obtain ⟨-, rfl⟩ := mem_of_ofType he
    obtain ⟨-, htype⟩ := mem_of_ofType ha
    exact ⟨e, a, he, ha, json, json', hjson, hjson', htype ▸ hunread⟩
  · rintro ⟨e, a, he, ha, json, json', hjson, hjson', hunread⟩
    obtain ⟨-, rfl⟩ := mem_of_ofType he
    obtain ⟨-, htype⟩ := mem_of_ofType ha
    rw [htype] at hunread
    refine ⟨?_, e, a, json, json', he, ha, hjson, hjson', hunread⟩
    rcases hunread with ⟨fault, hfault⟩ | ⟨fault, hfault⟩
    · exact ServiceDocument.mem_types_of_read hfault
    · exact ServiceDocument.mem_types_of_read hfault

theorem exists_mismatchOf_error_iff :
    (∃ error, mismatchOf expected actual type = .error error) ↔ Undecodable expected actual type := by
  rw [Outcome.exists_eq_error_iff, exists_mismatchOf_iff, undecodable_iff]
  push Not
  rfl

theorem Undecodable.mem_types (h : Undecodable expected actual type) :
    type ∈ types (expected ++ actual) := by
  obtain ⟨-, e, -, -, -, he, -⟩ := h
  obtain ⟨hmem, rfl⟩ := mem_of_ofType he
  exact Comparison.mem_types.2 (List.mem_map_of_mem (List.mem_append_left _ hmem))

theorem pairwise_types (extensions : List Extension) : (types extensions).Pairwise (· < ·) :=
  Dict.pairwise_keys _

theorem extension_of_sameConfig {json? other? : Option Json}
    (h : sameConfig type json? other? = .error error) : error.extension = type := by
  unfold sameConfig at h
  split at h
  · cases h
  · obtain ⟨fault, -, rfl⟩ := Outcome.mapError_eq_error_iff.1 h
    rfl
  · cases h

/-- A failure names the type that it is about. -/
theorem extension_of_mismatchOf (h : mismatchOf expected actual type = .error error) :
    error.extension = type := by
  unfold mismatchOf at h
  split at h
  · obtain hconfig | ⟨same, -, htexts⟩ := Outcome.bind_eq_error_iff.1 h
    · exact extension_of_sameConfig hconfig
    · split_ifs at htexts <;> cases htexts
  all_goals cases h

/-- Types are gone through in order, so the least type fails whose documents cannot be compared. -/
theorem isLeast_extension (h : extensionMismatches expected actual = .error error) :
    IsLeast {type | Undecodable expected actual type} error.extension := by
  obtain hrow | ⟨_, -, htexts⟩ := Outcome.bind_eq_error_iff.1 h
  swap
  · cases htexts
  obtain ⟨before, type, after, htypes, hbefore, hfirst⟩ := Outcome.exists_of_mapM_eq_error hrow
  rw [extension_of_mismatchOf hfirst]
  refine ⟨exists_mismatchOf_error_iff.1 ⟨error, hfirst⟩, fun other hother => ?_⟩
  have hmem := hother.mem_types
  have hsorted := pairwise_types (expected ++ actual)
  rw [htypes] at hmem hsorted
  rcases List.mem_append.1 hmem with hmem | hmem
  -- a type in front of the failing one has been compared already
  · exact absurd (hbefore other hmem)
      (Outcome.exists_eq_error_iff.1 (exists_mismatchOf_error_iff.2 hother))
  · rcases List.mem_cons.1 hmem with rfl | hafter
    · exact String.le_refl other
    · exact Std.le_of_lt (List.rel_of_pairwise_cons (List.pairwise_append.1 hsorted).2.1 hafter)

theorem exists_extensionMismatches_error_iff :
    (∃ error, extensionMismatches expected actual = .error error) ↔
      ∃ type, Undecodable expected actual type := by
  rw [Outcome.exists_eq_error_iff, exists_extensionMismatches_iff]
  simp only [undecodable_iff]
  push Not
  rfl

/-! Lists that have each type once -/

theorem types_perm (h : extensions.Perm others) : types extensions = types others := by
  have hnodup (list : List Extension) : (types list).Nodup := (pairwise_types list).imp String.ne_of_lt
  refine List.Perm.eq_of_pairwise' (pairwise_types _) (pairwise_types _) ?_
  refine (List.perm_ext_iff_of_nodup (hnodup _) (hnodup _)).2 fun type => ?_
  rw [Comparison.mem_types, Comparison.mem_types, (h.map _).mem_iff]

theorem repeated_perm (h : extensions.Perm others) (side : String) :
    repeated extensions side = repeated others side := by
  simp only [repeated, types_perm h, h.countP_eq]

theorem ofType_eq_some_iff (hnodup : (extensions.map Extension.type).Nodup) :
    ofType extensions type = some e ↔ e ∈ extensions ∧ e.type = type := by
  constructor
  · exact mem_of_ofType
  · rintro ⟨hmem, rfl⟩
    exact ofType_of_mem hnodup hmem

theorem ofType_perm (hnodup : (extensions.map Extension.type).Nodup) (h : extensions.Perm others)
    (type : String) : ofType extensions type = ofType others type := by
  ext e
  rw [ofType_eq_some_iff hnodup, ofType_eq_some_iff ((h.map _).nodup_iff.1 hnodup), h.mem_iff]

/-- With each type once, what is found for a type is found in any order. -/
theorem extensionMismatches_perm {expected' actual' : List Extension}
    (hexpected : (expected.map Extension.type).Nodup) (hactual : (actual.map Extension.type).Nodup)
    (h : expected.Perm expected') (h' : actual.Perm actual') :
    extensionMismatches expected' actual' = extensionMismatches expected actual := by
  have htypes : types (expected' ++ actual') = types (expected ++ actual) := types_perm (h.append h').symm
  have hmismatch : mismatchOf expected' actual' = mismatchOf expected actual := by
    funext type
    simp only [mismatchOf, ofType_perm hexpected h, ofType_perm hactual h']
  simp only [extensionMismatches, htypes, hmismatch, repeated_perm h, repeated_perm h']

/--
Extension lists are compared as maps by type. Nothing is reported when both have each type once,
have the same types, and agree on each. It fails when a known type has documents in both of which
one cannot be read, and names the least such type. With each type once the order does not matter.
-/
theorem compares_as_maps (expected actual : List Extension) :
    (extensionMismatches expected actual = .ok [] ↔ SameExtensions expected actual) ∧
    ((∃ error, extensionMismatches expected actual = .error error) ↔
      ∃ type, Undecodable expected actual type) ∧
    (∀ error, extensionMismatches expected actual = .error error →
      IsLeast {type | Undecodable expected actual type} error.extension) ∧
    ((expected.map Extension.type).Nodup → (actual.map Extension.type).Nodup →
      ∀ expected' actual', expected.Perm expected' → actual.Perm actual' →
        extensionMismatches expected' actual' = extensionMismatches expected actual) := by
  refine ⟨⟨fun h => (extensionMismatches_eq_nil_iff h).1 rfl, fun hsame => ?_⟩,
    exists_extensionMismatches_error_iff, fun _ => isLeast_extension,
    fun hexpected hactual _ _ => extensionMismatches_perm hexpected hactual⟩
  obtain ⟨mismatches, h⟩ := exists_extensionMismatches_iff.2 hsame.comparable
  rw [h, (extensionMismatches_eq_nil_iff h).2 hsame]

/-! Two extensions with documents that cannot be read, and two with none. -/

def brokenExtensions : List Extension :=
  [⟨ExtensionType.dns, some .null, none⟩, ⟨ExtensionType.cert, some (.array []), some true⟩]

def plainExtensions : List Extension :=
  [⟨ExtensionType.oidc, none, none⟩, ⟨"custom", some (.bool true), some true⟩]

theorem compares_as_maps_sample :
    (∃ error, extensionMismatches brokenExtensions brokenExtensions = .error error ∧
      error.extension = ExtensionType.cert ∧
      IsLeast {type | Undecodable brokenExtensions brokenExtensions type} ExtensionType.cert ∧
      extensionMismatches brokenExtensions brokenExtensions.reverse = .error error) ∧
    extensionMismatches plainExtensions.reverse plainExtensions = .ok [] ∧
    SameExtensions plainExtensions.reverse plainExtensions := by
  obtain ⟨-, -, hleast, hperm⟩ := compares_as_maps brokenExtensions brokenExtensions
  obtain ⟨hsame, -⟩ := compares_as_maps plainExtensions.reverse plainExtensions
  have hdistinct : (brokenExtensions.map Extension.type).Nodup := by decide
  have hplain : extensionMismatches plainExtensions.reverse plainExtensions = .ok [] := by
    decide +kernel
  refine ⟨?_, hplain, hsame.1 hplain⟩
  obtain ⟨error, herror, hcert⟩ : ∃ error,
      extensionMismatches brokenExtensions brokenExtensions = .error error ∧
        error.extension = ExtensionType.cert := ⟨_, rfl, by decide⟩
  exact ⟨error, herror, hcert, hcert ▸ hleast error herror,
    (hperm hdistinct hdistinct _ _ (.refl _) (List.reverse_perm _).symm).trans herror⟩

end Comparison

end ShootPlan
