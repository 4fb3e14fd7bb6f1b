import ShootPlan.Proofs.DictEntries
import ShootPlan.Proofs.ExtenderParts
import ShootPlan.Proofs.ExtensionList
/-!
Running an extender once more. What it has set it sets to the same again, whatever else was in
the Shoot, so nothing changes.
-/
namespace ShootPlan

theorem Part.set_set (part : Part) (value other : part.Value) (shoot : Shoot) :
    part.set value (part.set other shoot) = part.set value shoot := by
  cases part <;> rfl

theorem Part.get_set (part : Part) (value : part.Value) (shoot : Shoot) :
    part.get (part.set value shoot) = value := by
  cases part <;> rfl

namespace KeyedList

variable {α : Type} [Keyed α]

/-- Items that were put into a list are there when the list is made anew. -/
theorem foldl_upsert_ofList_items (list : KeyedList α) {items : List α}
    (hnodup : (items.map Keyed.key).Nodup) :
    items.foldl upsert (ofList (items.foldl upsert list).items) = items.foldl upsert list := by
  rw [ofList_items, foldl_upsert_foldl_upsert list hnodup]

theorem upsert_ofList_items (list : KeyedList α) (item : α) :
    (ofList (list.upsert item).items).upsert item = list.upsert item :=
  @foldl_upsert_ofList_items α _ list [item] (List.nodup_singleton _)

end KeyedList

namespace Extender

/-- Once it has run, running it again changes nothing. -/
def Settles (extender : Extender) (runtime : Runtime) : Prop :=
  ∀ shoot next, extender.apply runtime shoot = .ok next → extender.apply runtime next = .ok next

variable {extender : Extender} {runtime : Runtime} {part : Part}

/-- Having set its part, the extender sets it to the same again or leaves it. -/
theorem Puts.settles {change : Shoot → Except ConversionError (Option part.Value)}
    (h : extender.Puts runtime part change)
    (hagain : ∀ shoot value, change shoot = .ok (some value) →
      ∃ again, change (part.set value shoot) = .ok again ∧ ∀ other ∈ again, other = value) :
    extender.Settles runtime := by
  intro shoot next hnext
  rw [h, Outcome.map_eq_ok_iff] at hnext
  obtain ⟨value, hvalue, rfl⟩ := hnext
  rw [h]
  cases value with
  | none =>
    rw [Part.put, hvalue]
    rfl
  | some value =>
    obtain ⟨again, hsame, hall⟩ := hagain shoot value hvalue
    rw [Part.put, hsame]
    cases again with
    | none => rfl
    | some other =>
      obtain rfl := hall other rfl
      exact congrArg Except.ok (part.set_set other other shoot)

theorem Updates.settles {change : part.Value → Except ConversionError (Option part.Value)}
    (h : extender.Updates runtime part change)
    (hagain : ∀ given value, change given = .ok (some value) →
      ∃ again, change value = .ok again ∧ ∀ other ∈ again, other = value) :
    extender.Settles runtime := by
  refine Puts.settles h fun shoot value hvalue => ?_
  rw [Function.comp_apply, Part.get_set]
  exact hagain _ value hvalue

/-- Not looking at the Shoot at all, the extender does the same each time. -/
theorem Updates.settles_of_const {outcome : Except ConversionError (Option part.Value)}
    (h : extender.Updates runtime part fun _ => outcome) : extender.Settles runtime :=
  h.settles fun _ value hvalue => ⟨some value, hvalue, fun _ hsame => (Option.some.inj hsame).symm⟩

theorem annotations_settles : annotations.Settles runtime := by
  refine (annotations_updates runtime).settles fun given value hvalue => ⟨some value, ?_, by simp⟩
  obtain rfl := Option.some.inj (Except.ok.inj hvalue)
  let noted : List (String × Option String) := [
    Prod.mk runtimeIdAnnotation (runtime.label runtimeIdLabel),
    Prod.mk licenceTypeAnnotation (runtime.spec.shoot.licenceType.filter (· ≠ "")),
    Prod.mk euAccessAnnotation (if runtime.needsEuAccess then some "true" else none)]
  have hnodup : (noted.map Prod.fst).Nodup := by
    simp only [noted, List.map_cons, List.map_nil]
    decide
  exact congrArg (fun dict => Except.ok (some (some dict))) (Dict.insertAll_insertAll _ hnodup)

/-- With a value for either label there are labels from then on, and these have it. -/
theorem addLabel_addLabel {first second : String} (h : first ≠ second)
    (labels : Option (Dict String)) (a b : Option String) :
    addLabel (addLabel (addLabel (addLabel labels first a) second b) first a) second b =
      addLabel (addLabel labels first a) second b := by
  have hnodup : ([(first, a), (second, b)].map Prod.fst).Nodup := by simpa using h
  have hdict := congrArg some (Dict.insertAll_insertAll (labels.getD .empty) hnodup)
  cases a <;> cases b <;> first | rfl | exact hdict

theorem labels_settles : labels.Settles runtime := by
  refine (labels_updates runtime).settles fun given value hvalue => ⟨some value, ?_, by simp⟩
  obtain rfl := Option.some.inj (Except.ok.inj hvalue)
  exact congrArg (fun labels => Except.ok (some labels)) (addLabel_addLabel (by decide) ..)

theorem accessRestrictions_settles : accessRestrictions.Settles runtime := by
  refine (accessRestrictions_updates runtime).settles fun given value hvalue => ?_
  split_ifs at hvalue with heu
  · obtain rfl := Option.some.inj (Except.ok.inj hvalue)
    refine ⟨some _, congrArg Except.ok (if_pos heu), fun other hother => ?_⟩
    obtain rfl := Option.some.inj hother
    exact congrArg KeyedList.items (KeyedList.upsert_ofList_items _ euAccessRestriction)
  · cases hvalue

theorem extensions_settles (secretName providerType : String) (auditLogs : AuditLogTable) :
    (extensions secretName providerType auditLogs).Settles runtime := by
  refine (extensions_puts runtime secretName providerType auditLogs).settles
    fun shoot value hvalue => ⟨some value, ?_, by simp⟩
  cases hdns : shoot.spec.dns.bind Dns.domain with
  | none =>
    rw [hdns] at hvalue
    cases hvalue
  | some domain =>
    rw [hdns] at hvalue
    obtain rfl := Option.some.inj (Except.ok.inj hvalue)
    simp only [Part.set, hdns, Option.elim]
    rw [KeyedList.foldl_upsert_ofList_items _ (nodup_renewed ..)]

theorem tolerations_settles : tolerations.Settles runtime := by
  refine (tolerations_updates runtime).settles
    fun (given : List Toleration) value hvalue => ⟨none, ?_, by simp⟩
  split_ifs at hvalue with h
  · obtain rfl := Option.some.inj (Except.ok.inj hvalue)
    refine congrArg Except.ok (if_neg fun hagain => ?_)
    have hthere : assuredWorkload ∈ given ++ [assuredWorkload] := by simp
    exact List.any_eq_false.1 hagain.2 assuredWorkload hthere (by simp)
  · cases hvalue

theorem auditLog_settles (policyConfigMapName : String) (auditLogs : AuditLogTable)
    (existing : Option AuditConfig) :
    (auditLog policyConfigMapName auditLogs existing).Settles runtime := by
  intro shoot next hnext
  rw [auditLog_apply_eq] at hnext ⊢
  obtain rfl := Except.ok.inj hnext
  cases auditLogs.tenant? runtime with
  | none => cases existing <;> rfl
  | some tenant =>
    have hresources := congrArg KeyedList.items (KeyedList.upsert_ofList_items
      (KeyedList.ofList shoot.spec.resources) (Conversion.credentials tenant))
    exact congrArg (fun items => Except.ok (Part.resources.set items
      (Part.auditConfig.set (some ⟨some ⟨some ⟨policyConfigMapName⟩⟩⟩) shoot))) hresources

end Extender

end ShootPlan
