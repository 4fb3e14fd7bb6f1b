import ShootPlan.Comparison
import ShootPlan.Proofs.KeyedMerge
import ShootPlan.Proofs.Outcomes
/-!
Comparison of extensions. Two lists are the same when neither has a type twice, both have the
same types, and the extensions of each type agree. That is a partial equivalence: a list is
the same as itself only if the documents it is compared by can be read.
-/
namespace ShootPlan

theorem Dict.mem_keys_insert {α : Type} {dict : Dict α} {key other : String} {value : α} :
    other ∈ (dict.insert key value).keys ↔ other = key ∨ other ∈ dict.keys := by
  obtain ⟨entries, hsorted⟩ := dict
  simp only [insert, keys]
  clear hsorted
  induction entries with
  | nil => simp [place]
  | cons first rest ih =>
    obtain ⟨k, v⟩ := first
    rw [place]
    split_ifs with hlt heq
    · simp
    · simp [heq]
    · simp only [List.map_cons, List.mem_cons, ih]
      tauto

theorem Dict.mem_keys_ofList {α : Type} {entries : List (String × α)} {key : String} :
    key ∈ (Dict.ofList entries).keys ↔ key ∈ entries.map Prod.fst := by
  have hfold (dict : Dict α) :
      key ∈ (entries.foldl (fun dict entry => dict.insert entry.1 entry.2) dict).keys ↔
        key ∈ entries.map Prod.fst ∨ key ∈ dict.keys := by
    induction entries generalizing dict with
    | nil => simp
    | cons first rest ih =>
      rw [List.foldl_cons, ih, Dict.mem_keys_insert, List.map_cons, List.mem_cons]
      tauto
  rw [Dict.ofList, hfold]
  simp [Dict.empty, Dict.keys]

/-- What a provider's document says to the extension of a type; to other types it is only itself. -/
inductive ServiceDocument where
  | dns (config : DnsConfig)
  | cert (config : CertConfig)
  | auditLog (config : AuditLogConfig)
  | registryCache (config : RegistryConfig)
  | other (json : Json)

def ServiceDocument.read (type : String) (json : Json) : Except Fault ServiceDocument :=
  if type = ExtensionType.dns then (Coded.read json).map dns
  else if type = ExtensionType.cert then (Coded.read json).map cert
  else if type = ExtensionType.auditLog then (Coded.read json).map auditLog
  else if type = ExtensionType.registryCache then (Coded.read json).map registryCache
  else .ok (other json.comparand)

namespace Extension

/-- What the extension is configured with, if it is. -/
def document? (e : Extension) : Except Fault (Option ServiceDocument) :=
  match e.providerConfig with
  | none => .ok none
  | some json => (ServiceDocument.read e.type json).map some

/-- The extension is not configured, or its document can be read. -/
def Decodes (e : Extension) : Prop := ∃ found?, e.document? = .ok found?

/-- Neither is configured, or their documents say the same. -/
def SaysSame (e a : Extension) : Prop := ∃ found?, e.document? = .ok found? ∧ a.document? = .ok found?

/-- Both run or both do not, and they are configured the same. -/
structure Agrees (e a : Extension) : Prop where
  disabled : e.disabled.getD false = a.disabled.getD false
  config : e.SaysSame a

/-- Documents are read only where there are two to compare. -/
def Comparable (e a : Extension) : Prop :=
  e.providerConfig = none ∨ a.providerConfig = none ∨ e.Decodes ∧ a.Decodes

variable {e a : Extension} {json : Json} {found? other? : Option ServiceDocument}

theorem document?_of_none (h : e.providerConfig = none) : e.document? = .ok none := by
  rw [document?, h]

theorem document?_eq_ok_iff (h : e.providerConfig = some json) :
    e.document? = .ok found? ↔
      ∃ document, ServiceDocument.read e.type json = .ok document ∧ some document = found? := by
  rw [document?, h]
  exact Outcome.map_eq_ok_iff

theorem saysSame_iff (he : e.document? = .ok found?) (ha : a.document? = .ok other?) :
    e.SaysSame a ↔ found? = other? := by
  constructor
  · rintro ⟨same?, hsame, hsame'⟩
    rw [Except.ok.inj (he.symm.trans hsame), Except.ok.inj (ha.symm.trans hsame')]
  · rintro rfl
    exact ⟨found?, he, ha⟩

theorem SaysSame.symm (h : e.SaysSame a) : a.SaysSame e := h.imp fun _ => And.symm

theorem SaysSame.trans {b : Extension} (heb : e.SaysSame b) (hba : b.SaysSame a) : e.SaysSame a := by
  obtain ⟨found?, he, hb⟩ := heb
  obtain ⟨other?, hb', ha⟩ := hba
  obtain rfl : found? = other? := Except.ok.inj (hb.symm.trans hb')
  exact ⟨found?, he, ha⟩

theorem not_saysSame_of_none (he : e.providerConfig = none) (ha : a.providerConfig = some json) :
    ¬e.SaysSame a := by
  rintro ⟨found?, hfound, hother⟩
  obtain ⟨document, -, rfl⟩ := (document?_eq_ok_iff ha).1 hother
  rw [document?_of_none he] at hfound
  cases hfound

theorem Agrees.symm (h : e.Agrees a) : a.Agrees e := ⟨h.disabled.symm, h.config.symm⟩

theorem Agrees.trans {b : Extension} (heb : e.Agrees b) (hba : b.Agrees a) : e.Agrees a :=
  ⟨heb.disabled.trans hba.disabled, heb.config.trans hba.config⟩

theorem agrees_self_iff : e.Agrees e ↔ e.Decodes :=
  ⟨fun h => h.config.imp fun _ => And.left, fun ⟨found?, h⟩ => ⟨rfl, found?, h, h⟩⟩

theorem Comparable.symm (h : e.Comparable a) : a.Comparable e := by
  rcases h with h | h | h
  · exact .inr (.inl h)
  · exact .inl h
  · exact .inr (.inr h.symm)

theorem SaysSame.comparable (h : e.SaysSame a) : e.Comparable a := by
  obtain ⟨found?, he, ha⟩ := h
  exact .inr (.inr ⟨⟨found?, he⟩, ⟨found?, ha⟩⟩)

end Extension

namespace Comparison

variable {type : String} {e a : Extension} {expected actual : Json} {same : Bool}

theorem sameAs_eq_ok_iff {α : Type} [Coded α] [DecidableEq α] (wrap : α → ServiceDocument)
    (hwrap : Function.Injective wrap) :
    sameAs α expected actual = .ok same ↔
      ∃ d d', (Coded.read expected).map wrap = .ok d ∧ (Coded.read actual).map wrap = .ok d' ∧
        (same = true ↔ d = d') := by
  simp only [sameAs, Outcome.bind_eq_ok_iff, Outcome.pure_eq_ok_iff, Outcome.map_eq_ok_iff]
  constructor
  · rintro ⟨x, hx, y, hy, rfl⟩
    exact ⟨wrap x, wrap y, ⟨x, hx, rfl⟩, ⟨y, hy, rfl⟩, by rw [decide_eq_true_iff, hwrap.eq_iff]⟩
  · rintro ⟨_, _, ⟨x, hx, rfl⟩, ⟨y, hy, rfl⟩, hsame⟩
    refine ⟨x, hx, y, hy, ?_⟩
    rw [hwrap.eq_iff] at hsame
    rw [Bool.eq_iff_iff, decide_eq_true_iff, hsame]

theorem sameDocument_eq_ok_iff :
    sameDocument type expected actual = .ok same ↔
      ∃ d d', ServiceDocument.read type expected = .ok d ∧ ServiceDocument.read type actual = .ok d' ∧
        (same = true ↔ d = d') := by
  unfold sameDocument ServiceDocument.read
  split_ifs
  · exact sameAs_eq_ok_iff _ fun _ _ => ServiceDocument.dns.inj
  · exact sameAs_eq_ok_iff _ fun _ _ => ServiceDocument.cert.inj
  · exact sameAs_eq_ok_iff _ fun _ _ => ServiceDocument.auditLog.inj
  · exact sameAs_eq_ok_iff _ fun _ _ => ServiceDocument.registryCache.inj
  · rw [Except.ok.injEq, Bool.eq_iff_iff, decide_eq_true_iff]
    constructor
    · intro h
      exact ⟨_, _, rfl, rfl, by rw [ServiceDocument.other.injEq, h]⟩
    · rintro ⟨_, _, ⟨⟩, ⟨⟩, h⟩
      rw [h, ServiceDocument.other.injEq]

/-- Two documents are compared when both can be read; else there is nothing to compare. -/
theorem sameConfig_eq_ok_iff (he : e.type = type) (ha : a.type = type) :
    sameConfig type e.providerConfig a.providerConfig = .ok same ↔
      e.Comparable a ∧ (same = true ↔ e.SaysSame a) := by
  cases hexpected : e.providerConfig with
  | none =>
    have hcomparable : e.Comparable a := .inl hexpected
    cases hactual : a.providerConfig with
    | none =>
      have hsame := (Extension.saysSame_iff (Extension.document?_of_none hexpected)
        (Extension.document?_of_none hactual)).2 rfl
      simp [sameConfig, hcomparable, hsame, eq_comm]
    | some actual =>
      have hdiffer := Extension.not_saysSame_of_none hexpected hactual
      simp [sameConfig, hcomparable, hdiffer, eq_comm]
  | some expected =>
    cases hactual : a.providerConfig with
    | none =>
      have hcomparable : e.Comparable a := .inr (.inl hactual)
      have hdiffer : ¬e.SaysSame a :=
        fun h => Extension.not_saysSame_of_none hactual hexpected h.symm
      simp [sameConfig, hcomparable, hdiffer, eq_comm]
    | some actual =>
      have hread {d : ServiceDocument} :
          e.document? = .ok (some d) ↔ ServiceDocument.read type expected = .ok d := by
        simp [Extension.document?_eq_ok_iff hexpected, he]
      have hread' {d : ServiceDocument} :
          a.document? = .ok (some d) ↔ ServiceDocument.read type actual = .ok d := by
        simp [Extension.document?_eq_ok_iff hactual, ha]
      rw [sameConfig, Outcome.mapError_eq_ok_iff, sameDocument_eq_ok_iff]
      constructor
      · rintro ⟨d, d', hd, hd', hsame⟩
        rw [← hread] at hd
        rw [← hread'] at hd'
        refine ⟨.inr (.inr ⟨⟨_, hd⟩, ⟨_, hd'⟩⟩), ?_⟩
        rw [hsame, Extension.saysSame_iff hd hd', Option.some_inj]
      · rintro ⟨hcomparable, hsame⟩
        rcases hcomparable with hnone | hnone | ⟨⟨_, hd⟩, ⟨_, hd'⟩⟩
        · rw [hexpected] at hnone
          cases hnone
        · rw [hactual] at hnone
          cases hnone
        · obtain ⟨d, -, rfl⟩ := (Extension.document?_eq_ok_iff hexpected).1 hd
          obtain ⟨d', -, rfl⟩ := (Extension.document?_eq_ok_iff hactual).1 hd'
          refine ⟨d, d', hread.1 hd, hread'.1 hd', ?_⟩
          rw [hsame, Extension.saysSame_iff hd hd', Option.some_inj]

theorem exists_pair_iff (he : e.type = type) (ha : a.type = type) :
    (∃ texts, pair type e a = .ok texts) ↔ e.Comparable a := by
  simp only [pair, Outcome.bind_eq_ok_iff]
  constructor
  · rintro ⟨texts, same, hsame, -⟩
    exact ((sameConfig_eq_ok_iff he ha).1 hsame).1
  · intro hcomparable
    classical
    have hsame := (sameConfig_eq_ok_iff he ha).2 ⟨hcomparable, decide_eq_true_iff (p := e.SaysSame a)⟩
    cases hdecided : decide (e.SaysSame a) with
    | true => exact ⟨_, true, hdecided ▸ hsame, rfl⟩
    | false => exact ⟨_, false, hdecided ▸ hsame, rfl⟩

theorem pair_eq_nil_iff {texts : List String} (he : e.type = type) (ha : a.type = type)
    (h : pair type e a = .ok texts) : texts = [] ↔ e.Agrees a := by
  simp only [pair, Outcome.bind_eq_ok_iff] at h
  obtain ⟨same, hsame, h⟩ := h
  obtain ⟨-, hconfig⟩ := (sameConfig_eq_ok_iff he ha).1 hsame
  have hagrees : e.Agrees a ↔ e.disabled.getD false = a.disabled.getD false ∧ same = true := by
    rw [hconfig]
    exact ⟨fun h => ⟨h.disabled, h.config⟩, fun h => ⟨h.1, h.2⟩⟩
  rw [hagrees]
  cases same with
  | true =>
    obtain rfl := Outcome.pure_eq_ok_iff.1 h
    split_ifs with hdisabled <;> simp [hdisabled]
  | false =>
    obtain rfl := Outcome.pure_eq_ok_iff.1 h
    simp

variable {extensions others : List Extension}

theorem mem_of_ofType (h : ofType extensions type = some e) : e ∈ extensions ∧ e.type = type :=
  ⟨List.mem_of_find?_eq_some h, by simpa using List.find?_some h⟩

theorem ofType_eq_none_iff : ofType extensions type = none ↔ type ∉ extensions.map Extension.type := by
  simp [ofType]

theorem ofType_of_mem (hnodup : (extensions.map Extension.type).Nodup) (h : e ∈ extensions) :
    ofType extensions e.type = some e := find?_key_eq_of_mem hnodup h

theorem mem_types : type ∈ types extensions ↔ type ∈ extensions.map Extension.type := by
  rw [types, Dict.mem_keys_ofList, List.map_map]
  rfl

theorem repeated_eq_nil_iff {side : String} :
    repeated extensions side = [] ↔ (extensions.map Extension.type).Nodup := by
  have hcount (type : String) : extensions.countP (fun e => e.type == type) =
      (extensions.map Extension.type).count type := by
    rw [List.count, List.countP_map]
    rfl
  rw [repeated, List.filterMap_eq_nil_iff, List.nodup_iff_count_le_one]
  constructor
  · intro h type
    by_cases hmem : type ∈ types extensions
    · have hnone := h type hmem
      simp only [hcount] at hnone
      split_ifs at hnone with hmany
      exact not_lt.1 hmany
    · rw [mem_types] at hmem
      rw [List.count_eq_zero_of_not_mem hmem]
      exact Nat.zero_le 1
  · intro h type _
    simp only [hcount]
    exact if_neg (not_lt.2 (h type))

theorem exists_mismatchOf_iff :
    (∃ texts, mismatchOf extensions others type = .ok texts) ↔
      ∀ e a, ofType extensions type = some e → ofType others type = some a → e.Comparable a := by
  unfold mismatchOf
  cases he : ofType extensions type with
  | none => cases ofType others type <;> simp
  | some e =>
    cases ha : ofType others type with
    | none => simp
    | some a =>
      rw [exists_pair_iff (mem_of_ofType he).2 (mem_of_ofType ha).2]
      simp

theorem mismatchOf_eq_nil_iff {texts : List String} (h : mismatchOf extensions others type = .ok texts) :
    texts = [] ↔ Option.Rel Extension.Agrees (ofType extensions type) (ofType others type) := by
  unfold mismatchOf at h
  cases he : ofType extensions type with
  | none =>
    cases ha : ofType others type with
    | none =>
      rw [he, ha] at h
      obtain rfl := Except.ok.inj h
      simp
    | some a =>
      rw [he, ha] at h
      obtain rfl := Except.ok.inj h
      simp
  | some e =>
    cases ha : ofType others type with
    | none =>
      rw [he, ha] at h
      obtain rfl := Except.ok.inj h
      simp
    | some a =>
      rw [he, ha] at h
      rw [pair_eq_nil_iff (mem_of_ofType he).2 (mem_of_ofType ha).2 h]
      simp

end Comparison

/-- The lists as sets: neither has a type twice, and the extensions of each type agree. -/
structure SameExtensions (expected actual : List Extension) : Prop where
  distinct : (expected.map Extension.type).Nodup ∧ (actual.map Extension.type).Nodup
  types : ∀ type, type ∈ expected.map Extension.type ↔ type ∈ actual.map Extension.type
  agree : ∀ e ∈ expected, ∀ a ∈ actual, e.type = a.type → e.Agrees a

namespace SameExtensions

variable {expected actual other : List Extension}

theorem symm (h : SameExtensions expected actual) : SameExtensions actual expected where
  distinct := h.distinct.symm
  types type := (h.types type).symm
  agree e he a ha htype := (h.agree a ha e he htype.symm).symm

theorem trans (h : SameExtensions expected actual) (h' : SameExtensions actual other) :
    SameExtensions expected other where
  distinct := ⟨h.distinct.1, h'.distinct.2⟩
  types type := (h.types type).trans (h'.types type)
  agree e he b hb htype := by
    obtain ⟨a, ha, hsame⟩ := List.mem_map.1 ((h.types e.type).1 (List.mem_map_of_mem he))
    exact (h.agree e he a ha hsame.symm).trans (h'.agree a ha b hb (hsame.trans htype))

theorem self_iff :
    SameExtensions expected expected ↔
      (expected.map Extension.type).Nodup ∧ ∀ e ∈ expected, e.Decodes := by
  constructor
  · exact fun h => ⟨h.distinct.1, fun e he => Extension.agrees_self_iff.1 (h.agree e he e he rfl)⟩
  · rintro ⟨hnodup, hdecodes⟩
    refine ⟨⟨hnodup, hnodup⟩, fun _ => Iff.rfl, fun e he a ha htype => ?_⟩
    obtain rfl := List.inj_on_of_nodup_map hnodup he ha htype
    exact Extension.agrees_self_iff.2 (hdecodes e he)

open Comparison (ofType ofType_eq_none_iff ofType_of_mem mem_of_ofType)

/-- With one extension of each type, the lists are compared type by type. -/
theorem iff_rel :
    SameExtensions expected actual ↔
      ((expected.map Extension.type).Nodup ∧ (actual.map Extension.type).Nodup) ∧
        ∀ type, Option.Rel Extension.Agrees (ofType expected type) (ofType actual type) := by
  constructor
  · intro h
    refine ⟨h.distinct, fun type => ?_⟩
    cases he : ofType expected type with
    | none =>
      have ha : ofType actual type = none := by
        rw [ofType_eq_none_iff] at he ⊢
        exact fun hmem => he ((h.types type).2 hmem)
      rw [ha]
      exact .none
    | some e =>
      obtain ⟨hmem, rfl⟩ := mem_of_ofType he
      obtain ⟨a, ha, htype⟩ := List.mem_map.1 ((h.types e.type).1 (List.mem_map_of_mem hmem))
      rw [← htype, ofType_of_mem h.distinct.2 ha]
      exact .some (h.agree e hmem a ha htype.symm)
  · rintro ⟨hdistinct, hrel⟩
    refine ⟨hdistinct, fun type => ?_, fun e he a ha htype => ?_⟩
    · have hnone : ofType expected type = none ↔ ofType actual type = none := by
        have h := hrel type
        generalize ofType expected type = e? at h ⊢
        generalize ofType actual type = a? at h ⊢
        cases h <;> simp
      rw [ofType_eq_none_iff, ofType_eq_none_iff] at hnone
      exact not_iff_not.1 hnone
    · have h := hrel e.type
      rw [ofType_of_mem hdistinct.1 he, htype, ofType_of_mem hdistinct.2 ha] at h
      exact Option.rel_some_some.1 h

theorem comparable (h : SameExtensions expected actual) :
    ∀ type e a, ofType expected type = some e → ofType actual type = some a → e.Comparable a := by
  intro type e a he ha
  obtain ⟨hmem, rfl⟩ := mem_of_ofType he
  obtain ⟨hmem', htype⟩ := mem_of_ofType ha
  exact (h.agree e hmem a hmem' htype.symm).config.comparable

end SameExtensions

namespace Comparison

variable {expected actual : List Extension} {mismatches : List String} {differences : List Difference}

theorem exists_extensionMismatches_iff :
    (∃ mismatches, extensionMismatches expected actual = .ok mismatches) ↔
      ∀ type e a, ofType expected type = some e → ofType actual type = some a → e.Comparable a := by
  have hbind : (∃ mismatches, extensionMismatches expected actual = .ok mismatches) ↔
      ∃ perType, (types (expected ++ actual)).mapM (mismatchOf expected actual) = .ok perType :=
    Outcome.exists_bind_eq_ok_iff fun _ => ⟨_, rfl⟩
  rw [hbind, Outcome.exists_mapM_eq_ok_iff]
  simp only [exists_mismatchOf_iff]
  constructor
  · intro h type e a he ha
    refine h type ?_ e a he ha
    obtain ⟨hmem, rfl⟩ := mem_of_ofType he
    exact mem_types.2 (List.mem_map_of_mem (List.mem_append_left _ hmem))
  · exact fun h type _ => h type

/-- All results of a row are empty when each has a reason to be. -/
theorem flatten_eq_nil_of_forall₂ {α β : Type} {P : α → Prop} {as : List α} {rows : List (List β)}
    {f : α → Except ComparisonError (List β)}
    (hrows : List.Forall₂ (fun a row => f a = .ok row) as rows)
    (hf : ∀ a row, f a = .ok row → (row = [] ↔ P a)) : rows.flatten = [] ↔ ∀ a ∈ as, P a := by
  induction hrows with
  | nil => simp
  | cons hfirst _ ih =>
    rw [List.flatten_cons, List.append_eq_nil_iff, hf _ _ hfirst, ih, List.forall_mem_cons]

theorem extensionMismatches_eq_nil_iff (h : extensionMismatches expected actual = .ok mismatches) :
    mismatches = [] ↔ SameExtensions expected actual := by
  simp only [extensionMismatches, Outcome.bind_eq_ok_iff, Outcome.pure_eq_ok_iff,
    Outcome.mapM_eq_ok_iff] at h
  obtain ⟨perType, hperType, rfl⟩ := h
  rw [List.append_eq_nil_iff, List.append_eq_nil_iff, repeated_eq_nil_iff, repeated_eq_nil_iff,
    flatten_eq_nil_of_forall₂ hperType fun _ _ => mismatchOf_eq_nil_iff, SameExtensions.iff_rel]
  refine and_congr_right fun _ => ⟨fun hrel type => ?_, fun hrel type _ => hrel type⟩
  by_cases hmem : type ∈ types (expected ++ actual)
  · exact hrel type hmem
  · rw [mem_types, List.map_append, List.mem_append, not_or] at hmem
    rw [ofType_eq_none_iff.2 hmem.1, ofType_eq_none_iff.2 hmem.2]
    exact .none

theorem exists_extensions_iff :
    (∃ differences, Comparison.extensions expected actual = .ok differences) ↔
      ∀ type e a, ofType expected type = some e → ofType actual type = some a → e.Comparable a := by
  rw [← exists_extensionMismatches_iff]
  refine Outcome.exists_bind_eq_ok_iff fun mismatches => ?_
  split_ifs <;> exact ⟨_, rfl⟩

theorem path_extensions [Decidable (SameExtensions expected actual)]
    (h : Comparison.extensions expected actual = .ok differences) :
    differences.map Difference.path =
      if SameExtensions expected actual then [] else ["spec/Extensions"] := by
  simp only [Comparison.extensions, Outcome.bind_eq_ok_iff] at h
  obtain ⟨mismatches, hmismatches, h⟩ := h
  simp only [extensionMismatches_eq_nil_iff hmismatches] at h
  split_ifs at h ⊢ with hsame
  · obtain rfl := Outcome.pure_eq_ok_iff.1 h
    rfl
  · obtain rfl := Outcome.pure_eq_ok_iff.1 h
    rfl

end Comparison

end ShootPlan
