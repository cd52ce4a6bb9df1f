import PresetPipeline.Proofs.Settings.Checking
import PresetPipeline.Proofs.Settings.PairLists

/-!
# Flags and documents

Settings can be written as the flags of a command line or as the fields of a document. Each way has its
own check, in an order of its own.

* `Layout.Repeats` — a list of physical qubits has one twice. `Layout.ofPhysical_eq_error_iff` — no other
  list is refused.
* `Selector.Refuses`, `OverrideFlags.Wrong` — the names that a selector refuses, and what is wrong with a
  setting. `OverrideFlags.fault?_eq_some_iff` — the check of a field finds exactly that.
* `OverrideFlags.FirstWrong` — what is wrong with the first wrong field in some order.
  `OverrideFlags.overrides_eq_error_iff`, `OverrideDocument.overrides_eq_error_iff` — flags and documents
  are refused for it, each in its order.
* `OverrideFlags.Sets` — overrides have the checked values of the flags and nothing else.
  `OverrideDocument.Sets` — the same of a document. `OverrideFlags.overrides_eq_ok_iff`,
  `OverrideDocument.overrides_eq_ok_iff` — these are the overrides that are accepted.
* `OverrideFlags.overrides_alike` — flags and the document of the same settings are accepted together and
  mean the same.
-/

set_option autoImplicit false

namespace PresetPipeline

/-! ## Lists of physical qubits -/

namespace Layout

variable {physical before : List Qubit} {v p : Qubit} {fault : LayoutFault}

/-- The placements that a list of physical qubits stands for: each on the virtual qubit of its place. -/
def placements (physical : List Qubit) : List (Qubit × Qubit) :=
  physical.zipIdx.map fun (p, i) => (i.toUInt32, p)

/-- The first qubit that is listed again is reported, with the places of both. -/
inductive Repeats (physical : List Qubit) : LayoutFault → Prop where
  | mk {before after : List Qubit} {p : Qubit} {k : Nat} : physical = before ++ p :: after →
      before.Nodup → before[k]? = some p →
      Repeats physical (.physicalTaken p k.toUInt32 before.length.toUInt32)

/-- There are no more different qubits than numbers of 32 bits. -/
theorem length_le_of_nodup (h : physical.Nodup) : physical.length ≤ UInt32.size := by
  have hnodup : (physical.map (·.toNat)).Nodup := h.map fun _ _ => UInt32.toNat_inj.1
  have hsubset : physical.map (·.toNat) ⊆ List.range UInt32.size := by
    intro k hk
    obtain ⟨q, -, rfl⟩ := List.mem_map.1 hk
    exact List.mem_range.2 q.toNat_lt
  have hle := (List.subperm_of_subset hnodup hsubset).length_le
  rwa [List.length_map, List.length_range] at hle

theorem eq_of_toUInt32_eq {k k' : Nat} (hk : k < UInt32.size) (hk' : k' < UInt32.size)
    (h : k.toUInt32 = k'.toUInt32) : k = k' := by
  have heq := congrArg UInt32.toNat h
  rwa [Nat.toUInt32_eq, Nat.toUInt32_eq, UInt32.toNat_ofNat_of_lt' hk,
    UInt32.toNat_ofNat_of_lt' hk'] at heq

theorem mem_placements :
    (v, p) ∈ placements physical ↔ ∃ k : Nat, physical[k]? = some p ∧ k.toUInt32 = v := by
  simp only [placements, List.mem_map, Prod.exists, List.mem_zipIdx_iff_getElem?, Prod.mk.injEq]
  constructor
  · rintro ⟨q, k, hk, hv, rfl⟩
    exact ⟨k, hk, hv⟩
  · rintro ⟨k, hk, hv⟩
    exact ⟨p, k, hk, hv, rfl⟩

/-- Where no physical qubit is repeated, the places are few enough to be different virtual qubits. -/
theorem placements_apart_iff : (placements physical).Pairwise Apart ↔ physical.Nodup := by
  have hphysical : (placements physical).map (·.2) = physical := by
    rw [placements, List.map_map]
    exact List.zipIdx_map_fst 0 physical
  have hvirtual : (placements physical).map (·.1) =
      (List.range' 0 physical.length).map Nat.toUInt32 := by
    rw [placements, List.map_map, ← List.zipIdx_map_snd, List.map_map]
    rfl
  rw [pairwise_apart_iff, hphysical, hvirtual]
  refine and_iff_right_of_imp fun hnodup => ?_
  have hlength := length_le_of_nodup hnodup
  refine List.Nodup.map_on (fun k hk k' hk' heq => ?_) List.nodup_range'
  rw [List.mem_range'_1] at hk hk'
  exact eq_of_toUInt32_eq (by omega) (by omega) heq

/-- After different qubits only the qubit itself can clash, and not its place. -/
theorem clashes_placements_iff (hnodup : before.Nodup) :
    Clashes (· ∈ placements before) (before.length.toUInt32, p) fault ↔
      ∃ k : Nat, before[k]? = some p ∧ fault = .physicalTaken p k.toUInt32 before.length.toUInt32 := by
  constructor
  · intro h
    cases h with
    | physical hplaced =>
      obtain ⟨k, hk, rfl⟩ := mem_placements.1 hplaced
      exact ⟨k, hk, rfl⟩
    | virtual hfree hplaced =>
      exfalso
      obtain ⟨k, hk, heq⟩ := mem_placements.1 hplaced
      have hnot : p ∉ before := by
        intro hmem
        obtain ⟨j, hj⟩ := List.mem_iff_getElem?.1 hmem
        exact hfree _ (mem_placements.2 ⟨j, hj, rfl⟩)
      have hlength := length_le_of_nodup (List.nodup_cons.2 ⟨hnot, hnodup⟩)
      rw [List.length_cons] at hlength
      obtain ⟨hlt, -⟩ := List.getElem?_eq_some_iff.1 hk
      exact Nat.ne_of_lt hlt (eq_of_toUInt32_eq (by omega) (by omega) heq)
  · rintro ⟨k, hk, rfl⟩
    exact .physical (mem_placements.2 ⟨k, hk, rfl⟩)

theorem ofPhysical_eq_error_iff : ofPhysical physical = .error fault ↔ Repeats physical fault := by
  show ofPairs (placements physical) = .error fault ↔ _
  rw [ofPairs_eq_error_iff]
  constructor
  · rintro ⟨before', e, after', heq, hapart, hclash⟩
    obtain ⟨zipped, rest, hsplit, rfl, hrest⟩ := List.map_eq_append_iff.1 heq
    obtain ⟨before, rest', rfl, rfl, rfl⟩ := List.zipIdx_eq_append_iff.1 hsplit
    obtain ⟨⟨p, k⟩, after, hcons, rfl, rfl⟩ := List.map_eq_cons_iff.1 hrest
    obtain ⟨_, after, rfl, hp, rfl⟩ := List.zipIdx_eq_cons_iff.1 hcons
    cases hp
    rw [Nat.zero_add] at hclash
    have hnodup := placements_apart_iff.1 hapart
    obtain ⟨k, hk, rfl⟩ := (clashes_placements_iff hnodup).1 hclash
    exact .mk rfl hnodup hk
  · intro h
    cases h with
    | @mk before after p k heq hnodup hk =>
      refine ⟨placements before, (before.length.toUInt32, p),
        (after.zipIdx (before.length + 1)).map fun (p, i) => (i.toUInt32, p), ?_,
        placements_apart_iff.2 hnodup, (clashes_placements_iff hnodup).2 ⟨k, hk, rfl⟩⟩
      rw [heq, placements, List.zipIdx_append, List.map_append, List.zipIdx_cons, List.map_cons,
        Nat.zero_add]
      rfl

end Layout

/-! ## What is wrong with a setting -/

/-- What a selector refuses: a name that it does not list, and of a plugin a name that is empty or has a
blank inside, once the blanks around it are gone. -/
def Selector.Refuses : Selector → String → Prop
  | .synthesis, name =>
    Text.trimChars name.toList = [] ∨ ∃ c ∈ Text.trimChars name.toList, Text.isBlank c = true
  | selector, name => name ∉ selector.valid

/-- The field of a selector. -/
def Selector.field : Selector → CheckedField
  | .layout => .layoutMethod
  | .routing => .routingMethod
  | .translation => .translationMethod
  | .scheduling => .schedulingMethod
  | .synthesis => .synthesisMethod

/-- The name that is set for a selector. -/
def OverrideFlags.method? (f : OverrideFlags) : Selector → Option String
  | .layout => f.layoutMethod
  | .routing => f.routingMethod
  | .translation => f.translationMethod
  | .scheduling => f.schedulingMethod
  | .synthesis => f.synthesisMethod

/-- What is wrong with a setting: a method that its selector refuses, a layout with a physical qubit
twice, or a degree outside the range. -/
inductive OverrideFlags.Wrong (f : OverrideFlags) : CheckedField → CompileError → Prop where
  | method {selector : Selector} {name : String} : f.method? selector = some name →
      selector.Refuses name → Wrong f selector.field (.unsupportedMethod ⟨selector, name⟩)
  | initialLayout {physical : List Qubit} {fault : LayoutFault} :
      f.initialLayout = some physical → Layout.Repeats physical fault →
      Wrong f .initialLayout (.invalidLayout fault)
  | degree {x : Float} : f.degree = some x → isDegree x = false → Wrong f .degree (.invalidDegree x)

/-- The names that a reader of methods refuses, and what it reports of them. -/
def ParsesAs {α : Type} (parse : String → Except UnsupportedMethod α) (selector : Selector) : Prop :=
  ∀ name, faultOf (parse name) = some ⟨selector, name⟩ ∧ selector.Refuses name ∨
    faultOf (parse name) = none ∧ ¬selector.Refuses name

theorem parsesAs_layout : ParsesAs LayoutMethod.parse .layout := by
  intro name
  unfold LayoutMethod.parse Selector.Refuses
  split <;> simp_all [Selector.valid]

theorem parsesAs_routing : ParsesAs RoutingMethod.parse .routing := by
  intro name
  unfold RoutingMethod.parse Selector.Refuses
  split <;> simp_all [Selector.valid]

theorem parsesAs_translation : ParsesAs TranslationMethod.parse .translation := by
  intro name
  unfold TranslationMethod.parse Selector.Refuses
  split <;> simp_all [Selector.valid]

theorem parsesAs_scheduling : ParsesAs SchedulingMethod.parse .scheduling := by
  intro name
  unfold SchedulingMethod.parse Selector.Refuses
  split <;> simp_all [Selector.valid]

theorem parsesAs_synthesis : ParsesAs SynthesisMethod.parse .synthesis := by
  intro name
  have hrefuses : Selector.synthesis.Refuses name ↔
      ((Text.trimChars name.toList).isEmpty || (Text.trimChars name.toList).any Text.isBlank) = true := by
    rw [Bool.or_eq_true, List.isEmpty_iff, List.any_eq_true]
    rfl
  rw [hrefuses, SynthesisMethod.parse]
  split
  · rename_i hwrong
    exact .inl ⟨rfl, hwrong⟩
  · rename_i hright
    refine .inr ⟨?_, hright⟩
    split <;> rfl

/-- A name is reported as it is set, with its selector. -/
theorem faultOf_checkMethod_iff {α : Type} {parse : String → Except UnsupportedMethod α}
    {selector : Selector} {name : String} {e : CompileError} (h : ParsesAs parse selector) :
    faultOf (checkMethod parse name) = some e ↔
      selector.Refuses name ∧ .unsupportedMethod ⟨selector, name⟩ = e := by
  have hmap : faultOf (checkMethod parse name) =
      (faultOf (parse name)).map .unsupportedMethod := by
    unfold checkMethod
    cases parse name <;> rfl
  rcases h name with ⟨hfault, hrefused⟩ | ⟨hfault, haccepted⟩
  · simp [hmap, hfault, hrefused]
  · simp [hmap, hfault, haccepted]

theorem faultOf_checkPhysical_iff {physical : List Qubit} {e : CompileError} :
    faultOf (checkPhysical physical) = some e ↔
      ∃ fault, Layout.Repeats physical fault ∧ .invalidLayout fault = e := by
  simp only [← Layout.ofPhysical_eq_error_iff]
  unfold checkPhysical
  cases Layout.ofPhysical physical <;> simp [Except.mapError]

theorem faultOf_checkDegree_iff {x : Float} {e : CompileError} :
    faultOf (checkDegree x) = some e ↔ isDegree x = false ∧ .invalidDegree x = e := by
  unfold checkDegree Degree.ofFloat?
  split
  · rename_i d hd
    split at hd
    · rename_i hx
      simp [hx]
    · cases hd
  · rename_i hd
    split at hd
    · cases hd
    · rename_i hx
      simp [hx]

/-- Besides the methods there are the layout and the degree. -/
theorem CheckedField.eq_field_or (field : CheckedField) :
    (∃ selector : Selector, field = selector.field) ∨ field = .initialLayout ∨ field = .degree := by
  cases field with
  | layoutMethod => exact .inl ⟨.layout, rfl⟩
  | routingMethod => exact .inl ⟨.routing, rfl⟩
  | translationMethod => exact .inl ⟨.translation, rfl⟩
  | schedulingMethod => exact .inl ⟨.scheduling, rfl⟩
  | synthesisMethod => exact .inl ⟨.synthesis, rfl⟩
  | initialLayout => exact .inr (.inl rfl)
  | degree => exact .inr (.inr rfl)

namespace OverrideFlags

variable {f : OverrideFlags} {field : CheckedField} {e : CompileError} {order : List CheckedField}

theorem fault?_field_iff {selector : Selector} :
    f.fault? selector.field = some e ↔
      ∃ name, f.method? selector = some name ∧ selector.Refuses name ∧
        .unsupportedMethod ⟨selector, name⟩ = e := by
  have hbind : ∀ {α : Type} {parse : String → Except UnsupportedMethod α}, ParsesAs parse selector →
      (((f.method? selector).bind fun name => faultOf (checkMethod parse name)) = some e ↔
        ∃ name, f.method? selector = some name ∧ selector.Refuses name ∧
          .unsupportedMethod ⟨selector, name⟩ = e) := by
    intro α parse hparse
    simp only [Option.bind_eq_some_iff, faultOf_checkMethod_iff hparse]
  cases selector with
  | layout => exact hbind parsesAs_layout
  | routing => exact hbind parsesAs_routing
  | translation => exact hbind parsesAs_translation
  | scheduling => exact hbind parsesAs_scheduling
  | synthesis => exact hbind parsesAs_synthesis

/-- The check of a field finds what is wrong with it. -/
theorem fault?_eq_some_iff : f.fault? field = some e ↔ f.Wrong field e := by
  constructor
  · intro h
    obtain ⟨selector, rfl⟩ | rfl | rfl := field.eq_field_or
    · obtain ⟨name, hname, hrefused, rfl⟩ := fault?_field_iff.1 h
      exact .method hname hrefused
    · obtain ⟨physical, hphysical, h⟩ := Option.bind_eq_some_iff.1 h
      obtain ⟨fault, hrepeats, rfl⟩ := faultOf_checkPhysical_iff.1 h
      exact .initialLayout hphysical hrepeats
    · obtain ⟨x, hx, h⟩ := Option.bind_eq_some_iff.1 h
      obtain ⟨hout, rfl⟩ := faultOf_checkDegree_iff.1 h
      exact .degree hx hout
  · intro h
    cases h with
    | method hname hrefused => exact fault?_field_iff.2 ⟨_, hname, hrefused, rfl⟩
    | initialLayout hphysical hrepeats =>
      exact Option.bind_eq_some_iff.2
        ⟨_, hphysical, faultOf_checkPhysical_iff.2 ⟨_, hrepeats, rfl⟩⟩
    | degree hx hout =>
      exact Option.bind_eq_some_iff.2 ⟨_, hx, faultOf_checkDegree_iff.2 ⟨hout, rfl⟩⟩

theorem fault?_eq_none_iff : f.fault? field = none ↔ ∀ e, ¬f.Wrong field e := by
  simp only [Option.eq_none_iff_forall_ne_some, ne_eq, fault?_eq_some_iff]

/-! ## The first wrong setting -/

/-- What is wrong with the first of some fields that is wrong. -/
def FirstWrong (f : OverrideFlags) (order : List CheckedField) (e : CompileError) : Prop :=
  ∃ before field after, order = before ++ field :: after ∧
    (∀ field' ∈ before, ∀ e', ¬f.Wrong field' e') ∧ f.Wrong field e

theorem findSome?_fault?_eq_some_iff : order.findSome? f.fault? = some e ↔ f.FirstWrong order e := by
  simp only [List.findSome?_eq_some_iff, fault?_eq_some_iff, fault?_eq_none_iff, FirstWrong]
  simp only [and_comm]

/-- A field that is alone in being wrong is the first one in any order. -/
theorem firstWrong_of_only (hmem : field ∈ order) (hwrong : f.Wrong field e)
    (honly : ∀ field' e', f.Wrong field' e' → field' = field) : f.FirstWrong order e := by
  obtain ⟨before, after, heq, hnot⟩ := List.eq_append_cons_of_mem hmem
  refine ⟨before, field, after, heq, fun field' hfield' e' hwrong' => ?_, hwrong⟩
  obtain rfl := honly field' e' hwrong'
  exact hnot hfield'

end OverrideFlags

/-! ## Two ways to write the same settings -/

/-- The order in which the fields of a document are checked. -/
def CheckedField.documentOrder : List CheckedField :=
  [initialLayout, layoutMethod, routingMethod, translationMethod, schedulingMethod, degree,
    synthesisMethod]

theorem CheckedField.mem_flagOrder (field : CheckedField) : field ∈ flagOrder := by
  cases field <;> decide

theorem CheckedField.mem_documentOrder (field : CheckedField) : field ∈ documentOrder := by
  cases field <;> decide

/-- A document that holds the settings of a command line and nothing else. -/
def OverrideFlags.document (f : OverrideFlags) : OverrideDocument where
  initialLayout := f.initialLayout
  layoutMethod := f.layoutMethod
  routingMethod := f.routingMethod
  translationMethod := f.translationMethod
  schedulingMethod := f.schedulingMethod
  degree := f.degree
  seed := f.seed
  synthesisMethod := f.synthesisMethod

/-- The settings of a document that a command line can hold as well. -/
def OverrideDocument.flags (d : OverrideDocument) : OverrideFlags where
  layoutMethod := d.layoutMethod
  routingMethod := d.routingMethod
  translationMethod := d.translationMethod
  schedulingMethod := d.schedulingMethod
  synthesisMethod := d.synthesisMethod
  initialLayout := d.initialLayout
  degree := d.degree
  seed := d.seed

/-- A document is refused for the first of its fields that is wrong. -/
theorem OverrideDocument.faultOf_overrides (d : OverrideDocument) :
    faultOf d.overrides = CheckedField.documentOrder.findSome? d.flags.fault? := by
  simp only [CheckedField.documentOrder, findSome?_cons_or, List.findSome?_nil, OverrideFlags.fault?,
    ← faultOf_checkOption]
  unfold OverrideDocument.overrides
  refine faultOf_bind fun initialLayout _ => ?_
  refine faultOf_bind fun layoutMethod _ => ?_
  refine faultOf_bind fun routingMethod _ => ?_
  refine faultOf_bind fun translationMethod _ => ?_
  refine faultOf_bind fun schedulingMethod _ => ?_
  refine faultOf_bind fun degree _ => ?_
  exact faultOf_bind fun synthesisMethod _ => rfl

theorem OverrideFlags.overrides_eq_error_iff {f : OverrideFlags} {e : CompileError} :
    f.overrides = .error e ↔ f.FirstWrong CheckedField.flagOrder e := by
  rw [← faultOf_eq_some_iff, faultOf_overrides, findSome?_fault?_eq_some_iff]

theorem OverrideDocument.overrides_eq_error_iff {d : OverrideDocument} {e : CompileError} :
    d.overrides = .error e ↔ d.flags.FirstWrong CheckedField.documentOrder e := by
  rw [← faultOf_eq_some_iff, faultOf_overrides, OverrideFlags.findSome?_fault?_eq_some_iff]

namespace OverrideFlags

variable {f : OverrideFlags} {o : Overrides}

/-- Flags and their document set the same: each check has one result, whichever is made first. -/
theorem overrides_eq_ok_iff_document : f.overrides = .ok o ↔ f.document.overrides = .ok o := by
  simp only [overrides, OverrideDocument.overrides, document, bind_eq_ok_iff]
  constructor
  · rintro ⟨layoutMethod, hlayoutMethod, routingMethod, hroutingMethod, translationMethod,
      htranslationMethod, schedulingMethod, hschedulingMethod, synthesisMethod, hsynthesisMethod,
      initialLayout, hinitialLayout, degree, hdegree, h⟩
    exact ⟨initialLayout, hinitialLayout, layoutMethod, hlayoutMethod, routingMethod, hroutingMethod,
      translationMethod, htranslationMethod, schedulingMethod, hschedulingMethod, degree, hdegree,
      synthesisMethod, hsynthesisMethod, h⟩
  · rintro ⟨initialLayout, hinitialLayout, layoutMethod, hlayoutMethod, routingMethod, hroutingMethod,
      translationMethod, htranslationMethod, schedulingMethod, hschedulingMethod, degree, hdegree,
      synthesisMethod, hsynthesisMethod, h⟩
    exact ⟨layoutMethod, hlayoutMethod, routingMethod, hroutingMethod, translationMethod,
      htranslationMethod, schedulingMethod, hschedulingMethod, synthesisMethod, hsynthesisMethod,
      initialLayout, hinitialLayout, degree, hdegree, h⟩

/-- Overrides are set by flags: each field has the checked value of its own flag, and those that have no
flag are open. -/
structure Sets (f : OverrideFlags) (o : Overrides) : Prop where
  layoutMethod : checkOption (checkMethod LayoutMethod.parse) f.layoutMethod = .ok o.layoutMethod
  routingMethod : checkOption (checkMethod RoutingMethod.parse) f.routingMethod = .ok o.routingMethod
  translationMethod :
    checkOption (checkMethod TranslationMethod.parse) f.translationMethod = .ok o.translationMethod
  schedulingMethod :
    checkOption (checkMethod SchedulingMethod.parse) f.schedulingMethod = .ok o.schedulingMethod
  synthesisMethod :
    checkOption (checkMethod SynthesisMethod.parse) f.synthesisMethod = .ok o.synthesisMethod
  initialLayout : checkOption checkPhysical f.initialLayout = .ok o.initialLayout
  degree : checkOption checkDegree f.degree = .ok o.degree
  seed : f.seed = o.seed
  device : o.basisGates = none ∧ o.schedules = none ∧ o.couplingMap = none ∧ o.durations = none ∧
    o.properties = none ∧ o.timing = none
  pluginConfig : o.pluginConfig = none

theorem sets_of_overrides (h : f.overrides = .ok o) : f.Sets o := by
  simp only [overrides, bind_eq_ok_iff] at h
  obtain ⟨layoutMethod, hlayoutMethod, routingMethod, hroutingMethod, translationMethod,
    htranslationMethod, schedulingMethod, hschedulingMethod, synthesisMethod, hsynthesisMethod,
    initialLayout, hinitialLayout, degree, hdegree, h⟩ := h
  cases h
  exact ⟨hlayoutMethod, hroutingMethod, htranslationMethod, hschedulingMethod, hsynthesisMethod,
    hinitialLayout, hdegree, rfl, ⟨rfl, rfl, rfl, rfl, rfl, rfl⟩, rfl⟩

/-- Flags set nothing but what is made of them. -/
theorem overrides_eq_ok_iff : f.overrides = .ok o ↔ f.Sets o := by
  refine ⟨sets_of_overrides, fun h => ?_⟩
  simp only [overrides, bind_eq_ok_iff]
  refine ⟨_, h.layoutMethod, _, h.routingMethod, _, h.translationMethod, _, h.schedulingMethod, _,
    h.synthesisMethod, _, h.initialLayout, _, h.degree, ?_⟩
  obtain ⟨hbasis, hschedules, hmap, hdurations, hproperties, htiming⟩ := h.device
  rw [Except.ok.injEq, h.seed, ← hbasis, ← hschedules, ← hmap, ← hdurations, ← hproperties, ← htiming,
    ← h.pluginConfig]

/-- Flags are accepted exactly if none of them is wrong. -/
theorem exists_overrides_iff : (∃ o, f.overrides = .ok o) ↔ ∀ field e, ¬f.Wrong field e := by
  rw [← faultOf_eq_none_iff, faultOf_overrides, List.findSome?_eq_none_iff]
  simp only [fault?_eq_none_iff, CheckedField.mem_flagOrder, true_imp_iff]

/-- **Flags and documents are checked alike.** They are accepted together, with the same overrides. One
wrong setting is reported in the same way by both; of several, a document reports the first in an
order of its own. -/
theorem overrides_alike (f : OverrideFlags) (d : OverrideDocument) :
    (∀ o, f.overrides = .ok o ↔ f.document.overrides = .ok o) ∧
      (∀ o, f.overrides = .ok o → f.Sets o) ∧
      ((∃ o, f.overrides = .ok o) ↔ ∀ field e, ¬f.Wrong field e) ∧
      (∀ field e, f.Wrong field e → (∀ field' e', f.Wrong field' e' → field' = field) →
        f.overrides = .error e ∧ f.document.overrides = .error e) ∧
      ∀ e, d.overrides = .error e ↔ d.flags.FirstWrong CheckedField.documentOrder e := by
  refine ⟨fun _ => overrides_eq_ok_iff_document, fun _ => sets_of_overrides, exists_overrides_iff,
    fun field e hwrong honly => ⟨?_, ?_⟩, fun _ => OverrideDocument.overrides_eq_error_iff⟩
  · exact overrides_eq_error_iff.2 (firstWrong_of_only field.mem_flagOrder hwrong honly)
  · exact OverrideDocument.overrides_eq_error_iff.2
      (firstWrong_of_only field.mem_documentOrder hwrong honly)

end OverrideFlags

/-- Overrides are set by a document: each field that a command line has is set as by its flag, and the
others are taken over. No document holds schedules. -/
structure OverrideDocument.Sets (d : OverrideDocument) (o : Overrides) : Prop where
  flags : d.flags.Sets
    { o with
      basisGates := none, schedules := none, couplingMap := none, durations := none
      properties := none, timing := none, pluginConfig := none }
  basisGates : d.basisGates = o.basisGates
  couplingMap : d.couplingMap = o.couplingMap
  durations : d.durations = o.durations
  properties : d.properties = o.properties
  timing : d.timing = o.timing
  pluginConfig : d.pluginConfig = o.pluginConfig
  schedules : o.schedules = none

theorem OverrideDocument.overrides_eq_ok_iff {d : OverrideDocument} {o : Overrides} :
    d.overrides = .ok o ↔ d.Sets o := by
  simp only [overrides, bind_eq_ok_iff]
  constructor
  · rintro ⟨initialLayout, hinitialLayout, layoutMethod, hlayoutMethod, routingMethod, hroutingMethod,
      translationMethod, htranslationMethod, schedulingMethod, hschedulingMethod, degree, hdegree,
      synthesisMethod, hsynthesisMethod, h⟩
    cases h
    exact ⟨⟨hlayoutMethod, hroutingMethod, htranslationMethod, hschedulingMethod, hsynthesisMethod,
      hinitialLayout, hdegree, rfl, ⟨rfl, rfl, rfl, rfl, rfl, rfl⟩, rfl⟩, rfl, rfl, rfl, rfl, rfl, rfl,
      rfl⟩
  · intro h
    refine ⟨_, h.flags.initialLayout, _, h.flags.layoutMethod, _, h.flags.routingMethod, _,
      h.flags.translationMethod, _, h.flags.schedulingMethod, _, h.flags.degree, _,
      h.flags.synthesisMethod, ?_⟩
    have hseed : d.seed = o.seed := h.flags.seed
    rw [Except.ok.injEq, h.basisGates, h.couplingMap, h.durations, h.properties, h.timing,
      h.pluginConfig, hseed, ← h.schedules]

namespace OverrideFlags

/-- Flags with a routing method that does not exist. -/
def misrouted : OverrideFlags where
  layoutMethod := some "dense"
  routingMethod := some "sabr"
  seed := some 7

/-- A document with a qubit twice in its layout, a degree outside the range and a plugin without a name. -/
def wrongThrice : OverrideDocument where
  initialLayout := some [2, 1, 2]
  degree := some 2.0
  synthesisMethod := some " "

/-- The routing method is alone in being wrong, and reported of the flags and of their document. Of three
wrong fields of a document the layout is reported. -/
theorem overrides_alike_misrouted :
    misrouted.Wrong .routingMethod (.unsupportedMethod ⟨.routing, "sabr"⟩) ∧
      (∀ field e, misrouted.Wrong field e → field = .routingMethod) ∧
      misrouted.overrides = .error (.unsupportedMethod ⟨.routing, "sabr"⟩) ∧
      misrouted.document.overrides = .error (.unsupportedMethod ⟨.routing, "sabr"⟩) ∧
      wrongThrice.flags.Wrong .degree (.invalidDegree 2.0) ∧
      wrongThrice.flags.Wrong .synthesisMethod (.unsupportedMethod ⟨.synthesis, " "⟩) ∧
      wrongThrice.overrides = .error (.invalidLayout (.physicalTaken 2 0 2)) := by
  obtain ⟨-, -, -, hone, hfirst⟩ := overrides_alike misrouted wrongThrice
  have hwrong : misrouted.Wrong .routingMethod (.unsupportedMethod ⟨.routing, "sabr"⟩) :=
    .method (show misrouted.method? .routing = some "sabr" from rfl)
      (show "sabr" ∉ Selector.routing.valid by decide)
  have honly : ∀ field e, misrouted.Wrong field e → field = .routingMethod := by
    intro field e h
    cases h with
    | @method selector name hname hrefused =>
      cases selector with
      | layout =>
        cases hname
        exact absurd hrefused (show ¬"dense" ∉ Selector.layout.valid by decide)
      | routing => rfl
      | translation => cases hname
      | scheduling => cases hname
      | synthesis => cases hname
    | initialLayout hphysical => cases hphysical
    | degree hx => cases hx
  obtain ⟨hflags, hdocument⟩ := hone _ _ hwrong honly
  refine ⟨hwrong, honly, hflags, hdocument, .degree rfl (by decide), ?_,
    (hfirst _).2 ⟨[], .initialLayout, _, rfl, by simp, ?_⟩⟩
  · exact .method (show wrongThrice.flags.method? .synthesis = some " " from rfl) (.inl (by decide))
  · exact .initialLayout rfl (.mk (show [2, 1, 2] = [2, 1] ++ 2 :: [] from rfl) (by decide) rfl)

end OverrideFlags

end PresetPipeline
