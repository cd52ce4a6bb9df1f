import Mathlib.Data.List.Nodup
import PresetPipeline.Device.Catalog

/-!
# Names in the catalog

A device is found by its name in any letter case, or by such a name with the suffix of targets behind it.
The suffix itself has to be in small letters.

* `Catalog.baseName_append`, `Catalog.baseName_of_not_isTargetName` — a name without the suffix.
* `DeviceRecord.IsCalled` — the texts that a device is found by. `Catalog.isCalled_iff` — where the case
  of their letters counts.
* `Catalog.lookup_cases` — what a look-up comes to. `Catalog.lookup_eq_ok_iff`,
  `Catalog.lookup_eq_error_iff` — a device is found by these texts and by no others.
* `Catalog.Alike` — two look-ups find the same. `Catalog.alike_lookup_of_sameUpToCase` — when they do so
  for texts that differ in case only.
* `Catalog.lookup_exact` — all of this. `Catalog.lookup_capitalSuffix` — with a capital letter in the
  suffix no device is found.
-/

set_option autoImplicit false

namespace PresetPipeline

/-! ## Letter case -/

namespace Text

variable {s t : String}

theorem sameUpToCase_comm : sameUpToCase s t = sameUpToCase t s := Bool.beq_comm

theorem lowercase_append (s t : String) : lowercase (s ++ t) = lowercase s ++ lowercase t := by
  rw [lowercase, String.toList_append, List.map_append]
  rfl

theorem length_lowercase (s : String) : (lowercase s).length = s.length := by
  rw [lowercase, List.length_map, String.length_toList]

end Text

namespace Catalog

variable {s : String}

/-! ## The suffix of targets -/

/-- A text that ends in the suffix of targets, in small letters. -/
def IsTargetName (s : String) : Prop := ∃ base, s = base ++ targetSuffix

theorem baseName_append (base : String) : baseName (base ++ targetSuffix) = base := by
  have hprefix : targetSuffix.toList.reverse.isPrefixOf (base ++ targetSuffix).toList.reverse = true := by
    rw [List.isPrefixOf_iff_prefix, List.reverse_prefix, String.toList_append]
    exact List.suffix_append _ _
  rw [baseName, if_pos hprefix, String.length_append, Nat.add_sub_cancel, String.toList_append,
    ← String.length_toList, List.take_left, String.ofList_toList]

theorem baseName_of_not_isTargetName (h : ¬IsTargetName s) : baseName s = s := by
  rw [baseName, if_neg]
  intro hprefix
  rw [List.isPrefixOf_iff_prefix, List.reverse_prefix] at hprefix
  obtain ⟨base, hbase⟩ := hprefix
  refine h ⟨.ofList base, ?_⟩
  rw [← String.toList_inj, String.toList_append, String.toList_ofList, hbase]

end Catalog

/-! ## The texts that a device is found by -/

/-- A text is the name of a device, or its name with the suffix behind it. Only in the name itself the
case of letters does not count. -/
def DeviceRecord.IsCalled (r : DeviceRecord) (s : String) : Prop :=
  Text.sameUpToCase s r.name = true ∨
    ∃ base, s = base ++ Catalog.targetSuffix ∧ Text.sameUpToCase base r.name = true

namespace Catalog

variable {s t : String} {r r' : DeviceRecord}

/-- The name of a device with the suffix behind it, all in any letter case. -/
def IsNameOfTarget (r : DeviceRecord) (s : String) : Prop :=
  Text.sameUpToCase s (r.name ++ targetSuffix) = true

theorem isNameOfTarget_iff :
    IsNameOfTarget r s ↔ Text.lowercase s = Text.lowercase r.name ++ Text.lowercase targetSuffix := by
  rw [IsNameOfTarget, Text.sameUpToCase_iff, Text.lowercase_append]

/-- No text is the name of a device with and without the suffix. -/
theorem not_isNameOfTarget (h : Text.sameUpToCase s r.name = true) : ¬IsNameOfTarget r s := by
  rw [isNameOfTarget_iff, Text.sameUpToCase_iff.1 h]
  intro heq
  have hlength := congrArg List.length heq
  rw [List.length_append, Text.length_lowercase targetSuffix] at hlength
  have hsuffix : targetSuffix.length = 3 := rfl
  omega

/-- A device is found by what is its name up to case, and by what is its name and the suffix up to case
if the suffix is in small letters. -/
theorem isCalled_iff :
    r.IsCalled s ↔ Text.sameUpToCase s r.name = true ∨ IsNameOfTarget r s ∧ IsTargetName s := by
  refine or_congr_right ?_
  constructor
  · rintro ⟨base, rfl, hbase⟩
    rw [isNameOfTarget_iff, Text.lowercase_append, Text.sameUpToCase_iff.1 hbase]
    exact ⟨rfl, base, rfl⟩
  · rintro ⟨hname, base, rfl⟩
    rw [isNameOfTarget_iff, Text.lowercase_append] at hname
    exact ⟨base, rfl, Text.sameUpToCase_iff.2 (List.append_cancel_right hname)⟩

/-- No device has a name that ends in the suffix. -/
theorem not_isTargetName_of_mem (hr : r ∈ devices) (h : Text.sameUpToCase s r.name = true) :
    ¬IsTargetName s := by
  have hall : ∀ r ∈ devices, ¬Text.lowercase targetSuffix <:+ Text.lowercase r.name := by decide +kernel
  rintro ⟨base, rfl⟩
  rw [Text.sameUpToCase_iff, Text.lowercase_append] at h
  exact hall r hr ⟨_, h⟩

/-- What is compared with the names tells the texts that a device is found by. -/
theorem sameUpToCase_baseName_iff (hr : r ∈ devices) :
    Text.sameUpToCase r.name (baseName s) = true ↔ r.IsCalled s := by
  rw [Text.sameUpToCase_comm]
  by_cases h : IsTargetName s
  · obtain ⟨base, rfl⟩ := h
    rw [baseName_append]
    constructor
    · intro hbase
      exact .inr ⟨base, rfl, hbase⟩
    · rintro (hname | ⟨base', heq, hbase⟩)
      · exact absurd ⟨base, rfl⟩ (not_isTargetName_of_mem hr hname)
      · obtain rfl : base = base' := by
          rw [← String.toList_inj] at heq ⊢
          rw [String.toList_append, String.toList_append] at heq
          exact List.append_cancel_right heq
        exact hbase
  · rw [baseName_of_not_isTargetName h]
    constructor
    · exact .inl
    · rintro (hname | ⟨base, rfl, -⟩)
      · exact hname
      · exact absurd ⟨base, rfl⟩ h

/-- The names of the devices differ in more than their case, so a text calls one of them at most. -/
theorem eq_of_isCalled (hr : r ∈ devices) (hr' : r' ∈ devices) (h : r.IsCalled s) (h' : r'.IsCalled s) :
    r = r' := by
  have hnodup : (devices.map fun r => Text.lowercase r.name).Nodup := by decide +kernel
  rw [← sameUpToCase_baseName_iff hr, Text.sameUpToCase_iff] at h
  rw [← sameUpToCase_baseName_iff hr', Text.sameUpToCase_iff] at h'
  exact List.inj_on_of_nodup_map hnodup hr hr' (h.trans h'.symm)

/-! ## Look-ups -/

/-- A device is found by what it is called, or there is none and the names of all devices are told. -/
theorem lookup_cases (s : String) :
    (∃ r ∈ devices, r.IsCalled s ∧ lookup s = .ok r) ∨
      (∀ r ∈ devices, ¬r.IsCalled s) ∧ lookup s = .error (.unknownDevice s (devices.map (·.name))) := by
  rw [lookup]
  split
  · rename_i r hfind
    have hmem := List.mem_of_find?_eq_some hfind
    have hname := (List.find?_eq_some_iff_append.1 hfind).1
    exact .inl ⟨r, hmem, (sameUpToCase_baseName_iff hmem).1 hname, rfl⟩
  · rename_i hfind
    refine .inr ⟨fun r hmem hcalled => ?_, rfl⟩
    exact List.find?_eq_none.1 hfind r hmem ((sameUpToCase_baseName_iff hmem).2 hcalled)

theorem lookup_eq_ok_iff : lookup s = .ok r ↔ r ∈ devices ∧ r.IsCalled s := by
  obtain ⟨r', hmem', hcalled', hlookup⟩ | ⟨hnone, hlookup⟩ := lookup_cases s
  · rw [hlookup, Except.ok.injEq]
    constructor
    · rintro rfl
      exact ⟨hmem', hcalled'⟩
    · rintro ⟨hmem, hcalled⟩
      exact eq_of_isCalled hmem' hmem hcalled' hcalled
  · rw [hlookup]
    exact iff_of_false (fun h => by cases h) fun h => hnone r h.1 h.2

theorem lookup_eq_error_iff {e : DeviceError} :
    lookup s = .error e ↔
      (∀ r ∈ devices, ¬r.IsCalled s) ∧ .unknownDevice s (devices.map (·.name)) = e := by
  obtain ⟨r', hmem', hcalled', hlookup⟩ | ⟨hnone, hlookup⟩ := lookup_cases s
  · rw [hlookup]
    exact iff_of_false (fun h => by cases h) fun h => h.1 r' hmem' hcalled'
  · rw [hlookup, Except.error.injEq]
    exact (and_iff_right hnone).symm

/-- Two look-ups find the same device, or neither knows the device. -/
inductive Alike : Except DeviceError DeviceRecord → Except DeviceError DeviceRecord → Prop where
  | found (r : DeviceRecord) : Alike (.ok r) (.ok r)
  | unknown {s t : String} {names names' : List String} :
      Alike (.error (.unknownDevice s names)) (.error (.unknownDevice t names'))

theorem Alike.eq_ok_iff {a b : Except DeviceError DeviceRecord} (h : Alike a b) :
    a = .ok r ↔ b = .ok r := by
  cases h with
  | found => exact Iff.rfl
  | unknown => exact iff_of_false (fun h => by cases h) fun h => by cases h

theorem alike_lookup_iff :
    Alike (lookup s) (lookup t) ↔ ∀ r ∈ devices, (r.IsCalled s ↔ r.IsCalled t) := by
  constructor
  · intro h r hmem
    have hfound := h.eq_ok_iff (r := r)
    rwa [lookup_eq_ok_iff, lookup_eq_ok_iff, and_iff_right hmem, and_iff_right hmem] at hfound
  · intro h
    obtain ⟨r, hmem, hcalled, hs⟩ | ⟨hnone, hs⟩ := lookup_cases s
    · have ht : lookup t = .ok r := lookup_eq_ok_iff.2 ⟨hmem, (h r hmem).1 hcalled⟩
      rw [hs, ht]
      exact .found r
    · have ht := lookup_eq_error_iff.2 ⟨fun r hmem hcalled => hnone r hmem ((h r hmem).2 hcalled), rfl⟩
      rw [hs, ht]
      exact .unknown

/-- Texts that differ in case only are looked up alike if both or neither have the suffix in small
letters. If just one has it, they are unless they are the name of a device with the suffix. -/
theorem alike_lookup_of_sameUpToCase (h : Text.sameUpToCase s t = true) :
    Alike (lookup s) (lookup t) ↔
      (IsTargetName s ↔ IsTargetName t) ∨ ∀ r ∈ devices, ¬IsNameOfTarget r s := by
  have hcase := Text.sameUpToCase_iff.1 h
  have hname : ∀ r : DeviceRecord, Text.sameUpToCase t r.name = Text.sameUpToCase s r.name := by
    intro r
    rw [Text.sameUpToCase, Text.sameUpToCase, hcase]
  have htarget : ∀ r, IsNameOfTarget r t ↔ IsNameOfTarget r s := by
    intro r
    rw [isNameOfTarget_iff, isNameOfTarget_iff, hcase]
  simp only [alike_lookup_iff, isCalled_iff, hname, htarget]
  constructor
  · intro hall
    by_cases hsuffix : IsTargetName s ↔ IsTargetName t
    · exact .inl hsuffix
    · -- A name with the suffix is no name without it, so that the suffix alone decides.
      refine .inr fun r hmem hr => hsuffix ?_
      have hnot : ¬Text.sameUpToCase s r.name = true := fun hr' => not_isNameOfTarget hr' hr
      simpa [hnot, hr] using hall r hmem
  · rintro (hsuffix | hnone) r hmem
    · rw [hsuffix]
    · simp [hnone r hmem]

/-- **A device is found by its name in any letter case, and by such a name with the suffix in small
letters.** Any other text is reported as unknown. So the case of letters counts in the suffix, and only
there. -/
theorem lookup_exact (s t : String) :
    (∀ r, lookup s = .ok r ↔ r ∈ devices ∧ r.IsCalled s) ∧
      (∀ e, lookup s = .error e ↔ (∀ r ∈ devices, ¬r.IsCalled s) ∧
        .unknownDevice s (devices.map (·.name)) = e) ∧
      (Text.sameUpToCase s t = true → (Alike (lookup s) (lookup t) ↔
        (IsTargetName s ↔ IsTargetName t) ∨ ∀ r ∈ devices, ¬IsNameOfTarget r s)) :=
  ⟨fun _ => lookup_eq_ok_iff, fun _ => lookup_eq_error_iff, alike_lookup_of_sameUpToCase⟩

/-- The name may be in any letter case before the suffix. -/
theorem lookup_exact_mixedCase :
    Text.sameUpToCase "FAKE_London_v2" "fake_LONDON_v2" = true ∧ lookup "FAKE_London_v2" = .ok london ∧
      Alike (lookup "FAKE_London_v2") (lookup "fake_LONDON_v2") := by
  have hcase : Text.sameUpToCase "FAKE_London_v2" "fake_LONDON_v2" = true := by decide +kernel
  have hcalled : london.IsCalled "FAKE_London_v2" := .inr ⟨"FAKE_London", rfl, by decide +kernel⟩
  have hsuffix : IsTargetName "FAKE_London_v2" ↔ IsTargetName "fake_LONDON_v2" :=
    iff_of_true ⟨"FAKE_London", rfl⟩ ⟨"fake_LONDON", rfl⟩
  obtain ⟨hfound, -, halike⟩ := lookup_exact "FAKE_London_v2" "fake_LONDON_v2"
  exact ⟨hcase, (hfound london).2 ⟨List.mem_cons_self, hcalled⟩, (halike hcase).2 (.inl hsuffix)⟩

/-- The suffix with a capital letter is not taken for it, so that no device is found. -/
theorem lookup_capitalSuffix :
    Text.sameUpToCase "fake_london_v2" "fake_london_V2" = true ∧ lookup "fake_london_v2" = .ok london ∧
      lookup "fake_london_V2" = .error (.unknownDevice "fake_london_V2" ["fake_london", "fake_montreal"]) ∧
      ¬Alike (lookup "fake_london_v2") (lookup "fake_london_V2") := by
  have hfound : lookup "fake_london_v2" = .ok london := rfl
  have hunknown : lookup "fake_london_V2" =
      .error (.unknownDevice "fake_london_V2" ["fake_london", "fake_montreal"]) := rfl
  refine ⟨by decide +kernel, hfound, hunknown, fun halike => ?_⟩
  have hboth := halike.eq_ok_iff.1 hfound
  cases hunknown.symm.trans hboth

end Catalog

end PresetPipeline
