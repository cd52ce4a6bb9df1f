import PresetPipeline.Settings.Resolve

/-!
# Precedence of the sources

Resolution is a merge of three layers: overrides, the target, the backend.

* `DerivedField.Value` — the type of a derived field, so that a law about all six is one statement.
* `supplied` — what a source supplies of a field. `firstOf_fst`, `firstOf_snd` — the rule of one
  field picks the first source that supplies it.
* `Settings.IsMerge` — every derived field comes from the first source that supplies it and is
  labelled with this source; every other field is taken from the overrides.
* `Settings.toOverrides` — settings as overrides again. `Settings.SameValues` — two settings differ
  at most in the target and in the labels.
* `resolve_layered` — resolution is the merge. It may be done in two passes, the target before the
  backend, and repeating it changes no value.
-/

set_option autoImplicit false

namespace PresetPipeline

/-! ## Derived fields by name -/

/-- What a derived field holds. -/
def DerivedField.Value : DerivedField → Type
  | .connectivity => CouplingMap
  | .basisGates => BasisGates
  | .durations => Durations
  | .calibrationMap => ScheduleMap
  | .timingConstraints => TimingConstraints
  | .deviceProperties => Properties

def Overrides.derived (e : Overrides) : (f : DerivedField) → Option f.Value
  | .connectivity => e.couplingMap
  | .basisGates => e.basisGates
  | .durations => e.durations
  | .calibrationMap => e.schedules
  | .timingConstraints => e.timing
  | .deviceProperties => e.properties

def Descriptor.derived (d : Descriptor) : (f : DerivedField) → Option f.Value
  | .connectivity => d.couplingMap
  | .basisGates => d.basisGates
  | .durations => d.durations
  | .calibrationMap => d.schedules
  | .timingConstraints => d.timing
  | .deviceProperties => d.properties

def Settings.derived (s : Settings) : (f : DerivedField) → Option f.Value
  | .connectivity => s.couplingMap
  | .basisGates => s.basisGates
  | .durations => s.durations
  | .calibrationMap => s.schedules
  | .timingConstraints => s.timing
  | .deviceProperties => s.properties

variable {t : Option Target} {b : Option Descriptor} {e : Overrides} {f : DerivedField}

/-- What a source supplies of a field. -/
def supplied (t : Option Target) (b : Option Descriptor) (e : Overrides) (f : DerivedField) :
    Source → Option f.Value
  | .explicit => e.derived f
  | .target => t.bind fun t => t.descriptor.derived f
  | .backend => b.bind fun d => d.derived f
  | .unset => none

/-! ## The rule of one field -/

section FirstOf

variable {α : Type} {g : Source → Option α}

theorem firstOf_fst (x y z : Option α) : (firstOf x y z).1 = x.or (y.or z) := by
  unfold firstOf
  split
  · rfl
  · rfl
  · rfl
  · rfl

/-- The source of the rule is the first that supplies anything. -/
theorem firstOf_snd (hunset : g .unset = none) :
    (firstOf (g .explicit) (g .target) (g .backend)).2 =
      (Source.all.find? fun source => (g source).isSome).getD .unset := by
  unfold firstOf Source.all
  split
  · rename_i hx
    simp [hx]
  · rename_i hx hy
    simp [hx, hy]
  · rename_i hx hy hz
    simp [hx, hy, hz]
  · rename_i hx hy hz
    simp [hx, hy, hz, hunset]

/-- The value of the rule is what its source supplies. -/
theorem apply_firstOf_snd (hunset : g .unset = none) :
    g (firstOf (g .explicit) (g .target) (g .backend)).2 =
      (firstOf (g .explicit) (g .target) (g .backend)).1 := by
  unfold firstOf
  split
  · rename_i hx
    exact hx
  · rename_i hx hy
    exact hy
  · rename_i hx hy hz
    exact hz
  · exact hunset

/-- Nothing is recorded as the source exactly if there is no value. -/
theorem firstOf_snd_eq_unset {x y z : Option α} :
    (firstOf x y z).2 = .unset ↔ (firstOf x y z).1 = none := by
  unfold firstOf
  split
  · simp
  · simp
  · simp
  · simp

theorem firstOf_snd_eq_backend {x y z : Option α} :
    (firstOf x y z).2 = .backend ↔ x = none ∧ y = none ∧ z ≠ none := by
  unfold firstOf
  split
  · simp
  · simp
  · simp
  · simp

/-- The last source does not count if an earlier one supplies a value. -/
theorem firstOf_screened {x y z z' : Option α} (h : x ≠ none ∨ y ≠ none) :
    firstOf x y z = firstOf x y z' := by
  cases x with
  | some a => rfl
  | none =>
    cases y with
    | some a => rfl
    | none => simp at h

end FirstOf

/-! ## The merge -/

namespace Settings

/-- The rule of one field is applied to all six. -/
theorem resolve_derived :
    ((resolve t b e).derived f, (resolve t b e).provenance.source f) =
      firstOf (supplied t b e f .explicit) (supplied t b e f .target)
        (supplied t b e f .backend) := by
  cases t <;> cases f <;> rfl

/-- The settings are the merge of overrides, a target and a backend. -/
structure IsMerge (t : Option Target) (b : Option Descriptor) (e : Overrides) (s : Settings) :
    Prop where
  value : ∀ f, s.derived f =
    (supplied t b e f .explicit).or ((supplied t b e f .target).or (supplied t b e f .backend))
  source : ∀ f, s.provenance.source f =
    (Source.all.find? fun source => (supplied t b e f source).isSome).getD .unset
  supplier : ∀ f, s.derived f = supplied t b e f (s.provenance.source f)
  unset : ∀ f, s.provenance.source f = .unset ↔ s.derived f = none
  target : s.target = t
  initialLayout : s.initialLayout = e.initialLayout
  layoutMethod : s.layoutMethod = e.layoutMethod
  routingMethod : s.routingMethod = e.routingMethod
  translationMethod : s.translationMethod = e.translationMethod
  schedulingMethod : s.schedulingMethod = e.schedulingMethod
  degree : s.degree = e.degree
  seed : s.seed = e.seed
  synthesisMethod : s.synthesisMethod = e.synthesisMethod.getD .builtin
  pluginConfig : s.pluginConfig = e.pluginConfig

theorem isMerge_resolve : (resolve t b e).IsMerge t b e where
  value f := by
    rw [← firstOf_fst, ← resolve_derived]
  source f := by
    rw [← firstOf_snd rfl, ← resolve_derived]
  supplier f := by
    have hlayer := apply_firstOf_snd (g := supplied t b e f) rfl
    rw [← resolve_derived] at hlayer
    exact hlayer.symm
  unset f := by
    have hiff := firstOf_snd_eq_unset (x := supplied t b e f .explicit)
      (y := supplied t b e f .target) (z := supplied t b e f .backend)
    rw [← resolve_derived] at hiff
    exact hiff
  target := rfl
  initialLayout := rfl
  layoutMethod := rfl
  routingMethod := rfl
  translationMethod := rfl
  schedulingMethod := rfl
  degree := rfl
  seed := rfl
  synthesisMethod := rfl
  pluginConfig := rfl

/-! ## Resolution in passes -/

/-- Overrides that hold every value of the settings. -/
def toOverrides (s : Settings) : Overrides where
  basisGates := s.basisGates
  schedules := s.schedules
  couplingMap := s.couplingMap
  durations := s.durations
  properties := s.properties
  timing := s.timing
  initialLayout := s.initialLayout
  layoutMethod := s.layoutMethod
  routingMethod := s.routingMethod
  translationMethod := s.translationMethod
  schedulingMethod := s.schedulingMethod
  degree := s.degree
  seed := s.seed
  synthesisMethod := some s.synthesisMethod
  pluginConfig := s.pluginConfig

/-- Settings that agree on every field but the target and the provenance. -/
def SameValues (s s' : Settings) : Prop :=
  { s with target := s'.target, provenance := s'.provenance } = s'

theorem toOverrides_derived {s : Settings} : s.toOverrides.derived f = s.derived f := by
  cases f <;> rfl

/-- A second resolution has the same values if it has the same derived fields. -/
theorem sameValues_resolve {t₁ t₂ : Option Target} {b₁ b₂ : Option Descriptor}
    (h : ∀ f, (resolve t₂ b₂ (resolve t₁ b₁ e).toOverrides).derived f = (resolve t b e).derived f) :
    (resolve t₂ b₂ (resolve t₁ b₁ e).toOverrides).SameValues (resolve t b e) := by
  unfold SameValues
  refine (Settings.mk.injEq ..).mpr ⟨rfl, h .basisGates, h .calibrationMap, h .connectivity,
    h .durations, h .deviceProperties, h .timingConstraints, ?_⟩
  exact ⟨rfl, rfl, rfl, rfl, rfl, rfl, rfl, rfl, rfl, rfl⟩

theorem derived_two_passes :
    (resolve none b (resolve t none e).toOverrides).derived f = (resolve t b e).derived f := by
  rw [isMerge_resolve.value, isMerge_resolve.value]
  simp only [supplied, toOverrides_derived, isMerge_resolve.value, Option.bind_none, Option.or_none,
    Option.none_or, Option.or_assoc]

theorem derived_twice :
    (resolve t b (resolve t b e).toOverrides).derived f = (resolve t b e).derived f := by
  rw [isMerge_resolve.value]
  show ((resolve t b e).toOverrides.derived f).or _ = _
  rw [toOverrides_derived, isMerge_resolve.value, Option.or_assoc]
  show _ = (supplied t b e f .explicit).or _
  congr 1
  exact Option.or_self

/-- **Resolution merges the layers.** The target may be merged before the backend, and settings that
are merged again keep every value. -/
theorem resolve_layered (t : Option Target) (b : Option Descriptor) (e : Overrides) :
    (resolve t b e).IsMerge t b e ∧
      (resolve none b (resolve t none e).toOverrides).SameValues (resolve t b e) ∧
      (resolve t b (resolve t b e).toOverrides).SameValues (resolve t b e) := by
  refine ⟨isMerge_resolve, ?_, ?_⟩
  · apply sameValues_resolve
    intro f
    exact derived_two_passes
  · apply sameValues_resolve
    intro f
    exact derived_twice

end Settings

end PresetPipeline
