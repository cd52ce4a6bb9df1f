import PresetPipeline.Proofs.Settings.Precedence

/-!
# Layers of overrides

What layers of overrides on top of each other amount to.

* `Overrides.Field`, `Overrides.field?` — the fifteen fields by name, so that a law about all of them
  is one statement.
* `field?_overlay` — of two layers, a field is taken from the higher one if that sets it.
* `field?_overlayAll` — of any number of layers, a field is taken from the last one that sets it.
* `Settings.fallback?` — what a setting is when no layer sets it.
* `overlay_lawful` — layers form an idempotent monoid, and resolution takes every setting from the
  highest layer that has it.
-/

set_option autoImplicit false

namespace PresetPipeline

/-! ## The fields by name -/

inductive Overrides.Field where
  /-- A field that a device can supply. -/
  | derived (f : DerivedField)
  | initialLayout
  | layoutMethod
  | routingMethod
  | translationMethod
  | schedulingMethod
  | degree
  | seed
  | synthesisMethod
  | pluginConfig

/-- What a field holds. -/
def Overrides.Field.Value : Field → Type
  | derived f => f.Value
  | initialLayout => Layout
  | layoutMethod => LayoutMethod
  | routingMethod => RoutingMethod
  | translationMethod => TranslationMethod
  | schedulingMethod => SchedulingMethod
  | degree => Degree
  | seed => UInt64
  | synthesisMethod => SynthesisMethod
  | pluginConfig => PluginConfig

namespace Overrides

variable {a b : Overrides} {f : Field}

/-- The value of a field, if it is set. -/
def field? (e : Overrides) : (f : Field) → Option f.Value
  | .derived f => e.derived f
  | .initialLayout => e.initialLayout
  | .layoutMethod => e.layoutMethod
  | .routingMethod => e.routingMethod
  | .translationMethod => e.translationMethod
  | .schedulingMethod => e.schedulingMethod
  | .degree => e.degree
  | .seed => e.seed
  | .synthesisMethod => e.synthesisMethod
  | .pluginConfig => e.pluginConfig

/-- Overrides are what their fields hold. -/
theorem ext_field? (h : ∀ f, a.field? f = b.field? f) : a = b := by
  cases a
  cases b
  exact (Overrides.mk.injEq ..).mpr ⟨h (.derived .basisGates), h (.derived .calibrationMap),
    h (.derived .connectivity), h (.derived .durations), h (.derived .deviceProperties),
    h (.derived .timingConstraints), h .initialLayout, h .layoutMethod, h .routingMethod,
    h .translationMethod, h .schedulingMethod, h .degree, h .seed, h .synthesisMethod,
    h .pluginConfig⟩

@[simp] theorem field?_empty : empty.field? f = none := by
  cases f with
  | derived f => cases f <;> rfl
  | _ => rfl

@[simp] theorem field?_overlay :
    (a.overlay b).field? f = (b.field? f).or (a.field? f) := by
  cases f with
  | derived f => cases f <;> rfl
  | _ => rfl

/-! ## The monoid of layers -/

theorem overlay_assoc (a b c : Overrides) : (a.overlay b).overlay c = a.overlay (b.overlay c) := by
  apply ext_field?
  intro f
  simp only [field?_overlay, Option.or_assoc]

theorem empty_overlay (a : Overrides) : empty.overlay a = a := by
  apply ext_field?
  intro f
  rw [field?_overlay, field?_empty, Option.or_none]

theorem overlay_empty (a : Overrides) : a.overlay empty = a := by
  apply ext_field?
  intro f
  rw [field?_overlay, field?_empty, Option.none_or]

theorem overlay_self (a : Overrides) : a.overlay a = a := by
  apply ext_field?
  intro f
  rw [field?_overlay, Option.or_self]

/-- A field shows through the layers on top that do not set it. -/
theorem field?_foldl_overlay (layers : List Overrides) (e : Overrides) :
    (layers.foldl overlay e).field? f =
      (layers.filterMap (·.field? f)).getLast?.or (e.field? f) := by
  induction layers generalizing e with
  | nil => rw [List.filterMap_nil, List.getLast?_nil, Option.none_or]; rfl
  | cons layer rest ih =>
    rw [List.foldl_cons, ih, field?_overlay, List.filterMap_cons]
    cases layer.field? f with
    | none => rw [Option.none_or]
    | some v => rw [List.getLast?_cons, Option.some_or, Option.some_or, Option.or_some]

theorem field?_overlayAll (layers : List Overrides) (f : Field) :
    (overlayAll layers).field? f = (layers.filterMap (·.field? f)).getLast? := by
  rw [overlayAll, field?_foldl_overlay, field?_empty, Option.or_none]

end Overrides

/-! ## Layers and devices -/

namespace Settings

variable {t : Option Target} {b : Option Descriptor} {e : Overrides} {f : Overrides.Field}

/-- What a setting is when no layer sets it. A field that a device can supply is taken from the
target, or else from the backend; the synthesis is the one that is built in. -/
def fallback? (t : Option Target) (b : Option Descriptor) : (f : Overrides.Field) → Option f.Value
  | .derived f => (t.bind fun t => t.descriptor.derived f).or (b.bind fun d => d.derived f)
  | .synthesisMethod => some SynthesisMethod.builtin
  | _ => none

theorem field?_resolve :
    (resolve t b e).toOverrides.field? f = (e.field? f).or (fallback? t b f) := by
  cases f with
  | derived f =>
    show (resolve t b e).toOverrides.derived f = _
    rw [toOverrides_derived, isMerge_resolve.value]
    rfl
  | synthesisMethod =>
    show some (e.synthesisMethod.getD .builtin) = e.synthesisMethod.or (some .builtin)
    rw [Option.or_some]
  | _ => exact Option.or_none.symm

/-- **Layers form a monoid, in which the last layer that sets a field counts.** On top of devices, the
flags count before the file, and both before the target and the backend. -/
theorem overlay_lawful :
    (∀ a b c : Overrides, (a.overlay b).overlay c = a.overlay (b.overlay c)) ∧
      (∀ a : Overrides, Overrides.empty.overlay a = a ∧ a.overlay .empty = a ∧ a.overlay a = a) ∧
      (∀ (layers : List Overrides) (f : Overrides.Field),
        (Overrides.overlayAll layers).field? f = (layers.filterMap (·.field? f)).getLast?) ∧
      ∀ (t : Option Target) (b : Option Descriptor) (file flags : Overrides) (f : Overrides.Field),
        (resolve t b (file.overlay flags)).toOverrides.field? f =
          (flags.field? f).or ((file.field? f).or (fallback? t b f)) := by
  refine ⟨Overrides.overlay_assoc, ?_, Overrides.field?_overlayAll, ?_⟩
  · intro a
    exact ⟨Overrides.empty_overlay a, Overrides.overlay_empty a, Overrides.overlay_self a⟩
  · intro t b file flags f
    rw [field?_resolve, Overrides.field?_overlay, Option.or_assoc]

end Settings

end PresetPipeline
