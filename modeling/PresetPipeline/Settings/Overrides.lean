import PresetPipeline.Device.Descriptor
import PresetPipeline.Json.Value
import PresetPipeline.Settings.Degree
import PresetPipeline.Settings.Layout
import PresetPipeline.Settings.Method

/-!
# Overrides

What a caller sets explicitly. A field that is not set is derived from a device, or keeps its
default.

* `Overrides` — fifteen optional fields.
* `Overrides.overlay` — two layers; a field of the higher one wins.
-/

set_option autoImplicit false

namespace PresetPipeline

/-- Settings that are handed to a synthesis plugin as they are. -/
abbrev PluginConfig := SortedMap String Json

structure Overrides where
  basisGates : Option BasisGates := none
  schedules : Option ScheduleMap := none
  couplingMap : Option CouplingMap := none
  durations : Option Durations := none
  properties : Option Properties := none
  timing : Option TimingConstraints := none
  initialLayout : Option Layout := none
  layoutMethod : Option LayoutMethod := none
  routingMethod : Option RoutingMethod := none
  translationMethod : Option TranslationMethod := none
  schedulingMethod : Option SchedulingMethod := none
  degree : Option Degree := none
  /-- The seed of the random passes. -/
  seed : Option UInt64 := none
  synthesisMethod : Option SynthesisMethod := none
  pluginConfig : Option PluginConfig := none
  deriving BEq

namespace Overrides

/-- Nothing is set. -/
def empty : Overrides := {}

/-- Puts a layer on top: every field that is set in `higher` wins. -/
def overlay (lower higher : Overrides) : Overrides where
  basisGates := higher.basisGates.or lower.basisGates
  schedules := higher.schedules.or lower.schedules
  couplingMap := higher.couplingMap.or lower.couplingMap
  durations := higher.durations.or lower.durations
  properties := higher.properties.or lower.properties
  timing := higher.timing.or lower.timing
  initialLayout := higher.initialLayout.or lower.initialLayout
  layoutMethod := higher.layoutMethod.or lower.layoutMethod
  routingMethod := higher.routingMethod.or lower.routingMethod
  translationMethod := higher.translationMethod.or lower.translationMethod
  schedulingMethod := higher.schedulingMethod.or lower.schedulingMethod
  degree := higher.degree.or lower.degree
  seed := higher.seed.or lower.seed
  synthesisMethod := higher.synthesisMethod.or lower.synthesisMethod
  pluginConfig := higher.pluginConfig.or lower.pluginConfig

/-- The layers on top of each other, lowest first. -/
def overlayAll (layers : List Overrides) : Overrides := layers.foldl overlay empty

end Overrides

end PresetPipeline
