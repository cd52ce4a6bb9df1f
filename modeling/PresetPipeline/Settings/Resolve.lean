import PresetPipeline.Settings.Overrides
import PresetPipeline.Settings.Error

/-!
# Resolved settings

The settings that a pipeline is built from. Each field that a device can supply is taken from the
first source that has it: the overrides, the target, the backend.

* `Settings` — all fields, and where the derived ones come from.
* `firstOf` — the rule of one field.
* `Settings.resolve` — the rule for all fields.
* `Settings.checkLayout` — the initial layout fits on the device.
-/

set_option autoImplicit false

namespace PresetPipeline

structure Settings where
  /-- The device in the target's place. -/
  target : Option Target
  basisGates : Option BasisGates
  schedules : Option ScheduleMap
  couplingMap : Option CouplingMap
  durations : Option Durations
  properties : Option Properties
  timing : Option TimingConstraints
  initialLayout : Option Layout
  layoutMethod : Option LayoutMethod
  routingMethod : Option RoutingMethod
  translationMethod : Option TranslationMethod
  schedulingMethod : Option SchedulingMethod
  degree : Option Degree
  seed : Option UInt64
  synthesisMethod : SynthesisMethod
  pluginConfig : Option PluginConfig
  provenance : Provenance

/-- The first of three optional values, and its source. -/
def firstOf {α : Type} (explicit target backend : Option α) : Option α × Source :=
  match explicit, target, backend with
  | some a, _, _ => (some a, .explicit)
  | none, some a, _ => (some a, .target)
  | none, none, some a => (some a, .backend)
  | none, none, none => (none, .unset)

namespace Settings

/-- The settings of overrides, a target and a backend. -/
def resolve (target : Option Target) (backend : Option Descriptor) (explicit : Overrides) :
    Settings :=
  let device := target.map Target.descriptor
  let couplingMap := firstOf explicit.couplingMap (device.bind (·.couplingMap))
    (backend.bind (·.couplingMap))
  let basisGates := firstOf explicit.basisGates (device.bind (·.basisGates))
    (backend.bind (·.basisGates))
  let durations := firstOf explicit.durations (device.bind (·.durations))
    (backend.bind (·.durations))
  let schedules := firstOf explicit.schedules (device.bind (·.schedules))
    (backend.bind (·.schedules))
  let timing := firstOf explicit.timing (device.bind (·.timing)) (backend.bind (·.timing))
  let properties := firstOf explicit.properties (device.bind (·.properties))
    (backend.bind (·.properties))
  { target
    basisGates := basisGates.1
    schedules := schedules.1
    couplingMap := couplingMap.1
    durations := durations.1
    properties := properties.1
    timing := timing.1
    initialLayout := explicit.initialLayout
    layoutMethod := explicit.layoutMethod
    routingMethod := explicit.routingMethod
    translationMethod := explicit.translationMethod
    schedulingMethod := explicit.schedulingMethod
    degree := explicit.degree
    seed := explicit.seed
    synthesisMethod := explicit.synthesisMethod.getD .builtin
    pluginConfig := explicit.pluginConfig
    provenance :=
      { connectivity := couplingMap.2
        basisGates := basisGates.2
        durations := durations.2
        calibrationMap := schedules.2
        timingConstraints := timing.2
        deviceProperties := properties.2 } }

/-- Whether some instruction has a schedule. -/
def hasCalibrations (s : Settings) : Bool := s.schedules.any fun m => !m.isEmpty

/-- The timing constraints, if they restrict anything. -/
def activeTiming? (s : Settings) : Option TimingConstraints :=
  s.timing.filter fun t => !t.isUnconstrained

/-- The count of physical qubits: of the graph, or else of the target. -/
def numPhysical? (s : Settings) : Option Qubit :=
  (s.couplingMap.map (·.numQubits)).or (s.target.map (·.numQubits))

/-- An initial layout must fit on the device, if its size is known. -/
def checkLayout (s : Settings) : Except LayoutFault Unit :=
  match s.initialLayout, s.numPhysical? with
  | some layout, some n =>
    if n.toNat < layout.size then .error (.tooMany layout.size n) else layout.checkFits n
  | _, _ => .ok ()

/-- Whether a plugin configuration is set that no plugin will read. -/
def ignoresPluginConfig (s : Settings) : Bool := s.pluginConfig.isSome && s.synthesisMethod.isBuiltin

end Settings

end PresetPipeline
