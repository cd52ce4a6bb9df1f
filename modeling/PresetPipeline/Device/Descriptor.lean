import PresetPipeline.Device.Target

/-!
# Device descriptors

The view of a device that a configuration is resolved against. A field is absent when the device
cannot supply it.

* `Descriptor` — the name, the count of qubits, and the six fields.
* `Backend.descriptor`, `Target.descriptor` — the two kinds of devices.
-/

set_option autoImplicit false

namespace PresetPipeline

structure Descriptor where
  name : String
  numQubits : Qubit
  couplingMap : Option CouplingMap
  basisGates : Option BasisGates
  durations : Option Durations
  schedules : Option ScheduleMap
  timing : Option TimingConstraints
  properties : Option Properties

def Backend.descriptor (b : Backend) : Descriptor where
  name := b.configuration.name
  numQubits := b.configuration.numQubits
  couplingMap := b.couplingMap?
  basisGates := some b.basisGates
  durations := b.durations?
  schedules := b.schedules?
  timing := some b.timing
  properties := b.properties

def Target.descriptor (t : Target) : Descriptor where
  name := t.name
  numQubits := t.numQubits
  couplingMap := t.couplingMap?
  basisGates := some t.operationNames
  durations := some t.durations
  schedules := some t.schedules
  timing := some t.timing
  properties := t.properties?

end PresetPipeline
