/-!
# Provenance

Where the value of a derived field comes from.

* `DerivedField` — the six fields that a device can supply.
* `Source` — who supplied a field.
* `Provenance` — the source of each field.
-/

set_option autoImplicit false

namespace PresetPipeline

inductive DerivedField where
  | connectivity
  | basisGates
  | durations
  | calibrationMap
  | timingConstraints
  | deviceProperties
  deriving DecidableEq, Repr

namespace DerivedField

/-- Every derived field, in the order of resolution. -/
def all : List DerivedField :=
  [connectivity, basisGates, durations, calibrationMap, timingConstraints, deviceProperties]

def name : DerivedField → String
  | connectivity => "connectivity"
  | basisGates => "basis_gates"
  | durations => "durations"
  | calibrationMap => "calibration_map"
  | timingConstraints => "timing_constraints"
  | deviceProperties => "device_properties"

end DerivedField

inductive Source where
  /-- An override. -/
  | explicit
  /-- The device in the target's place. -/
  | target
  /-- The device in the backend's place. -/
  | backend
  | unset
  deriving DecidableEq, Repr

namespace Source

def all : List Source := [explicit, target, backend, unset]

def name : Source → String
  | explicit => "explicit"
  | target => "target"
  | backend => "backend"
  | unset => "unset"

end Source

structure Provenance where
  connectivity : Source
  basisGates : Source
  durations : Source
  calibrationMap : Source
  timingConstraints : Source
  deviceProperties : Source
  deriving DecidableEq, Repr

namespace Provenance

def source (p : Provenance) : DerivedField → Source
  | .connectivity => p.connectivity
  | .basisGates => p.basisGates
  | .durations => p.durations
  | .calibrationMap => p.calibrationMap
  | .timingConstraints => p.timingConstraints
  | .deviceProperties => p.deviceProperties

/-- Every field with its source. -/
def pairs (p : Provenance) : List (DerivedField × Source) :=
  DerivedField.all.map fun f => (f, p.source f)

end Provenance

end PresetPipeline
