import PresetPipeline.Device.CouplingMap
import PresetPipeline.Device.BasisGates
import PresetPipeline.Device.TimingConstraints
import PresetPipeline.Device.Schedule
import PresetPipeline.Device.Durations

/-!
# Backends

A device as the records it publishes: a configuration, calibration properties and pulse defaults.

* `Backend` — records that agree with each other.
* `Backend.ofRecords` — accepts records, or tells the first way in which they disagree.
* `Backend.couplingMap?`, `durations?`, `schedules?` — what the records say of the device.
-/

set_option autoImplicit false

namespace PresetPipeline

/-- The configuration record of a device. -/
structure Configuration where
  name : String
  version : String
  numQubits : Qubit
  basisGates : List String
  /-- Absent when every pair of qubits may interact. -/
  couplingEdges : Option (List Edge)
  simulator : Bool
  openPulse : Bool
  /-- The sample time in seconds. -/
  dt : Option Float
  timing : Option TimingConstraints

/-- The pulses of an operation on a tuple of qubits. -/
structure Command where
  name : String
  qubits : List Qubit
  pulses : List Pulse
  deriving DecidableEq, Repr

/-- The pulse-defaults record of a device. Frequencies are in gigahertz. -/
structure PulseDefaults where
  driveFrequencies : List Float
  readoutFrequencies : List Float
  commands : List Command

/-- The schedule of each command; of a repeated one the last stays. -/
def PulseDefaults.schedules (d : PulseDefaults) : ScheduleMap :=
  .ofList (d.commands.map fun c => (⟨c.name, c.qubits⟩, ⟨c.pulses⟩))

/-- How the records of a device disagree. -/
inductive RecordFault where
  /-- The configuration has another number of qubits than is declared. -/
  | declared (configured label : Qubit)
  | edgeOutside (edge : Edge) (numQubits : Qubit)
  | qubitRecords (count : Nat) (numQubits : Qubit)
  | commandOutside (name : String) (qubits : List Qubit) (numQubits : Qubit)
  deriving DecidableEq, Repr

def RecordFault.message : RecordFault → String
  | .declared n m => "configuration has " ++ toString n ++ " qubits, record declares " ++ toString m
  | .edgeOutside e n => "coupling edge " ++ e.text ++ " outside " ++ toString n ++ " qubits"
  | .qubitRecords k n =>
    "properties describe " ++ toString k ++ " qubits, configuration has " ++ toString n
  | .commandOutside name qubits n =>
    "calibration '" ++ name ++ "' on " ++ showQubits qubits ++ " outside " ++ toString n ++ " qubits"

/-- The first coupling edge that is not within the device. -/
def Configuration.edgeOutside? (c : Configuration) : Option Edge :=
  (c.couplingEdges.getD []).find? fun e => !e.within c.numQubits

/-- The number of qubit records, when it is not the number of qubits. -/
def Configuration.miscounted? (c : Configuration) (properties : Option Properties) : Option Nat :=
  properties.bind fun p =>
    if p.qubits.length = c.numQubits.toNat then none else some p.qubits.length

/-- The first command on a qubit that the device does not have. -/
def Configuration.commandOutside? (c : Configuration) (defaults : Option PulseDefaults) :
    Option Command :=
  defaults.bind fun d => d.commands.find? fun k => k.qubits.any fun q => decide (c.numQubits ≤ q)

/-- The records of a device, in agreement. -/
structure Backend where
  configuration : Configuration
  properties : Option Properties
  defaults : Option PulseDefaults
  edges_within : configuration.edgeOutside? = none
  qubits_counted : configuration.miscounted? properties = none
  commands_within : configuration.commandOutside? defaults = none

namespace Backend

/-- The backend of the records, or the first disagreement: of an edge, then of the count of qubit
records, then of a command. -/
def ofRecords (c : Configuration) (properties : Option Properties)
    (defaults : Option PulseDefaults) : Except RecordFault Backend :=
  match h₁ : c.edgeOutside? with
  | some e => .error (.edgeOutside e c.numQubits)
  | none =>
    match h₂ : c.miscounted? properties with
    | some k => .error (.qubitRecords k c.numQubits)
    | none =>
      match h₃ : c.commandOutside? defaults with
      | some k => .error (.commandOutside k.name k.qubits c.numQubits)
      | none => .ok ⟨c, properties, defaults, h₁, h₂, h₃⟩

def couplingMap? (b : Backend) : Option CouplingMap :=
  b.configuration.couplingEdges.map fun edges => .ofEdges b.configuration.numQubits edges

def basisGates (b : Backend) : BasisGates := .ofList b.configuration.basisGates

def durations? (b : Backend) : Option Durations :=
  b.properties.map fun p => .ofProperties p b.configuration.dt

def schedules? (b : Backend) : Option ScheduleMap := b.defaults.map PulseDefaults.schedules

def timing (b : Backend) : TimingConstraints := b.configuration.timing.getD .unit

end Backend

end PresetPipeline
