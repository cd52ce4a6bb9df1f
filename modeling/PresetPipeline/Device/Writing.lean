import PresetPipeline.Device.Descriptor
import PresetPipeline.Json.Value

/-!
# Writing device records

The records of a device as JSON values, with the same field names as in the documents they are read
from.

* `CouplingMap.toJson`, `Durations.toJson`, `Properties.toJson`, … — one function for each record.
-/

set_option autoImplicit false

namespace PresetPipeline

def jsonQubits (qubits : List Qubit) : Json := .ofNats (qubits.map (·.toNat))

/-- An optional number that is written as null when it is absent. -/
def jsonReal? (x : Option Float) : Json := .ofOption .ofFloat x

/-- An optional number that is left out when it is absent. -/
def omittedReal (name : String) (x : Option Float) : Option (String × Json) :=
  Json.omitted name (x.map .ofFloat)

def Edge.toJson (e : Edge) : Json := jsonQubits [e.control, e.target]

def jsonEdges (edges : List Edge) : Json := .array (edges.map Edge.toJson)

def CouplingRecord.toJson (r : CouplingRecord) : Json :=
  .object [("num_qubits", .ofOption (fun n => .ofNat n.toNat) r.numQubits),
    ("edges", jsonEdges r.edges)]

def CouplingMap.toJson (m : CouplingMap) : Json := m.toRecord.toJson

def BasisGates.toJson (b : BasisGates) : Json := .ofStrings b.toList

def TimingConstraints.toJson (t : TimingConstraints) : Json :=
  .object [("granularity", .ofNat t.granularity.toNat), ("min_length", .ofNat t.minLength.toNat),
    ("pulse_alignment", .ofNat t.pulseAlignment.toNat),
    ("acquire_alignment", .ofNat t.acquireAlignment.toNat)]

def Pulse.toJson (p : Pulse) : Json :=
  .object [("name", .string p.name), ("ch", .string p.channel), ("t0", .ofNat p.start.toNat),
    ("duration", .ofNat p.length.toNat)]

/-- A schedule, with the time at which it ends and the channels that it uses. -/
def Schedule.toJson (s : Schedule) : Json :=
  .object [("pulses", .array (s.pulses.map Pulse.toJson)), ("duration", .ofNat s.duration),
    ("channels", .ofStrings s.channels)]

def ScheduleMap.toJson (m : ScheduleMap) : Json :=
  .array (m.entries.map fun (i, s) => .array [.string i.name, jsonQubits i.qubits, s.toJson])

def Durations.entryToJson (entry : Instruction × Float) : Json :=
  .object [("name", .string entry.1.name), ("qubits", jsonQubits entry.1.qubits),
    ("duration", .ofFloat entry.2)]

def Durations.toJson (d : Durations) : Json :=
  .object [("dt", jsonReal? d.dt), ("entries", .array (d.table.entries.map Durations.entryToJson))]

def QubitProperties.toJson (q : QubitProperties) : Json :=
  .ofMembers [omittedReal "T1" q.t1, omittedReal "T2" q.t2, omittedReal "frequency" q.frequency,
    omittedReal "readout_error" q.readoutError, omittedReal "readout_length" q.readoutLength]

def GateProperties.toJson (g : GateProperties) : Json :=
  .ofMembers [Json.required "gate" (.string g.gate), Json.required "qubits" (jsonQubits g.qubits),
    omittedReal "gate_error" g.error, omittedReal "gate_length" g.length]

def Properties.toJson (p : Properties) : Json :=
  .ofMembers [Json.required "backend_name" (.string p.deviceName),
    Json.required "backend_version" (.string p.deviceVersion),
    Json.omitted "last_update_date" (p.lastUpdate.map .string),
    Json.required "qubits" (.array (p.qubits.map QubitProperties.toJson)),
    Json.required "gates" (.array (p.gates.map GateProperties.toJson))]

def Configuration.toJson (c : Configuration) : Json :=
  .ofMembers [Json.required "backend_name" (.string c.name),
    Json.required "backend_version" (.string c.version),
    Json.required "n_qubits" (.ofNat c.numQubits.toNat),
    Json.required "basis_gates" (.ofStrings c.basisGates),
    Json.omitted "coupling_map" (c.couplingEdges.map jsonEdges),
    Json.required "simulator" (.bool c.simulator), Json.required "open_pulse" (.bool c.openPulse),
    omittedReal "dt" c.dt, Json.omitted "timing_constraints" (c.timing.map (·.toJson))]

/-- Every field of a descriptor; an absent one is null. -/
def Descriptor.members (d : Descriptor) : List (String × Json) :=
  [("name", .string d.name), ("num_qubits", .ofNat d.numQubits.toNat),
    ("coupling_map", .ofOption CouplingMap.toJson d.couplingMap),
    ("operation_names", .ofOption BasisGates.toJson d.basisGates),
    ("durations", .ofOption Durations.toJson d.durations),
    ("schedules", .ofOption ScheduleMap.toJson d.schedules),
    ("timing", .ofOption TimingConstraints.toJson d.timing),
    ("properties", .ofOption Properties.toJson d.properties)]

end PresetPipeline
