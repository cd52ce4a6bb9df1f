import PresetPipeline.Device.Backend

/-!
# Targets

A device as one table of instructions. Every other description of it is a projection of the table.

* `Target.add` — registers an instruction.
* `Target.couplingMap?`, `operationNames`, `durations`, `schedules`, `properties?` — projections.
* `Target.ofBackend` — the table that the records of a backend amount to.
-/

set_option autoImplicit false

namespace PresetPipeline

/-- What is known of an instruction. -/
structure InstructionData where
  /-- Seconds. -/
  duration : Option Float
  error : Option Float
  calibration : Option Schedule
  deriving BEq

structure Target where
  name : String
  numQubits : Qubit
  /-- The sample time in seconds. -/
  dt : Option Float
  timing : TimingConstraints
  instructions : SortedMap Instruction InstructionData
  qubits : List QubitProperties

namespace Target

/-- A target without instructions. -/
def new (name : String) (numQubits : Qubit) : Target := ⟨name, numQubits, none, .unit, .empty, []⟩

/-- Registers an operation on a tuple of qubits; an earlier registration is replaced. -/
def add (t : Target) (name : String) (qubits : List Qubit) (data : InstructionData) : Target :=
  { t with instructions := t.instructions.insert ⟨name, qubits⟩ data }

def instruction? (t : Target) (name : String) (qubits : List Qubit) : Option InstructionData :=
  t.instructions.find? ⟨name, qubits⟩

/-- The edge of an instruction on two qubits. -/
def edgeOf? (i : Instruction) : Option Edge :=
  match i.qubits with
  | [a, b] => some ⟨a, b⟩
  | _ => none

/-- The graph of the two-qubit instructions; absent when there is none. -/
def couplingMap? (t : Target) : Option CouplingMap :=
  let edges := t.instructions.keys.filterMap edgeOf?
  if edges.isEmpty then none else some (.ofEdges t.numQubits edges)

def operationNames (t : Target) : BasisGates := .ofList (t.instructions.keys.map (·.name))

/-- The known durations. -/
def durations (t : Target) : Durations :=
  .ofEntries t.dt (t.instructions.entries.filterMap fun (i, data) => data.duration.map (i, ·))

/-- The known schedules. -/
def schedules (t : Target) : ScheduleMap :=
  .ofList (t.instructions.entries.filterMap fun (i, data) => data.calibration.map (i, ·))

/-- Sets the readout data of a qubit; records that are missing before it are unknown. -/
def setReadout (qubits : List QubitProperties) (q : Nat) (data : InstructionData) :
    List QubitProperties :=
  let padded := qubits ++ List.replicate (q + 1 - qubits.length) QubitProperties.unknown
  padded.modify q fun r => { r with readoutError := data.error, readoutLength := data.duration }

/-- Whether an error or a duration is known. -/
def InstructionData.isReported (data : InstructionData) : Bool :=
  data.error.isSome || data.duration.isSome

/-- The qubit records after an instruction: a reported measurement of one qubit is its readout. -/
def projectQubits (qubits : List QubitProperties) (entry : Instruction × InstructionData) :
    List QubitProperties :=
  match entry.1.name == "measure" && InstructionData.isReported entry.2, entry.1.qubits with
  | true, [q] => setReadout qubits q.toNat entry.2
  | _, _ => qubits

/-- The row of an instruction: every reported one but measurements has a row. -/
def gateRow? (entry : Instruction × InstructionData) : Option GateProperties :=
  if entry.1.name != "measure" && InstructionData.isReported entry.2 then
    some ⟨entry.1.name, entry.1.qubits, entry.2.error, entry.2.duration⟩
  else none

/-- The property table; absent when it would hold neither a qubit nor a gate. -/
def properties? (t : Target) : Option Properties :=
  let qubits := t.instructions.entries.foldl projectQubits t.qubits
  let gates := t.instructions.entries.filterMap gateRow?
  if qubits.isEmpty && gates.isEmpty then none else some (.new t.name qubits gates)

/-- Whether some row of the properties has this gate on two qubits. -/
def isTwoQubit (properties : Option Properties) (gate : String) : Bool :=
  properties.any fun p => p.gates.any fun g => g.gate == gate && g.qubits.length == 2

/-- The qubit tuples that a basis gate of a backend is registered on: every edge for a two-qubit
gate, and every single qubit for any other. -/
def tuplesOfGate (b : Backend) (gate : String) : List (List Qubit) :=
  if isTwoQubit b.properties gate then
    (b.configuration.couplingEdges.getD []).map fun e => [e.control, e.target]
  else (List.range b.configuration.numQubits.toNat).map fun q => [q.toUInt32]

/-- What the records of a backend say of a gate. -/
def gateData (b : Backend) (schedules : ScheduleMap) (i : Instruction) : InstructionData :=
  ⟨b.properties.bind (·.gateLength? i.name i.qubits), b.properties.bind (·.gateError? i.name i.qubits),
    schedules.find? i⟩

/-- What the record of a qubit says of its measurement. -/
def measureData (schedules : ScheduleMap) (i : Instruction) (q : QubitProperties) :
    InstructionData :=
  ⟨q.readoutLength, q.readoutError, schedules.find? i⟩

/-- The registrations that the records of a backend amount to: the basis gates in order, then a
measurement of each qubit that has a record. -/
def registrations (b : Backend) : List (Instruction × InstructionData) :=
  let schedules := b.schedules?.getD .empty
  (b.configuration.basisGates.flatMap fun gate =>
      (tuplesOfGate b gate).map fun qubits =>
        (⟨gate, qubits⟩, gateData b schedules ⟨gate, qubits⟩)) ++
    ((b.properties.map (·.qubits)).getD []).zipIdx.map fun (q, i) =>
      (⟨"measure", [i.toUInt32]⟩, measureData schedules ⟨"measure", [i.toUInt32]⟩ q)

/-- The target of a backend. -/
def ofBackend (b : Backend) : Target :=
  { name := b.configuration.name ++ "_v2"
    numQubits := b.configuration.numQubits
    dt := b.configuration.dt
    timing := b.timing
    instructions := .ofList (registrations b)
    qubits := (b.properties.map (·.qubits)).getD [] }

end Target

end PresetPipeline
