import PresetPipeline.Device.Backend
import PresetPipeline.Device.Error
import PresetPipeline.Document.Record

/-!
# Reading device records

The records of a device in any document format. Fields of other names are skipped.

* `readCouplingMap`, `readBasisGates`, `readTiming`, `readDurations`, `readProperties` — what a
  configuration may override.
* `readConfiguration`, `readPulseDefaults` — the other records that a backend consists of.
-/

set_option autoImplicit false

namespace PresetPipeline

variable {δ : Type} [Document δ]

/-- Reads a value and passes it on. -/
def Reader.map {α β : Type} (f : α → β) (read : Reader δ α) : Reader δ β := fun d n =>
  match read d n with
  | .error e => .error e
  | .ok (a, n) => .ok (f a, n)

def readQubits : Reader δ (List Qubit) := readList readIndex

def readEdge : Reader δ Edge := Reader.map (fun (a, b) => ⟨a, b⟩) (readPair readIndex readIndex)

def couplingShape : RecordShape δ CouplingRecord where
  fields := [.may "num_qubits" (readOption readIndex) fun n r => { r with numQubits := n },
    .must "edges" (readList readEdge) fun e r => { r with edges := e }]
  defaults := ⟨none, []⟩
  strict := false

/-- A complete record is checked at once. -/
def readCouplingMap : Reader δ CouplingMap := fun d n =>
  match couplingShape.read d n with
  | .error e => .error e
  | .ok (r, n) =>
    match CouplingMap.ofRecord r with
    | .error fault => .error (.rejected (DeviceError.invalidCouplingMap fault).message)
    | .ok m => .ok (m, n)

def readBasisGates : Reader δ BasisGates := Reader.map SortedSet.ofList (readList readText)

def readTiming : Reader δ TimingConstraints :=
  RecordShape.read
    { fields := [.may "granularity" readIndex fun n r => { r with granularity := n },
        .may "min_length" readIndex fun n r => { r with minLength := n },
        .may "pulse_alignment" readIndex fun n r => { r with pulseAlignment := n },
        .may "acquire_alignment" readIndex fun n r => { r with acquireAlignment := n }]
      defaults := .unit
      strict := false }

/-- An entry of a duration table. Without qubits it holds for any. -/
def readDurationEntry : Reader δ (Instruction × Float) :=
  RecordShape.read
    { fields := [.must "name" readText fun s r => ({ r.1 with name := s }, r.2),
        .may "qubits" readQubits fun q r => ({ r.1 with qubits := q }, r.2),
        .must "duration" readReal fun x r => (r.1, x)]
      defaults := (⟨"", []⟩, 0.0)
      strict := false }

def readDurations : Reader δ Durations :=
  Reader.map (fun (dt, entries) => .ofEntries dt entries) <|
    RecordShape.read
      { fields := [.may "dt" (readOption readReal) fun x r => (x, r.2),
          .must "entries" (readList readDurationEntry) fun l r => (r.1, l)]
        defaults := (none, [])
        strict := false }

def readQubitProperties : Reader δ QubitProperties :=
  RecordShape.read
    { fields := [.may "T1" (readOption readReal) fun x r => { r with t1 := x },
        .may "T2" (readOption readReal) fun x r => { r with t2 := x },
        .may "frequency" (readOption readReal) fun x r => { r with frequency := x },
        .may "readout_error" (readOption readReal) fun x r => { r with readoutError := x },
        .may "readout_length" (readOption readReal) fun x r => { r with readoutLength := x }]
      defaults := .unknown
      strict := false }

def readGateProperties : Reader δ GateProperties :=
  RecordShape.read
    { fields := [.must "gate" readText fun s r => { r with gate := s },
        .must "qubits" readQubits fun q r => { r with qubits := q },
        .may "gate_error" (readOption readReal) fun x r => { r with error := x },
        .may "gate_length" (readOption readReal) fun x r => { r with length := x }]
      defaults := ⟨"", [], none, none⟩
      strict := false }

def readProperties : Reader δ Properties :=
  RecordShape.read
    { fields := [.must "backend_name" readText fun s r => { r with deviceName := s },
        .may "backend_version" readText fun s r => { r with deviceVersion := s },
        .may "last_update_date" (readOption readText) fun s r => { r with lastUpdate := s },
        .must "qubits" (readList readQubitProperties) fun l r => { r with qubits := l },
        .must "gates" (readList readGateProperties) fun l r => { r with gates := l }]
      defaults := .new "" [] []
      strict := false }

def readPulse : Reader δ Pulse :=
  RecordShape.read
    { fields := [.must "name" readText fun s r => { r with name := s },
        .must "ch" readText fun s r => { r with channel := s },
        .must "t0" readWord fun n r => { r with start := n },
        .may "duration" readWord fun n r => { r with length := n }]
      defaults := ⟨"", "", 0, 0⟩
      strict := false }

/-- A schedule is the list of its pulses. -/
def readSchedule : Reader δ Schedule := Reader.map (⟨·⟩) (readList readPulse)

def readConfiguration : Reader δ Configuration :=
  RecordShape.read
    { fields := [.must "backend_name" readText fun s r => { r with name := s },
        .may "backend_version" readText fun s r => { r with version := s },
        .must "n_qubits" readIndex fun n r => { r with numQubits := n },
        .must "basis_gates" (readList readText) fun l r => { r with basisGates := l },
        .may "coupling_map" (readOption (readList readEdge)) fun l r => { r with couplingEdges := l },
        .may "simulator" readFlag fun b r => { r with simulator := b },
        .may "open_pulse" readFlag fun b r => { r with openPulse := b },
        .may "dt" (readOption readReal) fun x r => { r with dt := x },
        .may "timing_constraints" (readOption readTiming) fun t r => { r with timing := t }]
      defaults := ⟨"", "", 0, [], none, false, false, none, none⟩
      strict := false }

def readCommand : Reader δ Command :=
  RecordShape.read
    { fields := [.must "name" readText fun s r => { r with name := s },
        .must "qubits" readQubits fun q r => { r with qubits := q },
        .must "sequence" (readList readPulse) fun l r => { r with pulses := l }]
      defaults := ⟨"", [], []⟩
      strict := false }

def readPulseDefaults : Reader δ PulseDefaults :=
  RecordShape.read
    { fields := [.may "qubit_freq_est" (readList readReal) fun l r => { r with driveFrequencies := l },
        .may "meas_freq_est" (readList readReal) fun l r => { r with readoutFrequencies := l },
        .must "cmd_def" (readList readCommand) fun l r => { r with commands := l }]
      defaults := ⟨[], [], []⟩
      strict := false }

end PresetPipeline
