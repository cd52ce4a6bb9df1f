import PresetPipeline.Device.Backend

/-!
# Data sheets of devices

The records of a bundled device, built from the numbers that tell its qubits and edges apart.

* `Sheet` — the numbers.
* `Sheet.configuration`, `Sheet.properties`, `Sheet.pulseDefaults` — the records.
-/

set_option autoImplicit false

namespace PresetPipeline

/-- The measured data of a qubit. -/
structure QubitSheet where
  t1 : Float
  t2 : Float
  frequency : Float
  readoutError : Float
  /-- The error of each of its pulsed gates. -/
  gateError : Float

/-- The measured data of a controlled-X. -/
structure EdgeSheet where
  edge : Edge
  error : Float
  length : Float

structure Sheet where
  name : String
  version : String
  openPulse : Bool
  timing : Option TimingConstraints
  readoutLength : Float
  resetLength : Float
  qubits : List QubitSheet
  edges : List EdgeSheet

/-- Lengths of the pulses that a device plays, in sample times. -/
structure PulseSheet where
  driveFrequencies : List Float
  readoutFrequencies : List Float
  /-- The length of half a cross-resonance drive, for each edge. -/
  crossLengths : List UInt64

namespace Sheet

/-- The sample time of every bundled device, in seconds. -/
def sampleTime : Float := 2.222222222222222e-10

/-- The length of every pulsed gate on one qubit, in seconds. -/
def gateLength : Float := 3.5555556e-8

/-- The length of every pulse on one qubit, in sample times. -/
def pulseLength : UInt64 := 160

/-- The length of every readout pulse, in sample times. -/
def readoutPulse : UInt64 := 5360

def configuration (s : Sheet) : Configuration where
  name := s.name
  version := s.version
  numQubits := s.qubits.length.toUInt32
  basisGates := ["id", "rz", "sx", "x", "cx", "reset"]
  couplingEdges := some (s.edges.map (·.edge))
  simulator := false
  openPulse := s.openPulse
  dt := some sampleTime
  timing := s.timing

/-- The rows of the gates on one qubit. Rotations about Z cost nothing, and resets report no
error. -/
def qubitRows (s : Sheet) (entry : QubitSheet × Nat) : List GateProperties :=
  let (q, i) := entry
  let on := [i.toUInt32]
  [⟨"id", on, some q.gateError, some gateLength⟩, ⟨"sx", on, some q.gateError, some gateLength⟩,
    ⟨"x", on, some q.gateError, some gateLength⟩, ⟨"rz", on, some 0.0, some 0.0⟩,
    ⟨"reset", on, none, some s.resetLength⟩]

def edgeRow (e : EdgeSheet) : GateProperties :=
  ⟨"cx", [e.edge.control, e.edge.target], some e.error, some e.length⟩

def properties (s : Sheet) : Properties where
  deviceName := s.name
  deviceVersion := s.version
  lastUpdate := some "2021-03-15T00:00:00Z"
  qubits := s.qubits.map fun q =>
    ⟨some q.t1, some q.t2, some q.frequency, some q.readoutError, some s.readoutLength⟩
  gates := s.qubits.zipIdx.flatMap (qubitRows s) ++ s.edges.map edgeRow

def drive (q : Qubit) : String := "d" ++ toString q

/-- A named pulse on the drive channel of a qubit. -/
def drivePulse (kind : String) (q : Qubit) (start : UInt64) : Pulse :=
  ⟨kind ++ "_" ++ drive q, drive q, start, pulseLength⟩

/-- The commands on one qubit. A rotation about Z is a frame change. -/
def qubitCommands (i : Nat) : List Command :=
  let q := i.toUInt32
  let n := toString i
  [⟨"rz", [q], [⟨"fc", drive q, 0, 0⟩]⟩, ⟨"sx", [q], [drivePulse "X90p" q 0]⟩,
    ⟨"x", [q], [drivePulse "Xp" q 0]⟩,
    ⟨"measure", [q], [⟨"M_m" ++ n, "m" ++ n, 0, readoutPulse⟩, ⟨"acquire", "a" ++ n, 0, readoutPulse⟩]⟩]

/-- The pulses of a controlled-X: two halves of a cross-resonance drive around an echo. An edge
against the direction of the drive also turns its target before and after. -/
def crossPulses (e : Edge) (channel : String) (half : UInt64) : List Pulse :=
  let plus := "CR90p_" ++ channel
  let minus := "CR90m_" ++ channel
  let step := pulseLength
  if e.control < e.target then
    [drivePulse "X90p" e.control 0, ⟨plus, channel, step, half⟩,
      drivePulse "Xp" e.control (step + half), ⟨minus, channel, 2 * step + half, half⟩]
  else
    [drivePulse "Y90p" e.target 0, drivePulse "X90p" e.control step,
      ⟨plus, channel, 2 * step, half⟩, drivePulse "Xp" e.control (2 * step + half),
      ⟨minus, channel, 3 * step + half, half⟩, drivePulse "Y90m" e.target (3 * step + 2 * half)]

def edgeCommand (entry : (EdgeSheet × UInt64) × Nat) : Command :=
  let ((e, half), i) := entry
  ⟨"cx", [e.edge.control, e.edge.target], crossPulses e.edge ("u" ++ toString i) half⟩

def pulseDefaults (s : Sheet) (p : PulseSheet) : PulseDefaults where
  driveFrequencies := p.driveFrequencies
  readoutFrequencies := p.readoutFrequencies
  commands := (List.range s.qubits.length).flatMap qubitCommands ++
    (s.edges.zip p.crossLengths).zipIdx.map edgeCommand

end Sheet

end PresetPipeline
