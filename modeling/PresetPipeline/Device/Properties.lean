import PresetPipeline.Device.Qubits

/-!
# Calibration properties

Error rates, lengths and coherence times of a device. Times are in seconds, frequencies in hertz.

* `QubitProperties`, `GateProperties`, `Properties` — the data of a qubit, of a gate on a tuple of
  qubits, and of a device.
* `Properties.gate?` — the first row of a gate on a tuple.
* `Properties.averageGateError` — the mean of the reported errors of a gate.
-/

set_option autoImplicit false

namespace PresetPipeline

structure QubitProperties where
  /-- Energy relaxation time. -/
  t1 : Option Float
  /-- Dephasing time. -/
  t2 : Option Float
  frequency : Option Float
  readoutError : Option Float
  readoutLength : Option Float
  deriving BEq

def QubitProperties.unknown : QubitProperties := ⟨none, none, none, none, none⟩

structure GateProperties where
  gate : String
  qubits : List Qubit
  error : Option Float
  length : Option Float
  deriving BEq

structure Properties where
  deviceName : String
  deviceVersion : String
  lastUpdate : Option String
  /-- One record for each physical qubit. -/
  qubits : List QubitProperties
  gates : List GateProperties
  deriving BEq

namespace Properties

/-- A table without a version and a date. -/
def new (deviceName : String) (qubits : List QubitProperties) (gates : List GateProperties) :
    Properties :=
  ⟨deviceName, "", none, qubits, gates⟩

def qubit? (p : Properties) (q : Qubit) : Option QubitProperties := p.qubits[q.toNat]?

/-- The first row of the gate on exactly these qubits. -/
def gate? (p : Properties) (name : String) (qubits : List Qubit) : Option GateProperties :=
  p.gates.find? fun g => g.gate == name && g.qubits == qubits

def gateError? (p : Properties) (name : String) (qubits : List Qubit) : Option Float :=
  (p.gate? name qubits).bind (·.error)

def gateLength? (p : Properties) (name : String) (qubits : List Qubit) : Option Float :=
  (p.gate? name qubits).bind (·.length)

def readoutError? (p : Properties) (q : Qubit) : Option Float := (p.qubit? q).bind (·.readoutError)

def t1? (p : Properties) (q : Qubit) : Option Float := (p.qubit? q).bind (·.t1)

def t2? (p : Properties) (q : Qubit) : Option Float := (p.qubit? q).bind (·.t2)

/-- The mean of the errors reported for a gate, over all its rows. They are added in order, to a
negative zero at first. -/
def averageGateError? (p : Properties) (name : String) : Option Float :=
  let errors := (p.gates.filter (·.gate == name)).filterMap (·.error)
  if errors.isEmpty then none
  else some (errors.foldl (· + ·) (-0.0) / Float.ofNat errors.length)

end Properties

end PresetPipeline
