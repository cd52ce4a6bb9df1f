import PresetPipeline.Device.Properties

/-!
# Duration tables

The duration of each instruction in seconds. An entry without qubits holds for every tuple that has
no entry of its own.

* `Durations.insert`, `Durations.find?` — writing and looking up an entry.
* `Durations.ofProperties` — the reported lengths of gates and readouts.
* `Durations.samples?` — a duration in units of the sample time.
-/

set_option autoImplicit false

namespace PresetPipeline

structure Durations where
  /-- The sample time of the device, in seconds. -/
  dt : Option Float
  table : SortedMap Instruction Float
  deriving BEq

namespace Durations

def new (dt : Option Float) : Durations := ⟨dt, .empty⟩

def insert (d : Durations) (name : String) (qubits : List Qubit) (seconds : Float) : Durations :=
  ⟨d.dt, d.table.insert ⟨name, qubits⟩ seconds⟩

/-- The table of the listed entries; of a repeated instruction the last duration stays. -/
def ofEntries (dt : Option Float) (entries : List (Instruction × Float)) : Durations :=
  ⟨dt, .ofList entries⟩

/-- The entries that a property table reports: first the gates, then the readouts. -/
def reported (p : Properties) : List (Instruction × Float) :=
  (p.gates.filterMap fun g => g.length.map fun t => (⟨g.gate, g.qubits⟩, t)) ++
    p.qubits.zipIdx.filterMap fun (q, i) =>
      q.readoutLength.map fun t => (⟨"measure", [i.toUInt32]⟩, t)

def ofProperties (p : Properties) (dt : Option Float) : Durations := ofEntries dt (reported p)

/-- The duration in seconds, of these qubits or else of any qubits. -/
def find? (d : Durations) (name : String) (qubits : List Qubit) : Option Float :=
  (d.table.find? ⟨name, qubits⟩).or (d.table.find? ⟨name, []⟩)

/-- The duration in sample times, rounded half away from zero into the range of 64 bits. -/
def samples? (d : Durations) (name : String) (qubits : List Qubit) : Option UInt64 :=
  match d.dt, d.find? name qubits with
  | some dt, some seconds => some (seconds / dt).round.toUInt64
  | _, _ => none

end Durations

end PresetPipeline
