import PresetPipeline.Device.Catalog.London
import PresetPipeline.Device.Catalog.Montreal
import PresetPipeline.Device.Descriptor
import PresetPipeline.Device.Error
import PresetPipeline.Text.LetterCase

/-!
# The catalog of bundled devices

* `DeviceRecord` — a bundled device: its label and its records.
* `DeviceRecord.backend`, `DeviceRecord.target` — the device as a backend and as a target, if its records
  agree with its label and with each other. `backend_eq_ok_iff` — the records that do.
* `Catalog.lookup` — finds a device by its name, or by its name with the suffix of targets.
-/

set_option autoImplicit false

namespace PresetPipeline

structure DeviceRecord where
  name : String
  numQubits : Qubit
  /-- The shape of the device, in words. -/
  topology : String
  configuration : Configuration
  properties : Properties
  defaults : Option PulseDefaults

namespace DeviceRecord

def hasPulseDefaults (r : DeviceRecord) : Bool := r.defaults.isSome

/-- The configuration has as many qubits as the label says. -/
def checkCount (r : DeviceRecord) : Except DeviceError Unit :=
  if r.configuration.numQubits ≠ r.numQubits then
    .error (.invalidRecord r.name (.declared r.configuration.numQubits r.numQubits))
  else .ok ()

/-- The records that agree with each other. -/
def records (r : DeviceRecord) : Except DeviceError Backend :=
  (Backend.ofRecords r.configuration (some r.properties) r.defaults).mapError
    (.invalidRecord r.configuration.name)

/-- The device as its records. -/
def backend (r : DeviceRecord) : Except DeviceError Backend := do
  r.checkCount
  r.records

theorem records_eq_ok_iff {r : DeviceRecord} {b : Backend} : r.records = .ok b ↔
    Backend.ofRecords r.configuration (some r.properties) r.defaults = .ok b := by
  unfold records
  cases Backend.ofRecords r.configuration (some r.properties) r.defaults with
  | error fault => exact ⟨nofun, nofun⟩
  | ok b' =>
    show Except.ok b' = Except.ok b ↔ _
    rw [Except.ok.injEq, Except.ok.injEq]

/-- A label that counts the qubits, and records that agree, make a backend. -/
theorem backend_eq_ok_iff {r : DeviceRecord} {b : Backend} :
    r.backend = .ok b ↔ r.configuration.numQubits = r.numQubits ∧
      Backend.ofRecords r.configuration (some r.properties) r.defaults = .ok b := by
  unfold backend checkCount
  split
  · rename_i hcount
    exact ⟨nofun, fun h => absurd h.1 hcount⟩
  · rename_i hcount
    exact records_eq_ok_iff.trans (and_iff_right (Decidable.not_not.1 hcount)).symm

/-- The device as a table of instructions. -/
def target (r : DeviceRecord) : Except DeviceError Target := r.backend.map Target.ofBackend

end DeviceRecord

namespace Catalog

def london : DeviceRecord where
  name := "fake_london"
  numQubits := 5
  topology := "T-shape: 0-1-2, 1-3-4"
  configuration := Sheet.london.configuration
  properties := Sheet.london.properties
  defaults := none

def montreal : DeviceRecord where
  name := "fake_montreal"
  numQubits := 27
  topology := "heavy-hex (Falcon r4)"
  configuration := Sheet.montreal.configuration
  properties := Sheet.montreal.properties
  defaults := some (Sheet.montreal.pulseDefaults .montreal)

/-- Every bundled device. -/
def devices : List DeviceRecord := [london, montreal]

/-- The suffix that the name of a target has and the name of a backend has not. -/
def targetSuffix : String := "_v2"

/-- A name without the suffix of targets. -/
def baseName (name : String) : String :=
  if targetSuffix.toList.reverse.isPrefixOf name.toList.reverse then
    String.ofList (name.toList.take (name.length - targetSuffix.length))
  else name

/-- The device of a name, in any letter case. The suffix itself is in small letters. -/
def lookup (name : String) : Except DeviceError DeviceRecord :=
  match devices.find? fun r => Text.sameUpToCase r.name (baseName name) with
  | some r => .ok r
  | none => .error (.unknownDevice name (devices.map (·.name)))

end Catalog

end PresetPipeline
