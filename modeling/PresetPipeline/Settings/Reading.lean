import PresetPipeline.Device.Reading
import PresetPipeline.Settings.Document
import PresetPipeline.Yaml.Untyped

/-!
# Reading overrides

* `OverrideDocument.shape` — the fields of a document of overrides. A field of another name is a
  fault.
* `Overrides.parse` — the overrides that a YAML text sets.
-/

set_option autoImplicit false

namespace PresetPipeline

open Yaml (Place readMembers)

/-- Every field may be absent, and may be written as null. -/
def OverrideDocument.shape : RecordShape Place OverrideDocument where
  fields :=
    [.may "basis_gates" (readOption readBasisGates) fun v d => { d with basisGates := v },
      .may "coupling_map" (readOption readCouplingMap) fun v d => { d with couplingMap := v },
      .may "durations" (readOption readDurations) fun v d => { d with durations := v },
      .may "device_properties" (readOption readProperties) fun v d => { d with properties := v },
      .may "timing_constraints" (readOption readTiming) fun v d => { d with timing := v },
      .may "initial_layout" (readOption readQubits) fun v d => { d with initialLayout := v },
      .may "layout_method" (readOption readText) fun v d => { d with layoutMethod := v },
      .may "routing_method" (readOption readText) fun v d => { d with routingMethod := v },
      .may "translation_method" (readOption readText) fun v d => { d with translationMethod := v },
      .may "scheduling_method" (readOption readText) fun v d => { d with schedulingMethod := v },
      .may "approximation_degree" (readOption readReal) fun v d => { d with degree := v },
      .may "seed" (readOption readWord) fun v d => { d with seed := v },
      .may "unitary_synthesis_method" (readOption readText) fun v d =>
        { d with synthesisMethod := v },
      .may "unitary_synthesis_plugin_config" (readOption (readMembers 1)) fun v d =>
        { d with pluginConfig := v }]
  defaults := {}
  strict := true

/-- The overrides of a YAML text. The text is read as a whole before its fields are checked. -/
def Overrides.parse (text : String) : Except CompileError Overrides :=
  match Yaml.consume OverrideDocument.shape.read text with
  | .error fault => .error (.overrides fault)
  | .ok document => document.overrides

end PresetPipeline
