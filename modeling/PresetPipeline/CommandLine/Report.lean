import PresetPipeline.CommandLine.Ink
import PresetPipeline.Device.Catalog
import PresetPipeline.Pipeline.Basic
import PresetPipeline.Settings.Provenance

/-!
# Reports for a terminal

Every report is a list of lines.

* `versionReport` — the program and its components.
* `deviceReport` — the devices of the catalog.
* `pipelineReport` — where the settings of a pipeline come from, and its passes.
-/

set_option autoImplicit false

namespace PresetPipeline.CommandLine

/-- The version of the program. -/
def programVersion : String := "0.1.0"

/-- The name and the version. -/
def bannerReport : List String := ["kairo " ++ programVersion]

def helpReport : List String :=
  ["Usage: kairo [-v] pipeline --device DEVICE [OPTIONS]", "       kairo [-v] devices",
    "       kairo [-v] version"]

def versionReport (coloured : Bool) : List String :=
  [(Ink.boldOf .cyan).paint coloured "Kairo" ++ " " ++
      (Ink.ofColour .yellow).paint coloured ("v" ++ programVersion) ++
      " - preset compilation pipelines for quantum devices",
    "",
    "Components:",
    "  kairo-device   Device descriptors and fake device records",
    "  kairo-compile  Configuration resolution and pipeline dispatch",
    "  kairo-cli      Command-line interface",
    "",
    "License:    " ++ Ink.dim.paint coloured "Apache-2.0"]

/-- A device of the catalog, with the gates that it supports. -/
def deviceLines (coloured : Bool) (r : DeviceRecord) (gates : List String) : List String :=
  ["  " ++ (Ink.ofColour .green).paint coloured "●" ++ " " ++ Ink.bold.paint coloured r.name ++
      " / " ++ r.name ++ Catalog.targetSuffix,
    "    Qubits: " ++ toString r.numQubits,
    "    Topology: " ++ r.topology,
    "    Gates: " ++ ", ".intercalate gates,
    "    Pulse defaults: " ++
      (if r.hasPulseDefaults then (Ink.ofColour .green).paint coloured "yes"
      else Ink.dim.paint coloured "no"),
    ""]

/-- The devices with the gates that they support. -/
def deviceReport (coloured : Bool) (devices : List (DeviceRecord × List String)) : List String :=
  ((Ink.boldOf .cyan).paint coloured "Kairo" ++ " Fake devices:") :: "" ::
    devices.flatMap fun (r, gates) => deviceLines coloured r gates

/-- A text with spaces up to a width. -/
def padded (width : Nat) (s : String) : String :=
  s ++ String.ofList (List.replicate (width - s.length) ' ')

def fieldLine (coloured : Bool) (field : DerivedField) (source : Source) : String :=
  "    " ++ padded 20 field.name ++ " " ++ Ink.dim.paint coloured source.name

/-- The mark in front of a pass. -/
def passMark (coloured : Bool) : PassKind → String
  | .analysis => (Ink.ofColour .blue).paint coloured "○"
  | .transformation => (Ink.ofColour .green).paint coloured "●"

def passLine (coloured : Bool) (p : Pass) : String :=
  let condition := (p.condition.map fun c => " if " ++ c.name).getD ""
  "    " ++ passMark coloured p.kind ++ " " ++ p.name ++ Ink.dim.paint coloured condition

/-- A stage under its number. -/
def stageLines (coloured : Bool) (number : Nat) (stage : Stage) : List String :=
  let repetition := (stage.repeats.map fun r => " (repeat " ++ r.name ++ ")").getD ""
  ["",
    "  " ++ Ink.dim.paint coloured ("[" ++ toString number ++ "]") ++ " " ++
      Ink.bold.paint coloured stage.kind.name ++ repetition] ++
    stage.passes.map (passLine coloured)

/-- A pipeline as a table. -/
def pipelineReport (coloured : Bool) (device : String) (provenance : Provenance) (p : Pipeline) :
    List String :=
  [(Ink.boldOf .cyan).paint coloured "→" ++ " Pipeline for " ++
      (Ink.ofColour .green).paint coloured device ++ " (level " ++
      (Ink.ofColour .yellow).paint coloured (toString p.level) ++ ")",
    "",
    "  Resolved fields:"] ++
    provenance.pairs.map (fun (field, source) => fieldLine coloured field source) ++
    (p.stages.zipIdx 1).flatMap (fun (stage, number) => stageLines coloured number stage) ++
    ["",
      (Ink.boldOf .green).paint coloured "✓" ++ " " ++ toString p.stages.length ++ " stages, " ++
        toString p.passes.length ++ " passes"]

end PresetPipeline.CommandLine
