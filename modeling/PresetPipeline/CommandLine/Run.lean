import PresetPipeline.CommandLine.Arguments
import PresetPipeline.CommandLine.Report
import PresetPipeline.Json.Printer
import PresetPipeline.Pipeline.Writing
import PresetPipeline.Preset.Generate
import PresetPipeline.Settings.Reading
import PresetPipeline.Yaml.Printer

/-!
# Running a command line

* `Environment` — what a command can see of the world around it.
* `PipelineRequest.prepare` — the device, the settings and the pipeline of a request, or the first
  step that fails.
* `Library` — what a command leaves to others.
* `Invocation.run`, `run` — the outcome of a request and of a command line. A failing command prints
  nothing but the log and its error.
-/

set_option autoImplicit false

namespace PresetPipeline.CommandLine

/-- What stands at a path. -/
inductive FileState where
  | missing
  | unreadable (reason : String)
  | text (content : String)

structure Environment where
  /-- The device for command lines that name none. -/
  device : Option String
  coloured : Bool
  files : String → FileState

/-- Colours are forced by any value but zero. -/
def forcesColour : Option String → Bool
  | none => false
  | some value => value != "0"

inductive CommandError where
  | device (error : DeviceError)
  | missingFile (path : String)
  | unreadableFile (path reason : String)
  | invalidFile (path : String) (error : CompileError)
  | invalidFlags (error : CompileError)
  | build (device : String) (error : CompileError)

/-- The message of an error. What is said of a document that cannot be read is up to its reader. -/
def CommandError.message (words : Fault → String) : CommandError → String
  | .device e => e.message
  | .missingFile path => "File not found: " ++ path
  | .unreadableFile path reason => "Failed to read file: " ++ path ++ ": " ++ reason
  | .invalidFile path e => "Invalid override file: " ++ path ++ ": " ++ e.message words
  | .invalidFlags e => e.message words
  | .build name e => "Failed to build pipeline for " ++ name ++ ": " ++ e.message words

/-- The overrides of a file. -/
def loadOverrides (files : String → FileState) (path : String) : Run CommandError Overrides :=
  match files path with
  | .missing => Run.fail (.missingFile path)
  | .unreadable reason => Run.fail (.unreadableFile path reason)
  | .text content => do
    let overrides ← Run.lift ((Overrides.parse content).mapError (.invalidFile path))
    Run.emit [.overridesLoaded path]
    return overrides

/-- The device as its records, which are read anew each time. -/
def loadBackend (device : DeviceRecord) : Run DeviceError Backend := do
  Run.lift device.checkCount
  Run.emit [.loaded device.name device.hasPulseDefaults]
  Run.lift device.records

namespace PipelineRequest

/-- The overrides of the file, if one is named. -/
def fileOverrides (r : PipelineRequest) (files : String → FileState) :
    Run CommandError Overrides :=
  match r.config with
  | none => Run.done .empty
  | some path => loadOverrides files path

/-- The overrides of the file, and on top of them the flags. -/
def overrides (r : PipelineRequest) (files : String → FileState) : Run CommandError Overrides := do
  let file ← r.fileOverrides files
  let flags ← Run.lift (r.flags.overrides.mapError .invalidFlags)
  return file.overlay flags

/-- The backend of a device, if it is asked for. -/
def backend (r : PipelineRequest) (device : DeviceRecord) : Run DeviceError (Option Backend) :=
  if r.descriptors.hasBackend then do
    let b ← loadBackend device
    return some b
  else Run.done none

/-- The target of a device, if it is asked for. -/
def target (r : PipelineRequest) (device : DeviceRecord) : Run DeviceError (Option Target) :=
  if r.descriptors.hasTarget then do
    let b ← loadBackend device
    return some (.ofBackend b)
  else Run.done none

/-- What a request leads to. -/
structure Prepared where
  device : DeviceRecord
  settings : Settings
  pipeline : Pipeline

/-- Looks up the device, reads the overrides, and builds the pipeline. -/
def prepare (r : PipelineRequest) (files : String → FileState) : Run CommandError Prepared := do
  let device ← Run.lift ((Catalog.lookup r.device).mapError .device)
  let overrides ← r.overrides files
  let backend ← (r.backend device).mapError .device
  let target ← (r.target device).mapError .device
  let settings ← (resolveLogged target (backend.map Backend.descriptor) overrides).mapError
    (.build device.name)
  let pipeline ← (dispatch r.level settings).mapError (.build device.name)
  return ⟨device, settings, pipeline⟩

end PipelineRequest

/-- Lines with an end each. -/
def unlines (lines : List String) : String := String.join (lines.map (· ++ "\n"))

/-- The text of a pipeline in a format. -/
def render (coloured : Bool) (format : OutputFormat) (p : PipelineRequest.Prepared) : String :=
  match format with
  | .table => unlines (pipelineReport coloured p.device.name p.settings.provenance p.pipeline)
  | .json => p.pipeline.toJson.pretty ++ "\n"
  | .yaml => Yaml.print p.pipeline.toJson

/-- The gates of a device. -/
def loadGates (device : DeviceRecord) : Run DeviceError (DeviceRecord × List String) := do
  let b ← loadBackend device
  return (device, b.basisGates.toList)

/-- What a command writes, or its error. -/
def Request.output (env : Environment) : Request → Run CommandError String
  | .pipeline r => do
    let prepared ← r.prepare env.files
    return render env.coloured r.format prepared
  | .devices => do
    let devices ← (Catalog.devices.mapM loadGates).mapError .device
    return unlines (deviceReport env.coloured devices)
  | .version => Run.done (unlines (versionReport env.coloured))

/-- How a command ends. -/
structure Outcome where
  exitCode : UInt8
  stdout : String
  stderr : String
  deriving DecidableEq, Repr

/-- What a command leaves to others: the arguments are read, documents that cannot be read are reported,
and entries of the log are written. -/
structure Library where
  /-- What arguments ask for, or how the program ends without it. -/
  arguments : (defaultDevice : Option String) → List String → Except Outcome Invocation
  /-- What the reader of a document says of a fault, with its causes. -/
  documentFault : Fault → String
  /-- The lines of the log. -/
  log : List Event → String

/-- Runs a request. What is logged comes before the error. -/
def Invocation.run (lib : Library) (env : Environment) (i : Invocation) : Outcome :=
  let output := i.request.output env
  let log := lib.log (output.events.filter (LogFilter.ofVerbosity i.verbosity).admits)
  match output.outcome with
  | .ok text => ⟨0, text, log⟩
  | .error e =>
    ⟨1, "", log ++ (Ink.boldOf .red).paint env.coloured "Error:" ++ " " ++
      e.message lib.documentFault ++ "\n"⟩

/-- How the program ends without a request. -/
def Ending.outcome : Ending → Outcome
  | .usage e => ⟨2, "", "error: " ++ e.message ++ "\n"⟩
  | .help => ⟨0, unlines helpReport, ""⟩
  | .banner => ⟨0, unlines bannerReport, ""⟩

/-- A reader of arguments that knows the grammar, the kinds of the faults of documents, and no log. A
record that its own check refuses is the fault of the document, and the check is its cause. -/
def Library.plain : Library where
  arguments device arguments := (Invocation.parse device 0 arguments).mapError Ending.outcome
  documentFault fault :=
    match fault with
    | .rejected reason => reason ++ ": " ++ reason
    | fault => fault.message "other"
  log _ := ""

/-- Runs a command line. -/
def run (env : Environment) (arguments : List String) (lib : Library := Library.plain) : Outcome :=
  match lib.arguments env.device arguments with
  | .error outcome => outcome
  | .ok i => i.run lib env

end PresetPipeline.CommandLine
