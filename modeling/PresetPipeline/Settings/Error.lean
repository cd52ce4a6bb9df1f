import PresetPipeline.Decimal.Style
import PresetPipeline.Document.Fault
import PresetPipeline.Pipeline.Basic
import PresetPipeline.Settings.Layout
import PresetPipeline.Settings.Method
import PresetPipeline.Settings.Provenance

/-!
# Errors of compilation

* `Need` — what a stage was asked for and cannot do without a field.
* `CompileError` — why there is no pipeline, and the message that says so.
-/

set_option autoImplicit false

namespace PresetPipeline

/-- A demand on a stage for which a field is missing. -/
inductive Need where
  | layoutMethod (method : LayoutMethod)
  | initialLayout
  | noiseRanking
  | routingMethod (method : RoutingMethod)
  | translationMethod (method : TranslationMethod)
  | schedulingMethod (method : SchedulingMethod)
  | calibrations
  deriving DecidableEq, Repr

namespace Need

/-- The stage of the demand. -/
def stage : Need → StageKind
  | layoutMethod _ => .layout
  | initialLayout => .layout
  | noiseRanking => .layout
  | routingMethod _ => .routing
  | translationMethod _ => .translation
  | schedulingMethod _ => .scheduling
  | calibrations => .scheduling

/-- The field that is missing. -/
def field : Need → DerivedField
  | layoutMethod _ => .connectivity
  | initialLayout => .connectivity
  | noiseRanking => .deviceProperties
  | routingMethod _ => .connectivity
  | translationMethod _ => .basisGates
  | schedulingMethod _ => .durations
  | calibrations => .durations

/-- Why the stage needs the field. -/
def reason : Need → String
  | layoutMethod m => "layout method '" ++ m.name ++ "' places qubits on a connectivity graph"
  | initialLayout => "an initial layout names physical qubits of a connectivity graph"
  | noiseRanking => "noise_adaptive layout ranks qubits by their error rates"
  | routingMethod m => "routing method '" ++ m.name ++ "' inserts swaps along a connectivity graph"
  | translationMethod m => "translation method '" ++ m.name ++ "' rewrites into a basis gate set"
  | schedulingMethod m => "scheduling method '" ++ m.name ++ "' needs instruction durations"
  | calibrations =>
    "calibrations are present, so the circuit is scheduled, which needs instruction durations"

end Need

inductive CompileError where
  | invalidLevel (level : Int)
  | unresolved (need : Need)
  | unsupportedMethod (method : UnsupportedMethod)
  | invalidDegree (value : Float)
  | invalidLayout (fault : LayoutFault)
  /-- A document of overrides cannot be read. -/
  | overrides (fault : Fault)

/-- The message of an error. What is said of a document that cannot be read is up to its reader. -/
def CompileError.message (e : CompileError) (words : Fault → String := Fault.message "other") :
    String :=
  match e with
  | .invalidLevel n => "Invalid optimization level " ++ toString n ++ ": expected 0, 1, 2 or 3"
  | .unresolved need =>
    "The " ++ need.stage.name ++ " stage requires " ++ need.field.name ++
      ", but none was given or derivable from a device: " ++ need.reason
  | .unsupportedMethod m => m.message
  | .invalidDegree x => "Approximation degree " ++ Decimal.plain.render x ++ " is outside [0, 1]"
  | .invalidLayout fault => "Invalid initial layout: " ++ fault.message
  | .overrides fault => "Invalid overrides: " ++ words fault

end PresetPipeline
