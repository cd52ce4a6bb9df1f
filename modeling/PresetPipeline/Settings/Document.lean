import PresetPipeline.Settings.Overrides
import PresetPipeline.Settings.Error

/-!
# Raw overrides

Overrides as they are written: methods are names, a layout is a list, a degree is any double. They
are checked field by field, and the first invalid field is reported.

* `OverrideDocument`, `OverrideDocument.overrides` — the fields of a file, and their check.
* `OverrideFlags`, `OverrideFlags.overrides` — the fields of a command line, and their check.
-/

set_option autoImplicit false

namespace PresetPipeline

/-- The fields of a document of overrides. -/
structure OverrideDocument where
  basisGates : Option BasisGates := none
  couplingMap : Option CouplingMap := none
  durations : Option Durations := none
  properties : Option Properties := none
  timing : Option TimingConstraints := none
  /-- The physical qubit of each virtual qubit. -/
  initialLayout : Option (List Qubit) := none
  layoutMethod : Option String := none
  routingMethod : Option String := none
  translationMethod : Option String := none
  schedulingMethod : Option String := none
  degree : Option Float := none
  seed : Option UInt64 := none
  synthesisMethod : Option String := none
  pluginConfig : Option PluginConfig := none

/-- The overrides that a command line can set. -/
structure OverrideFlags where
  layoutMethod : Option String := none
  routingMethod : Option String := none
  translationMethod : Option String := none
  schedulingMethod : Option String := none
  synthesisMethod : Option String := none
  initialLayout : Option (List Qubit) := none
  degree : Option Float := none
  seed : Option UInt64 := none

/-- Checks a value if there is one. -/
def checkOption {α β : Type} (check : α → Except CompileError β) :
    Option α → Except CompileError (Option β)
  | none => .ok none
  | some a => (check a).map some

/-- Checks the name of a method. -/
def checkMethod {α : Type} (parse : String → Except UnsupportedMethod α) (name : String) :
    Except CompileError α :=
  (parse name).mapError .unsupportedMethod

def checkPhysical (physical : List Qubit) : Except CompileError Layout :=
  (Layout.ofPhysical physical).mapError .invalidLayout

def checkDegree (x : Float) : Except CompileError Degree :=
  match Degree.ofFloat? x with
  | some d => .ok d
  | none => .error (.invalidDegree x)

/-- The overrides of a document, or its first invalid field: the layout, then the methods of the
stages, the degree, and the synthesis method. -/
def OverrideDocument.overrides (d : OverrideDocument) : Except CompileError Overrides := do
  let initialLayout ← checkOption checkPhysical d.initialLayout
  let layoutMethod ← checkOption (checkMethod LayoutMethod.parse) d.layoutMethod
  let routingMethod ← checkOption (checkMethod RoutingMethod.parse) d.routingMethod
  let translationMethod ← checkOption (checkMethod TranslationMethod.parse) d.translationMethod
  let schedulingMethod ← checkOption (checkMethod SchedulingMethod.parse) d.schedulingMethod
  let degree ← checkOption checkDegree d.degree
  let synthesisMethod ← checkOption (checkMethod SynthesisMethod.parse) d.synthesisMethod
  .ok
    { basisGates := d.basisGates
      couplingMap := d.couplingMap
      durations := d.durations
      properties := d.properties
      timing := d.timing
      initialLayout, layoutMethod, routingMethod, translationMethod, schedulingMethod, degree
      seed := d.seed
      synthesisMethod
      pluginConfig := d.pluginConfig }

/-- The overrides of a command line, or its first invalid flag: the methods of the stages, the
synthesis method, the layout, and the degree. -/
def OverrideFlags.overrides (f : OverrideFlags) : Except CompileError Overrides := do
  let layoutMethod ← checkOption (checkMethod LayoutMethod.parse) f.layoutMethod
  let routingMethod ← checkOption (checkMethod RoutingMethod.parse) f.routingMethod
  let translationMethod ← checkOption (checkMethod TranslationMethod.parse) f.translationMethod
  let schedulingMethod ← checkOption (checkMethod SchedulingMethod.parse) f.schedulingMethod
  let synthesisMethod ← checkOption (checkMethod SynthesisMethod.parse) f.synthesisMethod
  let initialLayout ← checkOption checkPhysical f.initialLayout
  let degree ← checkOption checkDegree f.degree
  .ok
    { layoutMethod, routingMethod, translationMethod, schedulingMethod, synthesisMethod,
      initialLayout, degree
      seed := f.seed }

end PresetPipeline
