import PresetPipeline.Settings.Error

/-!
# The words of errors

What a user is told, sentence by sentence.

* `LayoutFault.Says`, `UnsupportedMethod.Says` — why an initial layout or a name is refused.
* `Need.Says` — the stage, the field and the reason of a demand.
* `CompileError.Says` — why there is no pipeline. What is said of a document that cannot be read is up to
  its reader.
* `CompileError.says_message` — the message of an error says that.
-/

set_option autoImplicit false

namespace PresetPipeline

/-! ## Layouts and names -/

/-- Why an initial layout is refused, in words. -/
inductive LayoutFault.Says : LayoutFault → String → Prop where
  | physicalTaken (p w v : Qubit) :
      Says (.physicalTaken p w v)
        ("physical qubit " ++ toString p ++ " assigned to both virtual " ++ toString w ++ " and " ++
          toString v)
  | virtualTwice (v : Qubit) :
      Says (.virtualTwice v) ("virtual qubit " ++ toString v ++ " assigned twice")
  | tooMany (k : Nat) (n : Qubit) :
      Says (.tooMany k n)
        (toString k ++ " virtual qubits cannot be placed on " ++ toString n ++ " physical qubits")
  | outside (p n : Qubit) :
      Says (.outside p n)
        ("physical qubit " ++ toString p ++ " does not exist on a " ++ toString n ++ "-qubit device")

theorem LayoutFault.says_message (fault : LayoutFault) : fault.Says fault.message := by
  cases fault with
  | physicalTaken p w v => exact .physicalTaken p w v
  | virtualTwice v => exact .virtualTwice v
  | tooMany k n => exact .tooMany k n
  | outside p n => exact .outside p n

/-- A selector by its name, with the names that it lists. -/
inductive Selector.Lists : Selector → (name valid : String) → Prop where
  | layout : Lists .layout "layout_method" "trivial, dense, noise_adaptive, sabre"
  | routing : Lists .routing "routing_method" "basic, lookahead, stochastic, sabre, none"
  | translation : Lists .translation "translation_method" "unroller, translator, synthesis"
  | scheduling :
      Lists .scheduling "scheduling_method" "alap, as_late_as_possible, asap, as_soon_as_possible"
  | synthesis : Lists .synthesis "unitary_synthesis_method" "default, <plugin name>"

theorem Selector.lists (selector : Selector) :
    selector.Lists selector.name (", ".intercalate selector.valid) := by
  cases selector with
  | layout => exact .layout
  | routing => exact .routing
  | translation => exact .translation
  | scheduling => exact .scheduling
  | synthesis => exact .synthesis

/-- Why a name is refused, in words. -/
inductive UnsupportedMethod.Says : UnsupportedMethod → String → Prop where
  | mk {selector : Selector} {name valid : String} (value : String) : selector.Lists name valid →
      Says ⟨selector, value⟩ ("Unsupported " ++ name ++ " '" ++ value ++ "'. Valid values: " ++ valid)

/-! ## Demands -/

/-- The stage of a demand, the field that it lacks, and why it needs it. -/
inductive Need.Says : Need → (stage field reason : String) → Prop where
  | layoutMethod {method : LayoutMethod} {name : String} :
      (method, name) ∈ [(LayoutMethod.trivial, "trivial"), (.dense, "dense"),
        (.noiseAdaptive, "noise_adaptive"), (.sabre, "sabre")] →
      Says (.layoutMethod method) "layout" "connectivity"
        ("layout method '" ++ name ++ "' places qubits on a connectivity graph")
  | initialLayout :
      Says .initialLayout "layout" "connectivity"
        "an initial layout names physical qubits of a connectivity graph"
  | noiseRanking :
      Says .noiseRanking "layout" "device_properties"
        "noise_adaptive layout ranks qubits by their error rates"
  | routingMethod {method : RoutingMethod} {name : String} :
      (method, name) ∈ [(RoutingMethod.basic, "basic"), (.lookahead, "lookahead"),
        (.stochastic, "stochastic"), (.sabre, "sabre"), (.none, "none")] →
      Says (.routingMethod method) "routing" "connectivity"
        ("routing method '" ++ name ++ "' inserts swaps along a connectivity graph")
  | translationMethod {method : TranslationMethod} {name : String} :
      (method, name) ∈ [(TranslationMethod.unroller, "unroller"), (.translator, "translator"),
        (.synthesis, "synthesis")] →
      Says (.translationMethod method) "translation" "basis_gates"
        ("translation method '" ++ name ++ "' rewrites into a basis gate set")
  | schedulingMethod {method : SchedulingMethod} {name : String} :
      (method, name) ∈ [(SchedulingMethod.alap, "alap"), (.asap, "asap")] →
      Says (.schedulingMethod method) "scheduling" "durations"
        ("scheduling method '" ++ name ++ "' needs instruction durations")
  | calibrations :
      Says .calibrations "scheduling" "durations"
        "calibrations are present, so the circuit is scheduled, which needs instruction durations"

theorem Need.says (need : Need) : need.Says need.stage.name need.field.name need.reason := by
  cases need with
  | layoutMethod method =>
    cases method <;> exact .layoutMethod (by decide)
  | initialLayout => exact .initialLayout
  | noiseRanking => exact .noiseRanking
  | routingMethod method =>
    cases method <;> exact .routingMethod (by decide)
  | translationMethod method =>
    cases method <;> exact .translationMethod (by decide)
  | schedulingMethod method =>
    cases method <;> exact .schedulingMethod (by decide)
  | calibrations => exact .calibrations

/-! ## Errors of compilation -/

/-- Why there is no pipeline, in words. -/
inductive CompileError.Says (words : Fault → String) : CompileError → String → Prop where
  | invalidLevel (n : Int) :
      Says words (.invalidLevel n)
        ("Invalid optimization level " ++ toString n ++ ": expected 0, 1, 2 or 3")
  | unresolved {need : Need} {stage field reason : String} : need.Says stage field reason →
      Says words (.unresolved need)
        ("The " ++ stage ++ " stage requires " ++ field ++
          ", but none was given or derivable from a device: " ++ reason)
  | unsupportedMethod {method : UnsupportedMethod} {text : String} : method.Says text →
      Says words (.unsupportedMethod method) text
  | invalidDegree (x : Float) :
      Says words (.invalidDegree x)
        ("Approximation degree " ++ Decimal.plain.render x ++ " is outside [0, 1]")
  | invalidLayout {fault : LayoutFault} {text : String} : fault.Says text →
      Says words (.invalidLayout fault) ("Invalid initial layout: " ++ text)
  | overrides (fault : Fault) : Says words (.overrides fault) ("Invalid overrides: " ++ words fault)

theorem CompileError.says_message (e : CompileError) (words : Fault → String) :
    e.Says words (e.message words) := by
  cases e with
  | invalidLevel n => exact .invalidLevel n
  | unresolved need => exact .unresolved need.says
  | unsupportedMethod method => exact .unsupportedMethod (.mk method.value method.selector.lists)
  | invalidDegree x => exact .invalidDegree x
  | invalidLayout fault => exact .invalidLayout fault.says_message
  | overrides fault => exact .overrides fault

end PresetPipeline
