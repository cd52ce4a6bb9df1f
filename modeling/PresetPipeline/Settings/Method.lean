import PresetPipeline.Text.Blank

/-!
# Methods

The algorithms that a stage can be told to use. A method is chosen by its name; names are compared
exactly.

* `LayoutMethod`, `RoutingMethod`, `TranslationMethod`, `SchedulingMethod` — closed choices.
* `SynthesisMethod` — the built-in decomposer, or any plugin by its name.
* `UnsupportedMethod` — a name that no method has.
-/

set_option autoImplicit false

namespace PresetPipeline

/-- The settings that choose a method. -/
inductive Selector where
  | layout
  | routing
  | translation
  | scheduling
  | synthesis
  deriving DecidableEq, Repr

namespace Selector

def name : Selector → String
  | layout => "layout_method"
  | routing => "routing_method"
  | translation => "translation_method"
  | scheduling => "scheduling_method"
  | synthesis => "unitary_synthesis_method"

/-- The accepted spellings. -/
def valid : Selector → List String
  | layout => ["trivial", "dense", "noise_adaptive", "sabre"]
  | routing => ["basic", "lookahead", "stochastic", "sabre", "none"]
  | translation => ["unroller", "translator", "synthesis"]
  | scheduling => ["alap", "as_late_as_possible", "asap", "as_soon_as_possible"]
  | synthesis => ["default", "<plugin name>"]

end Selector

/-- A spelling that a selector does not accept. -/
structure UnsupportedMethod where
  selector : Selector
  value : String
  deriving DecidableEq, Repr

def UnsupportedMethod.message (u : UnsupportedMethod) : String :=
  "Unsupported " ++ u.selector.name ++ " '" ++ u.value ++ "'. Valid values: " ++
    ", ".intercalate u.selector.valid

/-- Initial placement of the qubits. -/
inductive LayoutMethod where
  /-- Each virtual qubit on the physical qubit of the same number. -/
  | trivial
  /-- The densest connected part of the device. -/
  | dense
  /-- The qubits with the lowest errors. -/
  | noiseAdaptive
  /-- Search by swaps, forwards and backwards. -/
  | sabre
  deriving DecidableEq, Repr

/-- Insertion of swaps. -/
inductive RoutingMethod where
  /-- Chains along shortest paths. -/
  | basic
  /-- Bounded search of a tree. -/
  | lookahead
  /-- The best of random trials. -/
  | stochastic
  /-- Heuristic search of the front layer. -/
  | sabre
  /-- No swaps: the circuit must fit as it is. -/
  | none
  deriving DecidableEq, Repr

/-- Translation into the basis. -/
inductive TranslationMethod where
  /-- Expansion of definitions. -/
  | unroller
  /-- Search of a library of equivalences. -/
  | translator
  /-- Resynthesis of collected blocks. -/
  | synthesis
  deriving DecidableEq, Repr

/-- Timing of the instructions. -/
inductive SchedulingMethod where
  /-- As late as possible. -/
  | alap
  /-- As soon as possible. -/
  | asap
  deriving DecidableEq, Repr

namespace LayoutMethod

def name : LayoutMethod → String
  | trivial => "trivial"
  | dense => "dense"
  | noiseAdaptive => "noise_adaptive"
  | sabre => "sabre"

def parse (s : String) : Except UnsupportedMethod LayoutMethod :=
  match s with
  | "trivial" => .ok trivial
  | "dense" => .ok dense
  | "noise_adaptive" => .ok noiseAdaptive
  | "sabre" => .ok sabre
  | _ => .error ⟨.layout, s⟩

end LayoutMethod

namespace RoutingMethod

def name : RoutingMethod → String
  | basic => "basic"
  | lookahead => "lookahead"
  | stochastic => "stochastic"
  | sabre => "sabre"
  | none => "none"

def parse (s : String) : Except UnsupportedMethod RoutingMethod :=
  match s with
  | "basic" => .ok basic
  | "lookahead" => .ok lookahead
  | "stochastic" => .ok stochastic
  | "sabre" => .ok sabre
  | "none" => .ok none
  | _ => .error ⟨.routing, s⟩

end RoutingMethod

namespace TranslationMethod

def name : TranslationMethod → String
  | unroller => "unroller"
  | translator => "translator"
  | synthesis => "synthesis"

def parse (s : String) : Except UnsupportedMethod TranslationMethod :=
  match s with
  | "unroller" => .ok unroller
  | "translator" => .ok translator
  | "synthesis" => .ok synthesis
  | _ => .error ⟨.translation, s⟩

end TranslationMethod

namespace SchedulingMethod

def name : SchedulingMethod → String
  | alap => "alap"
  | asap => "asap"

/-- The two methods also have long spellings. -/
def parse (s : String) : Except UnsupportedMethod SchedulingMethod :=
  match s with
  | "alap" => .ok alap
  | "as_late_as_possible" => .ok alap
  | "asap" => .ok asap
  | "as_soon_as_possible" => .ok asap
  | _ => .error ⟨.scheduling, s⟩

end SchedulingMethod

/-- Decomposition of unitaries. -/
inductive SynthesisMethod where
  /-- The built-in decomposer. -/
  | builtin
  | plugin (name : String)
  deriving DecidableEq, Repr

namespace SynthesisMethod

def name : SynthesisMethod → String
  | builtin => "default"
  | plugin name => name

def isBuiltin : SynthesisMethod → Bool
  | builtin => true
  | plugin _ => false

/-- Blanks around the name do not count; a name without characters or with a blank inside is
refused as it was given. -/
def parse (s : String) : Except UnsupportedMethod SynthesisMethod :=
  let name := Text.trimChars s.toList
  if name.isEmpty || name.any Text.isBlank then .error ⟨.synthesis, s⟩
  else if name = "default".toList then .ok builtin
  else .ok (plugin (String.ofList name))

end SynthesisMethod

end PresetPipeline
