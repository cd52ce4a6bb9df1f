import PresetPipeline.Pipeline.Basic
import PresetPipeline.Settings.Method

/-!
# Policies

What a level uses where the settings leave the choice open.

* `LayoutProbe` — a search for a layout that comes before the default method.
* `Policy` — the defaults of a level.
* `Level.policy` — the policy of each level.
-/

set_option autoImplicit false

namespace PresetPipeline

/-- What is tried before the default layout method, when no method is set. -/
inductive LayoutProbe where
  /-- Nothing. -/
  | none
  /-- The trivial layout, which is kept if it needs no swap. -/
  | trivial
  /-- A bounded search for a layout that needs no swap. -/
  | perfectSearch (callLimit timeLimit : Nat)
  deriving DecidableEq, Repr

structure Policy where
  layout : LayoutMethod
  routing : RoutingMethod
  translation : TranslationMethod
  probe : LayoutProbe
  stochasticTrials : Nat
  lookaheadDepth : Nat
  lookaheadWidth : Nat
  sabreHeuristic : String
  sabreLayoutIterations : Nat
  deriving DecidableEq, Repr

def Level.policy : Level → Policy
  | .level0 => ⟨.trivial, .stochastic, .translator, .none, 20, 2, 2, "basic", 1⟩
  | .level1 => ⟨.dense, .stochastic, .translator, .trivial, 20, 4, 4, "lookahead", 2⟩
  | .level2 => ⟨.dense, .stochastic, .translator, .perfectSearch 1000 10, 20, 5, 5, "decay", 2⟩
  | .level3 => ⟨.sabre, .sabre, .translator, .perfectSearch 10000 60, 200, 5, 6, "decay", 4⟩

/-- The passes that a level adds to the first stage. -/
def Level.initPasses : Level → List Pass
  | .level3 =>
    [.transformation "RemoveResetInZeroState", .transformation "OptimizeSwapBeforeMeasure",
      .transformation "RemoveDiagonalGatesBeforeMeasure"]
  | _ => []

def LayoutProbe.toJson : LayoutProbe → Json
  | .none => .string "none"
  | .trivial => .string "trivial"
  | .perfectSearch calls time => .object [("perfect_search", .ofNats [calls, time])]

/-- Every field of a policy. -/
def Policy.members (p : Policy) : List (String × Json) :=
  [("layout", .string p.layout.name), ("routing", .string p.routing.name),
    ("translation", .string p.translation.name), ("probe", p.probe.toJson),
    ("stochastic_trials", .ofNat p.stochasticTrials),
    ("lookahead", .ofNats [p.lookaheadDepth, p.lookaheadWidth]),
    ("sabre_heuristic", .string p.sabreHeuristic),
    ("sabre_layout_iterations", .ofNat p.sabreLayoutIterations)]

end PresetPipeline
