import PresetPipeline.Device.Writing
import PresetPipeline.Preset.Policy
import PresetPipeline.Settings.Resolve

/-!
# The stages of preset pipelines

Each stage as a function of the settings and of the policy of a level. A stage without anything to
do is absent; a stage that is asked for something and lacks a field for it is an error.

* `initStage`, `layoutStage?`, `routingStage?`, `translationStage?`, `optimizationStage?`,
  `schedulingStage?` — the stages in order.
-/

set_option autoImplicit false

namespace PresetPipeline

/-- The edges of a coupling map as an argument. -/
def edgesArg (m : CouplingMap) : Json := jsonEdges m.edges.toList

/-- The names of a basis as an argument. -/
def basisArg (b : BasisGates) : Json := b.toJson

def Pass.withEdges (p : Pass) (m : CouplingMap) : Pass := p.withArg "coupling_map" (edgesArg m)

def Pass.withBasis (p : Pass) (b : BasisGates) : Pass := p.withArg "basis_gates" (basisArg b)

def Pass.withBasis? (p : Pass) (b : Option BasisGates) : Pass :=
  p.withArg? "basis_gates" (b.map basisArg)

def Pass.withSeed (p : Pass) (seed : Option UInt64) : Pass :=
  p.withArg? "seed" (seed.map fun n => .ofNat n.toNat)

def Pass.withNat (p : Pass) (key : String) (n : Nat) : Pass := p.withArg key (.ofNat n)

/-- The configuration that reaches a plugin: none for the built-in method. -/
def Settings.activePlugin? (s : Settings) : Option PluginConfig :=
  if s.synthesisMethod.isBuiltin then none else s.pluginConfig

/-- Synthesis of unitaries on at least `minQubits` qubits. -/
def synthesisPass (s : Settings) (b : BasisGates) (minQubits : Option Nat) : Pass :=
  ((((((Pass.transformation "UnitarySynthesis").withBasis b).withArg "method"
    (.string s.synthesisMethod.name)).withArg? "approximation_degree"
      (s.degree.map fun d => .ofFloat d.value)).withArg? "min_qubits" (minQubits.map .ofNat)).withArg?
        "coupling_map" (s.couplingMap.map edgesArg)).withArg? "plugin_config"
          (s.activePlugin?.map .ofMap)

/-- Resynthesis of runs of gates on one qubit, into the basis if it is known. -/
def singleQubitPass (s : Settings) : Pass :=
  (Pass.transformation "Optimize1qGatesDecomposition").withBasis? s.basisGates

def initStage (level : Level) : Stage :=
  .once .init (.transformation "Unroll3qOrMore" :: level.initPasses)

/-- The pass of a layout method. Ranking by errors needs the property table. -/
def layoutPass (method : LayoutMethod) (s : Settings) (m : CouplingMap) (policy : Policy) :
    Except CompileError Pass :=
  match method with
  | .trivial => .ok ((Pass.analysis "TrivialLayout").withEdges m)
  | .dense =>
    .ok (((Pass.analysis "DenseLayout").withArg "use_error_rates"
      (.bool s.properties.isSome)).withEdges m)
  | .noiseAdaptive =>
    if s.properties.isNone then .error (.unresolved .noiseRanking)
    else .ok ((Pass.analysis "NoiseAdaptiveLayout").withEdges m)
  | .sabre =>
    .ok ((((Pass.analysis "SabreLayout").withNat "max_iterations"
      policy.sabreLayoutIterations).withSeed s.seed).withEdges m)

/-- The default layout pass after the probe of a level; it is guarded by the failure of the
probe. -/
def probedLayout (probe : LayoutProbe) (s : Settings) (m : CouplingMap) (fallback : Pass) :
    List Pass :=
  match probe with
  | .none => [fallback]
  | .trivial =>
    [(Pass.analysis "TrivialLayout").withEdges m,
      ((Pass.analysis "Layout2qDistance").withEdges m).withArg "property_name"
        (.string "trivial_layout_score"),
      fallback.guardedBy .trivialLayoutImperfect]
  | .perfectSearch callLimit timeLimit =>
    [((((Pass.analysis "CSPLayout").withEdges m).withNat "call_limit" callLimit).withNat
        "time_limit" timeLimit).withSeed s.seed,
      fallback.guardedBy .layoutUnset]

/-- A layout as an argument. -/
def layoutArg (l : Layout) : Json := .array (l.pairs.map fun (v, p) => jsonQubits [v, p])

/-- The passes that choose a layout: the given layout, else the given method, else the default. -/
def layoutChoice (s : Settings) (m : CouplingMap) (policy : Policy) :
    Except CompileError (List Pass) :=
  match s.initialLayout, s.layoutMethod with
  | some layout, _ => .ok [(Pass.analysis "SetLayout").withArg "layout" (layoutArg layout)]
  | none, some method => (layoutPass method s m policy).map fun p => [p]
  | none, none => (layoutPass policy.layout s m policy).map (probedLayout policy.probe s m)

/-- The passes that carry a chosen layout out. -/
def layoutApplication (m : CouplingMap) : List Pass :=
  [(Pass.analysis "FullAncillaAllocation").withNat "num_qubits" m.numQubits.toNat,
    .transformation "EnlargeWithAncilla", .transformation "ApplyLayout"]

def layoutStage? (s : Settings) (policy : Policy) : Except CompileError (Option Stage) :=
  match s.couplingMap with
  | some m =>
    (layoutChoice s m policy).map fun choice => some (.once .layout (choice ++ layoutApplication m))
  | none =>
    match s.layoutMethod, s.initialLayout with
    | some method, _ => .error (.unresolved (.layoutMethod method))
    | none, some _ => .error (.unresolved .initialLayout)
    | none, none => .ok none

/-- What a circuit that does not fit is told when there is no routing. -/
def unroutedMessage : String :=
  "no routing method selected, but the circuit does not fit the connectivity graph"

/-- The pass of a routing method. -/
def routingPass (method : RoutingMethod) (s : Settings) (m : CouplingMap) (policy : Policy) : Pass :=
  match method with
  | .basic => ((Pass.transformation "BasicSwap").withEdges m).guardedBy .notMapped
  | .lookahead =>
    ((((Pass.transformation "LookaheadSwap").withNat "search_depth" policy.lookaheadDepth).withNat
      "search_width" policy.lookaheadWidth).withEdges m).guardedBy .notMapped
  | .stochastic =>
    ((((Pass.transformation "StochasticSwap").withNat "trials" policy.stochasticTrials).withSeed
      s.seed).withEdges m).guardedBy .notMapped
  | .sabre =>
    ((((Pass.transformation "SabreSwap").withArg "heuristic" (.string policy.sabreHeuristic)).withSeed
      s.seed).withEdges m).guardedBy .notMapped
  | .none =>
    ((Pass.analysis "RaiseIfUnrouted").withArg "message" (.string unroutedMessage)).guardedBy
      .notMapped

/-- The passes of the routing stage. Barriers are only set where swaps may be inserted. -/
def routingPasses (method : RoutingMethod) (s : Settings) (m : CouplingMap) (policy : Policy) :
    List Pass :=
  [(Pass.analysis "CheckMap").withEdges m] ++
    (if method = .none then []
      else [(Pass.transformation "BarrierBeforeFinalMeasurements").guardedBy .notMapped]) ++
    [routingPass method s m policy]

def routingStage? (s : Settings) (policy : Policy) : Except CompileError (Option Stage) :=
  match s.couplingMap with
  | some m =>
    .ok (some (.once .routing (routingPasses (s.routingMethod.getD policy.routing) s m policy)))
  | none =>
    match s.routingMethod with
    | none | some .none => .ok none
    | some method => .error (.unresolved (.routingMethod method))

/-- The passes that bring a circuit into the basis. -/
def basisPasses (method : TranslationMethod) (s : Settings) (b : BasisGates) : List Pass :=
  match method with
  | .unroller => [(Pass.transformation "Unroller").withBasis b]
  | .translator =>
    [synthesisPass s b (some 3), (Pass.transformation "UnrollCustomDefinitions").withBasis b,
      (Pass.transformation "BasisTranslator").withBasis b]
  | .synthesis =>
    [synthesisPass s b (some 3), .transformation "Unroll3qOrMore", .analysis "Collect2qBlocks",
      (Pass.transformation "ConsolidateBlocks").withBasis b, synthesisPass s b none]

/-- The passes that turn gates around, where some edge has one direction only. -/
def directionPasses (s : Settings) : List Pass :=
  match s.couplingMap.filter fun m => !m.isSymmetric with
  | none => []
  | some m =>
    [(Pass.analysis "CheckGateDirection").withEdges m,
      ((Pass.transformation "GateDirection").withEdges m).guardedBy .directionMismatch]

/-- The pass that attaches schedules, where there are any. -/
def pulsePasses (s : Settings) : List Pass :=
  match s.schedules.filter fun m => !m.isEmpty with
  | none => []
  | some m =>
    [(Pass.transformation "PulseGates").withArg "calibrated" (.ofStrings (operations m))]

def translationStage? (s : Settings) (policy : Policy) : Except CompileError (Option Stage) :=
  match s.basisGates with
  | some b =>
    .ok (some (.once .translation (basisPasses (s.translationMethod.getD policy.translation) s b ++
      directionPasses s ++ pulsePasses s)))
  | none =>
    match s.translationMethod with
    | some method => .error (.unresolved (.translationMethod method))
    | none => .ok none

/-- The passes of the optimization loop of the highest level. -/
def resynthesisPasses (s : Settings) : List Pass :=
  [.analysis "Collect2qBlocks", (Pass.transformation "ConsolidateBlocks").withBasis? s.basisGates] ++
    (s.basisGates.map fun b => synthesisPass s b none).toList ++
    [singleQubitPass s, .transformation "CommutativeCancellation"]

def optimizationStage? (level : Level) (s : Settings) : Option Stage :=
  match level with
  | .level0 => none
  | .level1 =>
    some ((Stage.once .optimization
      [singleQubitPass s, .transformation "CXCancellation"]).repeatedUntil .untilDepthFixed)
  | .level2 =>
    some ((Stage.once .optimization
      [singleQubitPass s,
        (Pass.transformation "CommutativeCancellation").withBasis? s.basisGates]).repeatedUntil
          .untilDepthAndSizeFixed)
  | .level3 =>
    some ((Stage.once .optimization (resynthesisPasses s)).repeatedUntil .untilDepthAndSizeFixed)

/-- The pass that assigns start times. -/
def schedulerPass : SchedulingMethod → Pass
  | .alap => .analysis "ALAPScheduleAnalysis"
  | .asap => .analysis "ASAPScheduleAnalysis"

/-- The passes that time a circuit, if a method is set. -/
def timingPasses : Option SchedulingMethod → List Pass
  | none => []
  | some method => [schedulerPass method, .transformation "PadDelay"]

/-- The passes that respect timing constraints. Times are moved only if a method has set them. -/
def constraintPasses (method : Option SchedulingMethod) : Option TimingConstraints → List Pass
  | none => []
  | some t =>
    [((Pass.analysis "ValidatePulseGates").withNat "granularity" t.granularity.toNat).withNat
        "min_length" t.minLength.toNat] ++
      if method.isSome then
        [((Pass.transformation "ConstrainedReschedule").withNat "acquire_alignment"
          t.acquireAlignment.toNat).withNat "pulse_alignment" t.pulseAlignment.toNat]
      else []

def schedulingPasses (s : Settings) (durations : Durations) : List Pass :=
  [(Pass.transformation "TimeUnitConversion").withArg "dt" (jsonReal? durations.dt)] ++
    timingPasses s.schedulingMethod ++ constraintPasses s.schedulingMethod s.activeTiming?

def schedulingStage? (s : Settings) : Except CompileError (Option Stage) :=
  if s.schedulingMethod.isNone && !s.hasCalibrations then .ok none
  else
    match s.durations, s.schedulingMethod with
    | some d, _ => .ok (some (.once .scheduling (schedulingPasses s d)))
    | none, some method => .error (.unresolved (.schedulingMethod method))
    | none, none => .error (.unresolved .calibrations)

end PresetPipeline
