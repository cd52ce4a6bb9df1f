import PresetPipeline.Proofs.Preset.Feeding
import PresetPipeline.Proofs.Preset.Skeleton

/-!
# The passes by stage

Which passes a stage may have, by their names.

* `StageKind.vocabulary` — the names of the passes that a kind of stage may have.
* `Settings.Makes.name_mem` — no stage has a pass of another name.
* `StageKind.Owns` — names of passes that only one kind of stage can have.
* `named_of_dispatch` — the passes of such names are those in the stage of that kind.
-/

set_option autoImplicit false

namespace PresetPipeline

variable {n : Int} {s : Settings} {level : Level} {policy : Policy} {p : Pipeline} {pass : Pass}
  {stage : Stage} {kind : StageKind} {m : CouplingMap} {b : BasisGates}

/-! ## Names -/

/-- The names of the passes that move the qubits of a circuit, and of those around them. -/
def routingNames : List String :=
  ["CheckMap", "BarrierBeforeFinalMeasurements", "BasicSwap", "LookaheadSwap", "StochasticSwap",
    "SabreSwap", "RaiseIfUnrouted"]

/-- The names of the passes that bring a circuit into the basis. -/
def basisNames : List String :=
  ["Unroller", "UnitarySynthesis", "UnrollCustomDefinitions", "BasisTranslator", "Unroll3qOrMore",
    "Collect2qBlocks", "ConsolidateBlocks"]

/-- The names of the passes that turn gates around. -/
def directionNames : List String := ["CheckGateDirection", "GateDirection"]

def optimizationNames : List String :=
  ["Optimize1qGatesDecomposition", "CXCancellation", "CommutativeCancellation", "Collect2qBlocks",
    "ConsolidateBlocks", "UnitarySynthesis"]

def schedulingNames : List String :=
  ["TimeUnitConversion", "ALAPScheduleAnalysis", "ASAPScheduleAnalysis", "PadDelay",
    "ValidatePulseGates", "ConstrainedReschedule"]

/-- The names of the passes that a kind of stage may have. -/
def StageKind.vocabulary : StageKind → List String
  | .init => initNames
  | .layout => layoutChoosers ++ ["Layout2qDistance"] ++ layoutAppliers
  | .routing => routingNames
  | .translation => basisNames ++ directionNames ++ ["PulseGates"]
  | .optimization => optimizationNames
  | .scheduling => schedulingNames

@[simp] theorem name_withEdges : (pass.withEdges m).name = pass.name := rfl

@[simp] theorem name_withBasis : (pass.withBasis b).name = pass.name := rfl

@[simp] theorem name_withBasis? {b : Option BasisGates} : (pass.withBasis? b).name = pass.name :=
  Pass.name_withArg?

@[simp] theorem name_withSeed {seed : Option UInt64} : (pass.withSeed seed).name = pass.name :=
  Pass.name_withArg?

@[simp] theorem name_withNat {key : String} {k : Nat} : (pass.withNat key k).name = pass.name := rfl

@[simp] theorem name_synthesisPass {minQubits : Option Nat} :
    (synthesisPass s b minQubits).name = "UnitarySynthesis" := by
  simp [synthesisPass]

@[simp] theorem name_singleQubitPass : (singleQubitPass s).name = "Optimize1qGatesDecomposition" := by
  simp [singleQubitPass]

/-! ## The names of each stage -/

theorem names_layoutChoice {choice : List Pass} (h : layoutChoice s m policy = .ok choice) :
    ∀ q ∈ choice, q.name ∈ layoutChoosers ++ ["Layout2qDistance"] := by
  obtain ⟨l, -, rfl⟩ | ⟨method, pass, hpass, heq⟩ := layoutChoice_eq_ok h
  · rw [List.forall_mem_singleton]
    show "SetLayout" ∈ _
    decide
  · have hname : pass.name ∈ layoutChoosers ++ ["Layout2qDistance"] := by
      obtain ⟨name, hmem, hname, -, -⟩ := choosesLayout_layoutPass hpass
      rw [hname]
      exact List.mem_append_left _ hmem
    obtain rfl | rfl := heq
    · rw [List.forall_mem_singleton]
      exact hname
    · cases policy.probe with
      | none =>
        simp only [probedLayout, List.forall_mem_singleton]
        exact hname
      | trivial =>
        simp only [probedLayout, List.forall_mem_cons]
        exact ⟨(by decide : "TrivialLayout" ∈ _), (by decide : "Layout2qDistance" ∈ _), hname,
          List.forall_mem_nil _⟩
      | perfectSearch callLimit timeLimit =>
        simp only [probedLayout, List.forall_mem_cons]
        refine ⟨?_, hname, List.forall_mem_nil _⟩
        rw [name_withSeed]
        show "CSPLayout" ∈ _
        decide

theorem name_routingPass {method : RoutingMethod} : (routingPass method s m policy).name ∈ routingNames := by
  cases method <;> simp [routingPass, routingNames]

theorem names_routingPasses {method : RoutingMethod} :
    ∀ q ∈ routingPasses method s m policy, q.name ∈ routingNames := by
  simp only [routingPasses, List.forall_mem_append, List.forall_mem_singleton]
  refine ⟨⟨(by decide : "CheckMap" ∈ _), ?_⟩, name_routingPass⟩
  split
  · exact List.forall_mem_nil _
  · rw [List.forall_mem_singleton]
    show "BarrierBeforeFinalMeasurements" ∈ _
    decide

theorem names_basisPasses {method : TranslationMethod} :
    ∀ q ∈ basisPasses method s b, q.name ∈ basisNames := by
  cases method <;> simp [basisPasses, basisNames]

theorem names_directionPasses : ∀ q ∈ directionPasses s, q.name ∈ directionNames := by
  obtain hnil | ⟨m, -, heq⟩ := directionPasses_cases s
  · rw [hnil]
    exact List.forall_mem_nil _
  · simp [heq, directionNames]

theorem names_pulsePasses : ∀ q ∈ pulsePasses s, q.name = "PulseGates" := by
  unfold pulsePasses
  split
  · exact List.forall_mem_nil _
  · rw [List.forall_mem_singleton]
    rfl

theorem names_optimizationStage? (h : optimizationStage? level s = some stage) :
    ∀ q ∈ stage.passes, q.name ∈ optimizationNames := by
  cases level with
  | level0 => cases h
  | level1 =>
    cases h
    simp [Stage.once, Stage.repeatedUntil, optimizationNames]
  | level2 =>
    cases h
    simp [Stage.once, Stage.repeatedUntil, optimizationNames]
  | level3 =>
    cases h
    show ∀ q ∈ resynthesisPasses s, _
    cases hb : s.basisGates <;> simp [resynthesisPasses, hb, optimizationNames]

theorem names_schedulingPasses {d : Durations} : ∀ q ∈ schedulingPasses s d, q.name ∈ schedulingNames := by
  simp only [schedulingPasses, List.forall_mem_append, List.forall_mem_singleton]
  refine ⟨⟨(by decide : "TimeUnitConversion" ∈ _), ?_⟩, ?_⟩
  · cases s.schedulingMethod with
    | none => exact List.forall_mem_nil _
    | some method => cases method <;> simp [timingPasses, schedulerPass, schedulingNames]
  · cases s.activeTiming? with
    | none => exact List.forall_mem_nil _
    | some t => cases s.schedulingMethod <;> simp [constraintPasses, schedulingNames]

/-- The passes of a stage are among those of its kind. -/
theorem Settings.Makes.name_mem (h : s.Makes level stage) :
    ∀ q ∈ stage.passes, q.name ∈ stage.kind.vocabulary := by
  cases h with
  | init =>
    intro q hq
    obtain ⟨name, hname, rfl⟩ := mem_initStage hq
    exact hname
  | layout _ hchoice =>
    show ∀ q ∈ _ ++ layoutApplication _, Pass.name q ∈ _ ++ layoutAppliers
    rw [List.forall_mem_append]
    constructor
    · exact fun q hq => List.mem_append_left _ (names_layoutChoice hchoice q hq)
    · simp [layoutApplication, layoutAppliers]
  | routing _ => exact names_routingPasses
  | translation _ =>
    intro q hq
    rcases List.mem_append.1 hq with hq | hq
    · rcases List.mem_append.1 hq with hq | hq
      · exact List.mem_append_left _ (List.mem_append_left _ (names_basisPasses q hq))
      · exact List.mem_append_left _ (List.mem_append_right _ (names_directionPasses q hq))
    · rw [names_pulsePasses q hq]
      show "PulseGates" ∈ basisNames ++ directionNames ++ ["PulseGates"]
      decide
  | optimization hsome =>
    have hkind : stage.kind = .optimization := by
      cases level <;> cases hsome <;> rfl
    rw [hkind]
    exact names_optimizationStage? hsome
  | scheduling _ => exact names_schedulingPasses

/-! ## Passes of one kind of stage -/

/-- Only stages of this kind can have passes of these names. -/
def StageKind.Owns (kind : StageKind) (names : List String) : Prop :=
  ∀ kind', kind' ≠ kind → ∀ name ∈ names, name ∉ kind'.vocabulary

/-- The passes that have one of these names, in order. -/
def Stage.named (stage : Stage) (names : List String) : List Pass :=
  stage.passes.filter (·.name ∈ names)

/-- The passes that have one of these names, in any stage, in order. -/
def Pipeline.named (p : Pipeline) (names : List String) : List Pass :=
  p.passes.filter (·.name ∈ names)

variable {names : List String}

theorem StageKind.Owns.named_eq_nil (howns : kind.Owns names) (h : s.Makes level stage)
    (hkind : stage.kind ≠ kind) : stage.named names = [] := by
  apply List.filter_eq_nil_iff.2
  intro q hq
  rw [decide_eq_true_iff]
  exact fun hname => howns stage.kind hkind q.name hname (h.name_mem q hq)

/-- Where every other kind of stage has none of the passes, and no kind comes twice, only the stage of
the kind counts. -/
theorem flatMap_named {stages : List Stage}
    (hkinds : (stages.map (·.kind)).Pairwise fun a b => a.rank < b.rank)
    (hothers : ∀ stage ∈ stages, stage.kind ≠ kind → stage.named names = []) :
    stages.flatMap (·.named names) =
      ((stages.find? (·.kind == kind)).map (·.named names)).getD [] := by
  induction stages with
  | nil => rfl
  | cons stage rest ih =>
    obtain ⟨hstage, hothers⟩ := List.forall_mem_cons.1 hothers
    rw [List.map_cons, List.pairwise_cons] at hkinds
    obtain ⟨hbelow, hkinds⟩ := hkinds
    rw [List.flatMap_cons, List.find?_cons]
    by_cases hkind : stage.kind = kind
    · have hrest : rest.flatMap (·.named names) = [] := by
        rw [List.flatMap_eq_nil_iff]
        intro other hother
        -- the kinds increase, so none of the rest is of the kind again
        apply hothers other hother
        intro heq
        have hless := hbelow other.kind (List.mem_map_of_mem hother)
        rw [heq, hkind] at hless
        exact Nat.lt_irrefl _ hless
      rw [hrest, List.append_nil, hkind, beq_self_eq_true]
      rfl
    · rw [hstage hkind, List.nil_append, ih hkinds hothers, beq_eq_false_iff_ne.2 hkind]

/-- Passes of names that only one kind of stage can have are in the stage of that kind. -/
theorem named_of_dispatch (h : (dispatch n s).outcome = .ok p) (howns : kind.Owns names) :
    p.named names = ((p.stage? kind).map (·.named names)).getD [] := by
  have hflat : p.named names = p.stages.flatMap (·.named names) := List.filter_flatMap
  rw [hflat, Pipeline.stage?]
  apply flatMap_named (isFramed_of_dispatch h).increasing
  intro stage hstage hkind
  exact howns.named_eq_nil (makes_of_dispatch h hstage) hkind

end PresetPipeline
