import PresetPipeline.Proofs.Preset.Composition
import PresetPipeline.Proofs.Preset.Failure

/-!
# Device data in a pipeline

Which data of the device and of the caller the passes of a pipeline carry.

* `Pass.Draws` — a pass has its edges and its basis from the settings. Every way to put a pass
  together keeps this.
* `Pass.IsSupplied` — the ways in which a pass comes by its data. `Settings.Makes.isSupplied` — the
  stages have no other passes.
* `Pass.IsCoherent` — the data of a pass are those of the settings, and they are in range.
* `generate_isCoherent` — every pass of a pipeline is coherent.
-/

set_option autoImplicit false

namespace PresetPipeline

variable {n : Int} {s : Settings} {level : Level} {policy : Policy} {p : Pass} {stage : Stage}
  {m : CouplingMap} {b : BasisGates}

/-- The names of the passes that draw random numbers. -/
def seededPasses : List String := ["SabreLayout", "CSPLayout", "StochasticSwap", "SabreSwap"]

/-- The names of the passes that place qubits where they are told to. -/
def placingPasses : List String := ["FullAncillaAllocation", "SetLayout"]

/-- The seed as an argument. -/
def Settings.seedArg? (s : Settings) : Option Json := s.seed.map fun n => .number (.integer n.toNat)

/-! ## Edges, basis and seed -/

/-- A pass of a name and with a seed argument, whose edges and basis are those of the settings. -/
structure Pass.Draws (s : Settings) (name : String) (seed? : Option Json) (p : Pass) : Prop where
  name_eq : p.name = name
  edges : ∀ v ∈ p.arg? "coupling_map", s.couplingMap.map edgesArg = some v
  basis : ∀ v ∈ p.arg? "basis_gates", s.basisGates.map basisArg = some v
  seed : p.arg? "seed" = seed?

namespace Pass.Draws

variable {name key : String} {seed? : Option Json}

theorem analysis (name : String) : Draws s name none (.analysis name) := by
  constructor <;> simp

theorem transformation (name : String) : Draws s name none (.transformation name) := by
  constructor <;> simp

theorem guardedBy (h : Draws s name seed? p) (c : Condition) : Draws s name seed? (p.guardedBy c) :=
  ⟨h.name_eq, h.edges, h.basis, h.seed⟩

/-- Any other argument may be set. -/
theorem withArg (h : Draws s name seed? p) (value : Json)
    (hkey : key ∉ ["coupling_map", "basis_gates", "seed"]) :
    Draws s name seed? (p.withArg key value) := by
  simp only [List.mem_cons, List.not_mem_nil, or_false, not_or] at hkey
  obtain ⟨hedges, hbasis, hseed⟩ := hkey
  refine ⟨h.name_eq, ?_, ?_, ?_⟩
  · rw [arg?_withArg, if_neg (Ne.symm hedges)]
    exact h.edges
  · rw [arg?_withArg, if_neg (Ne.symm hbasis)]
    exact h.basis
  · rw [arg?_withArg, if_neg (Ne.symm hseed)]
    exact h.seed

theorem withArg? (h : Draws s name seed? p) (value? : Option Json)
    (hkey : key ∉ ["coupling_map", "basis_gates", "seed"]) :
    Draws s name seed? (p.withArg? key value?) := by
  cases value? with
  | none => exact h
  | some v => exact h.withArg v hkey

theorem withNat (h : Draws s name seed? p) (n : Nat)
    (hkey : key ∉ ["coupling_map", "basis_gates", "seed"]) : Draws s name seed? (p.withNat key n) :=
  h.withArg (.ofNat n) hkey

theorem withEdges (h : Draws s name seed? p) (hm : s.couplingMap = some m) :
    Draws s name seed? (p.withEdges m) := by
  refine ⟨h.name_eq, ?_, ?_, ?_⟩
  · simp [Pass.withEdges, hm]
  · simpa [Pass.withEdges] using h.basis
  · simpa [Pass.withEdges] using h.seed

theorem withEdges? (h : Draws s name seed? p) :
    Draws s name seed? (p.withArg? "coupling_map" (s.couplingMap.map edgesArg)) := by
  cases hm : s.couplingMap with
  | none => exact h
  | some m => exact h.withEdges hm

theorem withBasis (h : Draws s name seed? p) (hb : s.basisGates = some b) :
    Draws s name seed? (p.withBasis b) := by
  refine ⟨h.name_eq, ?_, ?_, ?_⟩
  · simpa [Pass.withBasis] using h.edges
  · simp [Pass.withBasis, hb]
  · simpa [Pass.withBasis] using h.seed

theorem withBasis? (h : Draws s name seed? p) : Draws s name seed? (p.withBasis? s.basisGates) := by
  cases hb : s.basisGates with
  | none => exact h
  | some b => exact h.withBasis hb

theorem withSeed (h : Draws s name none p) : Draws s name s.seedArg? (p.withSeed s.seed) := by
  have hseed : (p.withSeed s.seed).arg? "seed" = s.seedArg? := by
    rw [Pass.withSeed, arg?_withArg?, if_pos rfl, h.seed, Option.or_none]
    rfl
  refine ⟨?_, ?_, ?_, hseed⟩
  · simpa [Pass.withSeed] using h.name_eq
  · simpa [Pass.withSeed] using h.edges
  · simpa [Pass.withSeed] using h.basis

end Pass.Draws

/-! ## The supply of a pass -/

/-- How a pass comes by its data. -/
inductive Pass.IsSupplied (s : Settings) (p : Pass) : Prop where
  | plain {name : String} : p.Draws s name none → name ∉ placingPasses ++ seededPasses →
      IsSupplied s p
  | seeded {name : String} : p.Draws s name s.seedArg? → name ∈ seededPasses → IsSupplied s p
  | width {m : CouplingMap} : s.couplingMap = some m → p.name = "FullAncillaAllocation" →
      (∀ key, p.arg? key = if key = "num_qubits" then some (.ofNat m.numQubits.toNat) else none) →
      IsSupplied s p
  | layout {m : CouplingMap} {l : Layout} : s.couplingMap = some m → s.initialLayout = some l →
      p.name = "SetLayout" →
      (∀ key, p.arg? key = if key = "layout" then some l.listing else none) → IsSupplied s p

theorem Pass.IsSupplied.guardedBy (h : p.IsSupplied s) (c : Condition) :
    (p.guardedBy c).IsSupplied s := by
  cases h with
  | plain hdraws hname => exact .plain (hdraws.guardedBy c) hname
  | seeded hdraws hname => exact .seeded (hdraws.guardedBy c) hname
  | width hm hname hargs => exact .width hm hname hargs
  | layout hm hl hname hargs => exact .layout hm hl hname hargs

theorem isSupplied_analysis {name : String} (hname : name ∉ placingPasses ++ seededPasses) :
    (Pass.analysis name).IsSupplied s :=
  .plain (.analysis name) hname

theorem isSupplied_transformation {name : String} (hname : name ∉ placingPasses ++ seededPasses) :
    (Pass.transformation name).IsSupplied s :=
  .plain (.transformation name) hname

/-! ## Every stage -/

theorem isSupplied_initStage : ∀ p ∈ (initStage level).passes, p.IsSupplied s := by
  intro p hp
  obtain ⟨name, hname, rfl⟩ := mem_initStage hp
  have hapart : ∀ name ∈ initNames, name ∉ placingPasses ++ seededPasses := by decide
  exact isSupplied_transformation (hapart name hname)

theorem isSupplied_layoutPass {method : LayoutMethod} (hm : s.couplingMap = some m)
    (h : layoutPass method s m policy = .ok p) : p.IsSupplied s := by
  obtain rfl | rfl | rfl | rfl := layoutPass_eq_ok h
  · exact .plain ((Pass.Draws.analysis _).withEdges hm) (by decide)
  · exact .plain (((Pass.Draws.analysis _).withArg _ (by decide)).withEdges hm) (by decide)
  · exact .plain ((Pass.Draws.analysis _).withEdges hm) (by decide)
  · exact .seeded (((Pass.Draws.analysis _).withNat _ (by decide)).withSeed.withEdges hm) (by decide)

theorem isSupplied_probedLayout {probe : LayoutProbe} {fallback : Pass}
    (hm : s.couplingMap = some m) (h : fallback.IsSupplied s) :
    ∀ p ∈ probedLayout probe s m fallback, p.IsSupplied s := by
  cases probe with
  | none =>
    simp only [probedLayout, List.forall_mem_singleton]
    exact h
  | trivial =>
    simp only [probedLayout, List.forall_mem_cons]
    refine ⟨?_, ?_, h.guardedBy _, List.forall_mem_nil _⟩
    · exact .plain ((Pass.Draws.analysis _).withEdges hm) (by decide)
    · exact .plain (((Pass.Draws.analysis _).withEdges hm).withArg _ (by decide)) (by decide)
  | perfectSearch callLimit timeLimit =>
    simp only [probedLayout, List.forall_mem_cons]
    refine ⟨?_, h.guardedBy _, List.forall_mem_nil _⟩
    have hlimits := (((Pass.Draws.analysis "CSPLayout").withEdges hm).withNat callLimit
      (by decide : "call_limit" ∉ _)).withNat timeLimit (by decide : "time_limit" ∉ _)
    exact .seeded hlimits.withSeed (by decide)

theorem isSupplied_layoutChoice {choice : List Pass} (hm : s.couplingMap = some m)
    (h : layoutChoice s m policy = .ok choice) : ∀ p ∈ choice, p.IsSupplied s := by
  obtain ⟨l, hl, rfl⟩ | ⟨method, pass, hpass, rfl | rfl⟩ := layoutChoice_eq_ok h
  · simp only [List.forall_mem_singleton]
    exact .layout hm hl rfl fun key => by simp [layoutArg_eq]
  · simp only [List.forall_mem_singleton]
    exact isSupplied_layoutPass hm hpass
  · exact isSupplied_probedLayout hm (isSupplied_layoutPass hm hpass)

theorem isSupplied_layoutApplication (hm : s.couplingMap = some m) :
    ∀ p ∈ layoutApplication m, p.IsSupplied s := by
  simp only [layoutApplication, List.forall_mem_cons]
  refine ⟨.width hm rfl fun key => ?_, isSupplied_transformation (by decide),
    isSupplied_transformation (by decide), List.forall_mem_nil _⟩
  simp [Pass.withNat]

theorem isSupplied_routingPass {method : RoutingMethod} (hm : s.couplingMap = some m) :
    (routingPass method s m policy).IsSupplied s := by
  cases method with
  | basic => exact .plain (((Pass.Draws.transformation _).withEdges hm).guardedBy _) (by decide)
  | lookahead =>
    exact .plain (((((Pass.Draws.transformation _).withNat _ (by decide)).withNat _
      (by decide)).withEdges hm).guardedBy _) (by decide)
  | stochastic =>
    exact .seeded ((((Pass.Draws.transformation _).withNat _ (by decide)).withSeed.withEdges
      hm).guardedBy _) (by decide)
  | sabre =>
    exact .seeded ((((Pass.Draws.transformation _).withArg _ (by decide)).withSeed.withEdges
      hm).guardedBy _) (by decide)
  | none =>
    exact .plain (((Pass.Draws.analysis _).withArg _ (by decide)).guardedBy _) (by decide)

theorem isSupplied_routingPasses {method : RoutingMethod} (hm : s.couplingMap = some m) :
    ∀ p ∈ routingPasses method s m policy, p.IsSupplied s := by
  simp only [routingPasses, List.forall_mem_append, List.forall_mem_singleton]
  refine ⟨⟨?_, ?_⟩, isSupplied_routingPass hm⟩
  · exact .plain ((Pass.Draws.analysis _).withEdges hm) (by decide)
  · split
    · exact List.forall_mem_nil _
    · rw [List.forall_mem_singleton]
      exact (isSupplied_transformation (by decide)).guardedBy _

theorem isSupplied_synthesisPass (hb : s.basisGates = some b) (minQubits : Option Nat) :
    (synthesisPass s b minQubits).IsSupplied s := by
  have hmethod := ((Pass.Draws.transformation "UnitarySynthesis").withBasis hb).withArg
    (.string s.synthesisMethod.name) (by decide : "method" ∉ _)
  have hdegree := hmethod.withArg? (s.degree.map fun d => .ofFloat d.value)
    (by decide : "approximation_degree" ∉ _)
  have hwidth := hdegree.withArg? (minQubits.map .ofNat) (by decide : "min_qubits" ∉ _)
  exact .plain (hwidth.withEdges?.withArg? _ (by decide)) (by decide)

theorem isSupplied_singleQubitPass : (singleQubitPass s).IsSupplied s :=
  .plain (Pass.Draws.transformation _).withBasis? (by decide)

theorem isSupplied_basisPasses {method : TranslationMethod} (hb : s.basisGates = some b) :
    ∀ p ∈ basisPasses method s b, p.IsSupplied s := by
  cases method with
  | unroller =>
    simp only [basisPasses, List.forall_mem_singleton]
    exact .plain ((Pass.Draws.transformation _).withBasis hb) (by decide)
  | translator =>
    simp only [basisPasses, List.forall_mem_cons]
    refine ⟨isSupplied_synthesisPass hb _, ?_, ?_, List.forall_mem_nil _⟩
    · exact .plain ((Pass.Draws.transformation _).withBasis hb) (by decide)
    · exact .plain ((Pass.Draws.transformation _).withBasis hb) (by decide)
  | synthesis =>
    simp only [basisPasses, List.forall_mem_cons]
    refine ⟨isSupplied_synthesisPass hb _, isSupplied_transformation (by decide),
      isSupplied_analysis (by decide), ?_, isSupplied_synthesisPass hb _, List.forall_mem_nil _⟩
    exact .plain ((Pass.Draws.transformation _).withBasis hb) (by decide)

theorem isSupplied_directionPasses : ∀ p ∈ directionPasses s, p.IsSupplied s := by
  obtain hnil | ⟨m, hm, heq⟩ := directionPasses_cases s
  · rw [hnil]
    exact List.forall_mem_nil _
  · simp only [heq, List.forall_mem_cons]
    refine ⟨?_, ?_, List.forall_mem_nil _⟩
    · exact .plain ((Pass.Draws.analysis _).withEdges hm) (by decide)
    · exact .plain (((Pass.Draws.transformation _).withEdges hm).guardedBy _) (by decide)

theorem isSupplied_pulsePasses : ∀ p ∈ pulsePasses s, p.IsSupplied s := by
  unfold pulsePasses
  split
  · exact List.forall_mem_nil _
  · rw [List.forall_mem_singleton]
    exact .plain ((Pass.Draws.transformation _).withArg _ (by decide)) (by decide)

theorem isSupplied_resynthesisPasses : ∀ p ∈ resynthesisPasses s, p.IsSupplied s := by
  simp only [resynthesisPasses, List.forall_mem_append, List.forall_mem_cons]
  refine ⟨⟨⟨isSupplied_analysis (by decide), ?_, List.forall_mem_nil _⟩, ?_⟩,
    isSupplied_singleQubitPass, isSupplied_transformation (by decide), List.forall_mem_nil _⟩
  · exact .plain (Pass.Draws.transformation _).withBasis? (by decide)
  · intro p hp
    obtain ⟨b, hb, rfl⟩ := Option.map_eq_some_iff.1 (Option.mem_toList.1 hp)
    exact isSupplied_synthesisPass hb _

theorem isSupplied_optimizationStage? (h : optimizationStage? level s = some stage) :
    ∀ p ∈ stage.passes, p.IsSupplied s := by
  cases level with
  | level0 => cases h
  | level1 =>
    cases h
    simp only [Stage.once, Stage.repeatedUntil, List.forall_mem_cons]
    exact ⟨isSupplied_singleQubitPass, isSupplied_transformation (by decide), List.forall_mem_nil _⟩
  | level2 =>
    cases h
    simp only [Stage.once, Stage.repeatedUntil, List.forall_mem_cons]
    refine ⟨isSupplied_singleQubitPass, ?_, List.forall_mem_nil _⟩
    exact .plain (Pass.Draws.transformation _).withBasis? (by decide)
  | level3 =>
    cases h
    exact isSupplied_resynthesisPasses

theorem isSupplied_timingPasses {method : Option SchedulingMethod} :
    ∀ p ∈ timingPasses method, p.IsSupplied s := by
  cases method with
  | none => exact List.forall_mem_nil _
  | some method =>
    simp only [timingPasses, List.forall_mem_cons]
    refine ⟨?_, isSupplied_transformation (by decide), List.forall_mem_nil _⟩
    cases method <;> exact isSupplied_analysis (by decide)

theorem isSupplied_constraintPasses {method : Option SchedulingMethod}
    {timing : Option TimingConstraints} : ∀ p ∈ constraintPasses method timing, p.IsSupplied s := by
  cases timing with
  | none => exact List.forall_mem_nil _
  | some t =>
    simp only [constraintPasses, List.forall_mem_append, List.forall_mem_singleton]
    constructor
    · exact .plain (((Pass.Draws.analysis _).withNat _ (by decide)).withNat _ (by decide))
        (by decide)
    · split
      · rw [List.forall_mem_singleton]
        exact .plain (((Pass.Draws.transformation _).withNat _ (by decide)).withNat _ (by decide))
          (by decide)
      · exact List.forall_mem_nil _

theorem isSupplied_schedulingPasses {d : Durations} :
    ∀ p ∈ schedulingPasses s d, p.IsSupplied s := by
  simp only [schedulingPasses, List.forall_mem_append, List.forall_mem_singleton]
  refine ⟨⟨?_, isSupplied_timingPasses⟩, isSupplied_constraintPasses⟩
  exact .plain ((Pass.Draws.transformation _).withArg _ (by decide)) (by decide)

/-- Every pass of every stage comes by its data in one of the ways. -/
theorem Settings.Makes.isSupplied (h : s.Makes level stage) : ∀ p ∈ stage.passes, p.IsSupplied s := by
  cases h with
  | init => exact isSupplied_initStage
  | layout hm hchoice =>
    exact List.forall_mem_append.2
      ⟨isSupplied_layoutChoice hm hchoice, isSupplied_layoutApplication hm⟩
  | routing hm => exact isSupplied_routingPasses hm
  | translation hb =>
    simp only [Stage.once, List.forall_mem_append]
    exact ⟨⟨isSupplied_basisPasses hb, isSupplied_directionPasses⟩, isSupplied_pulsePasses⟩
  | optimization h => exact isSupplied_optimizationStage? h
  | scheduling _ => exact isSupplied_schedulingPasses

/-! ## Coherence -/

/-- The virtual qubits increase, and the physical ones are distinct and below a count. -/
structure Layout.IsWithin (l : Layout) (n : Qubit) : Prop where
  increasing : l.pairs.Pairwise fun a b => a.1 < b.1
  distinct : l.pairs.Pairwise fun a b => a.2 ≠ b.2
  inRange : ∀ e ∈ l.pairs, e.2 < n

/-- The edges increase and stay below the count of qubits. -/
structure CouplingMap.IsWithin (m : CouplingMap) : Prop where
  increasing : StrictlySorted m.edges.toList
  inRange : ∀ e ∈ m.edges.toList, e.control < m.numQubits ∧ e.target < m.numQubits

theorem CouplingMap.isWithin (m : CouplingMap) : m.IsWithin := ⟨m.edges.sorted, m.inRange⟩

/-- The check of the settings keeps the layout on the graph. -/
theorem Settings.layout_isWithin {l : Layout} (h : s.checkLayout = .ok ())
    (hm : s.couplingMap = some m) (hl : s.initialLayout = some l) : l.IsWithin m.numQubits := by
  refine ⟨?_, l.injective, ?_⟩
  · exact l.placement.sorted.imp fun hlt => Std.compare_eq_lt.1 hlt
  · intro e he
    have hfits := (Settings.checkLayout_eq_ok_iff (n := 0)).1 h
    refine UInt32.not_le.1 fun hle => hfits ?_
    exact ⟨l, hl, m.numQubits, by simp [hm], .inr ⟨e, he, hle⟩⟩

/-- The data of a pass are those of the settings, and they are in range: the edges of the graph, the names
of the basis, the count of qubits and the placements of the layout, as lists of numbers and names. -/
structure Pass.IsCoherent (p : Pass) (s : Settings) : Prop where
  edges : ∀ v ∈ p.arg? "coupling_map", ∃ m ∈ s.couplingMap, v = m.listing ∧ m.IsWithin
  basis : ∀ v ∈ p.arg? "basis_gates", ∃ b ∈ s.basisGates,
    v = b.listing ∧ StrictlySorted b.toList
  width : p.name = "FullAncillaAllocation" → ∃ m ∈ s.couplingMap,
    p.arg? "num_qubits" = some (.number (.integer m.numQubits.toNat))
  layout : p.name = "SetLayout" → ∃ l ∈ s.initialLayout, ∃ m ∈ s.couplingMap,
    (∀ key, p.arg? key = if key = "layout" then some l.listing else none) ∧
      l.IsWithin m.numQubits
  seed : p.arg? "seed" = if p.name ∈ seededPasses then s.seedArg? else none

theorem Pass.Draws.isCoherent {name : String} {seed? : Option Json} (h : p.Draws s name seed?)
    (hname : name ∉ placingPasses) (hseed : seed? = if name ∈ seededPasses then s.seedArg? else none) :
    p.IsCoherent s := by
  obtain ⟨rfl, hedges, hbasis, rfl⟩ := h
  constructor
  case edges =>
    intro v hv
    obtain ⟨m, hm, rfl⟩ := Option.map_eq_some_iff.1 (hedges v hv)
    exact ⟨m, hm, edgesArg_eq m, m.isWithin⟩
  case basis =>
    intro v hv
    obtain ⟨b, hb, rfl⟩ := Option.map_eq_some_iff.1 (hbasis v hv)
    exact ⟨b, hb, basisArg_eq b, b.sorted⟩
  case width =>
    intro heq
    exact absurd (by rw [heq]; decide) hname
  case layout =>
    intro heq
    exact absurd (by rw [heq]; decide) hname
  case seed => exact hseed

theorem Pass.IsSupplied.isCoherent (h : p.IsSupplied s) (hlayout : s.checkLayout = .ok ()) :
    p.IsCoherent s := by
  cases h with
  | plain hdraws hname =>
    rw [List.mem_append, not_or] at hname
    exact hdraws.isCoherent hname.1 (if_neg hname.2).symm
  | @seeded name hdraws hname =>
    refine hdraws.isCoherent (fun hplacing => ?_) (if_pos hname).symm
    have hapart : ∀ name ∈ placingPasses, name ∉ seededPasses := by decide
    exact hapart name hplacing hname
  | @width m hm hname hargs =>
    refine ⟨?_, ?_, fun _ => ⟨m, hm, by rw [hargs, if_pos rfl]; rfl⟩, ?_, ?_⟩
    · simp [hargs]
    · simp [hargs]
    · simp [hname]
    · simp [hargs, hname, seededPasses]
  | @layout m l hm hl hname hargs =>
    refine ⟨?_, ?_, ?_, fun _ => ⟨l, hl, m, hm, hargs, Settings.layout_isWithin hlayout hm hl⟩, ?_⟩
    · simp [hargs]
    · simp [hargs]
    · simp [hname]
    · simp [hargs, hname, seededPasses]

/-- **Every pass of a pipeline carries the data that were resolved, and these are in range.** -/
theorem generate_isCoherent {backend : Option Descriptor} {target : Option Target}
    {explicit : Overrides} {pipeline : Pipeline}
    (h : (generate n backend target explicit).outcome = .ok pipeline) :
    ∀ p ∈ pipeline.passes, p.IsCoherent (.resolve target backend explicit) := by
  rw [outcome_generate] at h
  obtain ⟨-, hlayout, -⟩ := dispatch_eq_ok h
  intro p hp
  obtain ⟨stage, hstage, hp⟩ := List.mem_flatMap.1 hp
  exact ((makes_of_dispatch h hstage).isSupplied p hp).isCoherent hlayout

/-- A line of three qubits with a layout of two of them, and a seed. -/
def seededLine : Overrides :=
  { couplingMap := some (.linear 3), initialLayout := some (.ofList [(0, 2), (1, 0)]),
    routingMethod := some .sabre, seed := some 7 }

/-- The swaps on the line are inserted along its edges and with its seed. -/
theorem generate_isCoherent_seededLine :
    ∃ pipeline, (generate 1 none none seededLine).outcome = .ok pipeline ∧
      ∃ swap ∈ pipeline.passes, swap.name = "SabreSwap" ∧
        swap.arg? "seed" = some (.number (.integer 7)) ∧
        ∀ v ∈ swap.arg? "coupling_map",
          v = .array ([[0, 1], [1, 0], [1, 2], [2, 1]].map Json.ofNats) := by
  have hrun : (generate 1 none none seededLine).outcome.map (fun p => p.passes.map (·.name)) =
      .ok ["Unroll3qOrMore", "SetLayout", "FullAncillaAllocation", "EnlargeWithAncilla",
        "ApplyLayout", "CheckMap", "BarrierBeforeFinalMeasurements", "SabreSwap",
        "Optimize1qGatesDecomposition", "CXCancellation"] := rfl
  obtain ⟨pipeline, hpipeline, hnames⟩ := map_eq_ok hrun
  have hmem : "SabreSwap" ∈ pipeline.passes.map (·.name) := by
    rw [hnames]
    decide
  obtain ⟨swap, hswap, hname⟩ := List.mem_map.1 hmem
  have hcoherent := generate_isCoherent hpipeline swap hswap
  refine ⟨pipeline, hpipeline, swap, hswap, hname, ?_, ?_⟩
  · rw [hcoherent.seed, hname]
    rfl
  · intro v hv
    obtain ⟨m, hm, rfl, -⟩ := hcoherent.edges v hv
    cases hm
    rfl

end PresetPipeline
