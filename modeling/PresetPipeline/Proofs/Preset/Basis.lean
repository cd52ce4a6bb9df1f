import PresetPipeline.Proofs.Preset.Composition

/-!
# The basis in a pipeline

Which passes know the gates that a circuit may be written in.

* `rewritingPasses` — the names of the passes that write gates of the basis.
* `Level.Tells` — the passes that are told the basis at a level: all that rewrite, but for the
  cancellation of the highest level.
* `Pass.IsTold` — a pass carries the basis of the settings if it is told, and else none.
* `Pass.IsSilent` — a pass that has nothing to do with the basis. Every way to put such a pass
  together keeps this.
* `Settings.Makes.isTold` — the stages have no other passes.
* `dispatch_isTold` — the passes of a pipeline are told the basis, up to the cancellation of the
  highest level. `dispatch_cancellation_untold`: this one is told at the level below.
-/

set_option autoImplicit false

namespace PresetPipeline

variable {n : Int} {s : Settings} {level : Level} {policy : Policy} {p : Pass} {stage : Stage}
  {m : CouplingMap} {b : BasisGates} {name key : String}

/-- The names of the passes that write gates of the basis. -/
def rewritingPasses : List String :=
  ["Unroller", "UnrollCustomDefinitions", "BasisTranslator", "UnitarySynthesis", "ConsolidateBlocks",
    "Optimize1qGatesDecomposition", "CommutativeCancellation"]

/-- Whether the passes of a name are told the basis at a level. -/
def Level.Tells (level : Level) (name : String) : Prop :=
  name ∈ rewritingPasses ∧ (level = .level3 → name ≠ "CommutativeCancellation")

instance (level : Level) (name : String) : Decidable (level.Tells name) :=
  inferInstanceAs (Decidable (_ ∧ _))

/-- A pass carries the names of the basis of the settings if it is told, and else none. -/
def Pass.IsTold (p : Pass) (level : Level) (s : Settings) : Prop :=
  p.arg? "basis_gates" = if level.Tells p.name then s.basisGates.map BasisGates.listing else none

/-- The basis of settings as the stages write it. -/
theorem map_basisArg (b : Option BasisGates) : b.map basisArg = b.map BasisGates.listing := rfl

/-! ## Passes that do not rewrite -/

/-- A pass that does not rewrite and has no basis. -/
structure Pass.IsSilent (p : Pass) : Prop where
  name_not : p.name ∉ rewritingPasses
  basis_eq : p.arg? "basis_gates" = none

namespace Pass.IsSilent

theorem analysis (h : name ∉ rewritingPasses) : (Pass.analysis name).IsSilent := ⟨h, rfl⟩

theorem transformation (h : name ∉ rewritingPasses) : (Pass.transformation name).IsSilent := ⟨h, rfl⟩

theorem guardedBy (h : p.IsSilent) (c : Condition) : (p.guardedBy c).IsSilent :=
  ⟨h.name_not, h.basis_eq⟩

theorem withArg (h : p.IsSilent) (value : Json) (hkey : key ≠ "basis_gates") :
    (p.withArg key value).IsSilent := by
  refine ⟨h.name_not, ?_⟩
  rw [arg?_withArg, if_neg (Ne.symm hkey)]
  exact h.basis_eq

theorem withNat (h : p.IsSilent) (n : Nat) (hkey : key ≠ "basis_gates") : (p.withNat key n).IsSilent :=
  h.withArg (.ofNat n) hkey

theorem withEdges (h : p.IsSilent) (m : CouplingMap) : (p.withEdges m).IsSilent :=
  h.withArg (edgesArg m) (by decide)

theorem withSeed (h : p.IsSilent) (seed : Option UInt64) : (p.withSeed seed).IsSilent := by
  cases seed with
  | none => exact h
  | some n => exact h.withArg (.ofNat n.toNat) (by decide)

theorem isTold (h : p.IsSilent) : p.IsTold level s := by
  rw [IsTold, if_neg fun htells => h.name_not htells.1]
  exact h.basis_eq

end Pass.IsSilent

theorem isSilent_initStage : ∀ p ∈ (initStage level).passes, p.IsSilent := by
  intro p hp
  obtain ⟨name, hname, rfl⟩ := mem_initStage hp
  have hapart : ∀ name ∈ initNames, name ∉ rewritingPasses := by decide
  exact .transformation (hapart name hname)

theorem isSilent_layoutPass {method : LayoutMethod} (h : layoutPass method s m policy = .ok p) :
    p.IsSilent := by
  obtain rfl | rfl | rfl | rfl := layoutPass_eq_ok h
  · exact (Pass.IsSilent.analysis (by decide)).withEdges m
  · exact ((Pass.IsSilent.analysis (by decide)).withArg _ (by decide)).withEdges m
  · exact (Pass.IsSilent.analysis (by decide)).withEdges m
  · exact (((Pass.IsSilent.analysis (by decide)).withNat _ (by decide)).withSeed _).withEdges m

theorem isSilent_probedLayout {probe : LayoutProbe} {fallback : Pass} (h : fallback.IsSilent) :
    ∀ p ∈ probedLayout probe s m fallback, p.IsSilent := by
  cases probe with
  | none =>
    simp only [probedLayout, List.forall_mem_singleton]
    exact h
  | trivial =>
    simp only [probedLayout, List.forall_mem_cons]
    refine ⟨?_, ?_, h.guardedBy _, List.forall_mem_nil _⟩
    · exact (Pass.IsSilent.analysis (by decide)).withEdges m
    · exact ((Pass.IsSilent.analysis (by decide)).withEdges m).withArg _ (by decide)
  | perfectSearch callLimit timeLimit =>
    simp only [probedLayout, List.forall_mem_cons]
    refine ⟨?_, h.guardedBy _, List.forall_mem_nil _⟩
    exact ((((Pass.IsSilent.analysis (by decide)).withEdges m).withNat _ (by decide)).withNat _
      (by decide)).withSeed _

theorem isSilent_layoutChoice {choice : List Pass} (h : layoutChoice s m policy = .ok choice) :
    ∀ p ∈ choice, p.IsSilent := by
  obtain ⟨l, -, rfl⟩ | ⟨method, pass, hpass, rfl | rfl⟩ := layoutChoice_eq_ok h
  · simp only [List.forall_mem_singleton]
    exact (Pass.IsSilent.analysis (by decide)).withArg _ (by decide)
  · simp only [List.forall_mem_singleton]
    exact isSilent_layoutPass hpass
  · exact isSilent_probedLayout (isSilent_layoutPass hpass)

theorem isSilent_layoutApplication : ∀ p ∈ layoutApplication m, p.IsSilent := by
  simp only [layoutApplication, List.forall_mem_cons]
  exact ⟨(Pass.IsSilent.analysis (by decide)).withNat _ (by decide), .transformation (by decide),
    .transformation (by decide), List.forall_mem_nil _⟩

theorem isSilent_routingPass {method : RoutingMethod} : (routingPass method s m policy).IsSilent := by
  cases method with
  | basic => exact ((Pass.IsSilent.transformation (by decide)).withEdges m).guardedBy _
  | lookahead =>
    exact ((((Pass.IsSilent.transformation (by decide)).withNat _ (by decide)).withNat _
      (by decide)).withEdges m).guardedBy _
  | stochastic =>
    exact ((((Pass.IsSilent.transformation (by decide)).withNat _ (by decide)).withSeed _).withEdges
      m).guardedBy _
  | sabre =>
    exact ((((Pass.IsSilent.transformation (by decide)).withArg _ (by decide)).withSeed _).withEdges
      m).guardedBy _
  | none => exact ((Pass.IsSilent.analysis (by decide)).withArg _ (by decide)).guardedBy _

theorem isSilent_routingPasses {method : RoutingMethod} :
    ∀ p ∈ routingPasses method s m policy, p.IsSilent := by
  simp only [routingPasses, List.forall_mem_append, List.forall_mem_singleton]
  refine ⟨⟨(Pass.IsSilent.analysis (by decide)).withEdges m, ?_⟩, isSilent_routingPass⟩
  split
  · exact List.forall_mem_nil _
  · rw [List.forall_mem_singleton]
    exact (Pass.IsSilent.transformation (by decide)).guardedBy _

theorem isSilent_directionPasses : ∀ p ∈ directionPasses s, p.IsSilent := by
  obtain hnil | ⟨m, -, heq⟩ := directionPasses_cases s
  · rw [hnil]
    exact List.forall_mem_nil _
  · simp only [heq, List.forall_mem_cons]
    exact ⟨(Pass.IsSilent.analysis (by decide)).withEdges m,
      ((Pass.IsSilent.transformation (by decide)).withEdges m).guardedBy _, List.forall_mem_nil _⟩

theorem isSilent_pulsePasses : ∀ p ∈ pulsePasses s, p.IsSilent := by
  unfold pulsePasses
  split
  · exact List.forall_mem_nil _
  · rw [List.forall_mem_singleton]
    exact (Pass.IsSilent.transformation (by decide)).withArg _ (by decide)

theorem isSilent_timingPasses {method : Option SchedulingMethod} :
    ∀ p ∈ timingPasses method, p.IsSilent := by
  cases method with
  | none => exact List.forall_mem_nil _
  | some method =>
    simp only [timingPasses, List.forall_mem_cons]
    refine ⟨?_, .transformation (by decide), List.forall_mem_nil _⟩
    cases method <;> exact .analysis (by decide)

theorem isSilent_constraintPasses {method : Option SchedulingMethod}
    {timing : Option TimingConstraints} : ∀ p ∈ constraintPasses method timing, p.IsSilent := by
  cases timing with
  | none => exact List.forall_mem_nil _
  | some t =>
    simp only [constraintPasses, List.forall_mem_append, List.forall_mem_singleton]
    constructor
    · exact ((Pass.IsSilent.analysis (by decide)).withNat _ (by decide)).withNat _ (by decide)
    · split
      · rw [List.forall_mem_singleton]
        exact ((Pass.IsSilent.transformation (by decide)).withNat _ (by decide)).withNat _ (by decide)
      · exact List.forall_mem_nil _

theorem isSilent_schedulingPasses {d : Durations} : ∀ p ∈ schedulingPasses s d, p.IsSilent := by
  simp only [schedulingPasses, List.forall_mem_append, List.forall_mem_singleton]
  refine ⟨⟨?_, isSilent_timingPasses⟩, isSilent_constraintPasses⟩
  exact (Pass.IsSilent.transformation (by decide)).withArg _ (by decide)

/-! ## Passes that rewrite -/

/-- Only the cancellation is told at some levels and not at others. -/
theorem Level.tells_of_ne (level : Level) (h : name ∈ rewritingPasses)
    (hne : name ≠ "CommutativeCancellation") : level.Tells name :=
  ⟨h, fun _ => hne⟩

theorem isTold_withBasis (hb : s.basisGates = some b) (h : level.Tells name) :
    ((Pass.transformation name).withBasis b).IsTold level s := by
  have hname : ((Pass.transformation name).withBasis b).name = name := rfl
  rw [Pass.IsTold, hname, if_pos h, hb]
  simp [Pass.withBasis, basisArg_eq]

theorem isTold_withBasis? (h : level.Tells name) :
    ((Pass.transformation name).withBasis? s.basisGates).IsTold level s := by
  have hname : ((Pass.transformation name).withBasis? s.basisGates).name = name := by
    simp [Pass.withBasis?]
  rw [Pass.IsTold, hname, if_pos h]
  simp [Pass.withBasis?, map_basisArg]

theorem isTold_synthesisPass (hb : s.basisGates = some b) (minQubits : Option Nat) :
    (synthesisPass s b minQubits).IsTold level s := by
  have hname : (synthesisPass s b minQubits).name = "UnitarySynthesis" := by
    simp [synthesisPass, Pass.withBasis]
  rw [Pass.IsTold, hname, if_pos (level.tells_of_ne (by decide) (by decide)), hb]
  simp [synthesisPass, Pass.withBasis, basisArg_eq]

theorem isTold_singleQubitPass : (singleQubitPass s).IsTold level s :=
  isTold_withBasis? (level.tells_of_ne (by decide) (by decide))

theorem isTold_basisPasses {method : TranslationMethod} (hb : s.basisGates = some b) :
    ∀ p ∈ basisPasses method s b, p.IsTold level s := by
  cases method with
  | unroller =>
    simp only [basisPasses, List.forall_mem_singleton]
    exact isTold_withBasis hb (level.tells_of_ne (by decide) (by decide))
  | translator =>
    simp only [basisPasses, List.forall_mem_cons]
    refine ⟨isTold_synthesisPass hb _, ?_, ?_, List.forall_mem_nil _⟩
    · exact isTold_withBasis hb (level.tells_of_ne (by decide) (by decide))
    · exact isTold_withBasis hb (level.tells_of_ne (by decide) (by decide))
  | synthesis =>
    simp only [basisPasses, List.forall_mem_cons]
    refine ⟨isTold_synthesisPass hb _, ?_, ?_, ?_, isTold_synthesisPass hb _, List.forall_mem_nil _⟩
    · exact (Pass.IsSilent.transformation (by decide)).isTold
    · exact (Pass.IsSilent.analysis (by decide)).isTold
    · exact isTold_withBasis hb (level.tells_of_ne (by decide) (by decide))

/-- The loop of the highest level cancels without the basis. -/
theorem isTold_resynthesisPasses : ∀ p ∈ resynthesisPasses s, p.IsTold .level3 s := by
  simp only [resynthesisPasses, List.forall_mem_append, List.forall_mem_cons]
  refine ⟨⟨⟨(Pass.IsSilent.analysis (by decide)).isTold, ?_, List.forall_mem_nil _⟩, ?_⟩,
    isTold_singleQubitPass, ?_, List.forall_mem_nil _⟩
  · exact isTold_withBasis? (Level.level3.tells_of_ne (by decide) (by decide))
  · intro p hp
    obtain ⟨b, hb, rfl⟩ := Option.map_eq_some_iff.1 (Option.mem_toList.1 hp)
    exact isTold_synthesisPass hb _
  · have huntold : ¬Level.level3.Tells "CommutativeCancellation" := by decide
    exact (if_neg huntold).symm

theorem isTold_optimizationStage? (h : optimizationStage? level s = some stage) :
    ∀ p ∈ stage.passes, p.IsTold level s := by
  cases level with
  | level0 => cases h
  | level1 =>
    cases h
    simp only [Stage.once, Stage.repeatedUntil, List.forall_mem_cons]
    exact ⟨isTold_singleQubitPass, (Pass.IsSilent.transformation (by decide)).isTold,
      List.forall_mem_nil _⟩
  | level2 =>
    cases h
    simp only [Stage.once, Stage.repeatedUntil, List.forall_mem_cons]
    exact ⟨isTold_singleQubitPass, isTold_withBasis? (by decide), List.forall_mem_nil _⟩
  | level3 =>
    cases h
    exact isTold_resynthesisPasses

/-! ## Pipelines -/

/-- Every pass of every stage is told what it has to know, and nothing else. -/
theorem Settings.Makes.isTold (h : s.Makes level stage) : ∀ p ∈ stage.passes, p.IsTold level s := by
  cases h with
  | init => exact fun p hp => (isSilent_initStage p hp).isTold
  | layout _ hchoice =>
    simp only [Stage.once, List.forall_mem_append]
    exact ⟨fun p hp => (isSilent_layoutChoice hchoice p hp).isTold,
      fun p hp => (isSilent_layoutApplication p hp).isTold⟩
  | routing _ => exact fun p hp => (isSilent_routingPasses p hp).isTold
  | translation hb =>
    simp only [Stage.once, List.forall_mem_append]
    exact ⟨⟨isTold_basisPasses hb, fun p hp => (isSilent_directionPasses p hp).isTold⟩,
      fun p hp => (isSilent_pulsePasses p hp).isTold⟩
  | optimization h => exact isTold_optimizationStage? h
  | scheduling _ => exact fun p hp => (isSilent_schedulingPasses p hp).isTold

/-- **Exactly the passes that rewrite into the basis are told it, but for the cancellation of the
highest level.** -/
theorem dispatch_isTold {pipeline : Pipeline} (h : (dispatch n s).outcome = .ok pipeline) :
    ∀ p ∈ pipeline.passes, p.IsTold pipeline.level s := by
  intro p hp
  obtain ⟨stage, hstage, hp⟩ := List.mem_flatMap.1 hp
  exact (makes_of_dispatch h hstage).isTold p hp

/-- Settings with a basis and nothing else. -/
def basisOnly : Settings := .resolve none none { basisGates := some .ibm }

/-- The loop of the highest level consolidates blocks into the basis. -/
theorem dispatch_isTold_basisOnly :
    ∃ pipeline, (dispatch 3 basisOnly).outcome = .ok pipeline ∧
      ∃ p ∈ pipeline.passes, p.name = "ConsolidateBlocks" ∧
        p.arg? "basis_gates" = some (BasisGates.listing .ibm) := by
  have hrun : (dispatch 3 basisOnly).outcome.map (fun p => (p.level, p.passes.map (·.name))) =
      .ok (.level3, ["Unroll3qOrMore", "RemoveResetInZeroState", "OptimizeSwapBeforeMeasure",
        "RemoveDiagonalGatesBeforeMeasure", "UnitarySynthesis", "UnrollCustomDefinitions",
        "BasisTranslator", "Collect2qBlocks", "ConsolidateBlocks", "UnitarySynthesis",
        "Optimize1qGatesDecomposition", "CommutativeCancellation"]) := rfl
  obtain ⟨pipeline, hpipeline, heq⟩ := map_eq_ok hrun
  obtain ⟨hlevel, hnames⟩ := Prod.mk.inj heq
  have hmem : "ConsolidateBlocks" ∈ pipeline.passes.map (·.name) := by
    rw [hnames]
    decide
  obtain ⟨p, hp, hname⟩ := List.mem_map.1 hmem
  have htold := dispatch_isTold hpipeline p hp
  rw [Pass.IsTold, hlevel, hname] at htold
  exact ⟨pipeline, hpipeline, p, hp, hname, htold⟩

/-! ## The cancellation -/

/-- The optimization of a level is a stage of its pipelines. -/
theorem mem_passes_of_optimizationStage? {pipeline : Pipeline} (h : (dispatch n s).outcome = .ok pipeline)
    (hstage : optimizationStage? pipeline.level s = some stage) (hp : p ∈ stage.passes) :
    p ∈ pipeline.passes := by
  obtain ⟨-, -, hstages⟩ := dispatch_eq_ok h
  obtain ⟨_, _, _, _, -, -, -, -, heq⟩ := Level.stages_eq_ok hstages
  refine List.mem_flatMap.2 ⟨stage, ?_, hp⟩
  rw [heq]
  exact List.mem_append_left _ (List.mem_append_right _ (Option.mem_toList.2 hstage))

theorem level_eq_of_dispatch {pipeline : Pipeline} (h : (dispatch n s).outcome = .ok pipeline)
    (hn : Int.ofNat level.toNat = n) : pipeline.level = level := by
  obtain ⟨hlevel, -⟩ := dispatch_eq_ok h
  have hsome := Level.ofInt?_toNat pipeline.level
  rw [hlevel, ← hn, Level.ofInt?_toNat] at hsome
  exact (Option.some.inj hsome).symm

/-- The level below the highest tells the cancellation what it knows of the basis. -/
theorem cancellation_told {pipeline : Pipeline} (h : (dispatch 2 s).outcome = .ok pipeline) :
    ∃ p ∈ pipeline.passes, p.name = "CommutativeCancellation" ∧
      p.arg? "basis_gates" = s.basisGates.map BasisGates.listing := by
  have hlevel : pipeline.level = .level2 := level_eq_of_dispatch h rfl
  refine ⟨(Pass.transformation "CommutativeCancellation").withBasis? s.basisGates, ?_, ?_, ?_⟩
  · refine mem_passes_of_optimizationStage? h (by rw [hlevel]; rfl) ?_
    exact List.mem_cons_of_mem _ List.mem_cons_self
  · simp [Pass.withBasis?]
  · simp [Pass.withBasis?, map_basisArg]

/-- The highest level tells it nothing. -/
theorem cancellation_untold {pipeline : Pipeline} (h : (dispatch 3 s).outcome = .ok pipeline) :
    ∃ p ∈ pipeline.passes, p.name = "CommutativeCancellation" ∧ p.arg? "basis_gates" = none := by
  have hlevel : pipeline.level = .level3 := level_eq_of_dispatch h rfl
  refine ⟨.transformation "CommutativeCancellation", ?_, rfl, rfl⟩
  refine mem_passes_of_optimizationStage? h (by rw [hlevel]; rfl) ?_
  exact List.mem_append_right _ (List.mem_cons_of_mem _ List.mem_cons_self)

/-- With the same basis, the cancellation is told it at one level and not at the next. -/
theorem dispatch_cancellation_untold :
    basisOnly.basisGates = some .ibm ∧
      (∃ pipeline, (dispatch 2 basisOnly).outcome = .ok pipeline ∧
        ∃ p ∈ pipeline.passes, p.name = "CommutativeCancellation" ∧
          p.arg? "basis_gates" = some (BasisGates.listing .ibm)) ∧
      ∃ pipeline, (dispatch 3 basisOnly).outcome = .ok pipeline ∧
        ∃ p ∈ pipeline.passes, p.name = "CommutativeCancellation" ∧
          p.arg? "basis_gates" = none := by
  obtain ⟨lower, hlower⟩ : ∃ pipeline, (dispatch 2 basisOnly).outcome = .ok pipeline := ⟨_, rfl⟩
  obtain ⟨higher, hhigher⟩ : ∃ pipeline, (dispatch 3 basisOnly).outcome = .ok pipeline := ⟨_, rfl⟩
  exact ⟨rfl, ⟨lower, hlower, cancellation_told hlower⟩, higher, hhigher, cancellation_untold hhigher⟩

end PresetPipeline
