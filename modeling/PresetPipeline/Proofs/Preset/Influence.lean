import PresetPipeline.Proofs.Preset.DeviceData

/-!
# Settings without influence

Which changes of the overrides cannot be seen in the pipeline, or only in one argument.

* `Pass.withoutSeed`, `Pipeline.withoutSeeds` — the seed argument is taken out of every pass.
* `Pass.SameButSeed` — two passes agree on everything else. Every way to put a pass together keeps
  this.
* `stageOf_reseeded` — stage by stage, a change of the seed cannot be seen without the seeds.
* `generate_reseeded` — nor can it in a run, whose pipeline without the seeds is the one of the
  overrides without a seed.
* `stageOf_resynthesized` — the settings of the synthesis are seen through the synthesis passes only.
  `stageOf_placed` — the layout method is not seen where a layout is given.
* `generate_superseded` — settings that are superseded by others have no influence on the outcome.
-/

set_option autoImplicit false

namespace PresetPipeline

variable {n : Int} {s : Settings} {level : Level} {policy : Policy} {m : CouplingMap}
  {b : BasisGates} {kind : StageKind} {seed : Option UInt64}

/-! ## Passes without their seeds -/

def Pass.withoutSeed (p : Pass) : Pass := { p with args := p.args.erase "seed" }

def Stage.withoutSeeds (stage : Stage) : Stage :=
  { stage with passes := stage.passes.map Pass.withoutSeed }

/-- The pipeline with the seed argument taken out of every pass. -/
def Pipeline.withoutSeeds (p : Pipeline) : Pipeline := p.mapStages Stage.withoutSeeds

/-- The passes agree on everything but the seed argument. -/
structure Pass.SameButSeed (p q : Pass) : Prop where
  name : p.name = q.name
  kind : p.kind = q.kind
  condition : p.condition = q.condition
  args : ∀ key, key ≠ "seed" → p.arg? key = q.arg? key

namespace Pass

variable {p q : Pass}

@[simp] theorem arg?_withoutSeed {key : String} :
    p.withoutSeed.arg? key = if key = "seed" then none else p.arg? key :=
  SortedMap.find?_erase p.args "seed" key

theorem withoutSeed_eq_iff : p.withoutSeed = q.withoutSeed ↔ p.SameButSeed q := by
  constructor
  · intro h
    obtain ⟨hname, hkind, hcondition, -⟩ := (Pass.mk.injEq ..).mp h
    refine ⟨hname, hkind, hcondition, fun key hkey => ?_⟩
    have harg : p.withoutSeed.arg? key = q.withoutSeed.arg? key := by rw [h]
    rwa [arg?_withoutSeed, arg?_withoutSeed, if_neg hkey, if_neg hkey] at harg
  · rintro ⟨hname, hkind, hcondition, hargs⟩
    refine (Pass.mk.injEq ..).mpr ⟨hname, hkind, hcondition, SortedMap.ext_find? fun key => ?_⟩
    rw [SortedMap.find?_erase, SortedMap.find?_erase]
    split
    · rfl
    · rename_i hkey
      exact hargs key hkey

theorem withoutSeed_of_unseeded (h : p.arg? "seed" = none) : p.withoutSeed = p := by
  have hargs : p.args.erase "seed" = p.args := by
    apply SortedMap.ext_find?
    intro key
    rw [SortedMap.find?_erase]
    split
    · rename_i hkey
      rw [hkey]
      exact h.symm
    · rfl
  unfold withoutSeed
  rw [hargs]

namespace SameButSeed

theorem withArg (h : p.SameButSeed q) (key : String) (value : Json) :
    (p.withArg key value).SameButSeed (q.withArg key value) := by
  refine ⟨h.name, h.kind, h.condition, fun key' hkey' => ?_⟩
  rw [arg?_withArg, arg?_withArg, h.args key' hkey']

theorem withEdges (h : p.SameButSeed q) (m : CouplingMap) :
    (p.withEdges m).SameButSeed (q.withEdges m) :=
  h.withArg _ _

theorem guardedBy (h : p.SameButSeed q) (c : Condition) :
    (p.guardedBy c).SameButSeed (q.guardedBy c) :=
  ⟨h.name, h.kind, rfl, h.args⟩

/-- Seeds may differ. -/
theorem withSeed (p : Pass) (seed seed' : Option UInt64) :
    (p.withSeed seed).SameButSeed (p.withSeed seed') := by
  refine ⟨?_, ?_, ?_, fun key hkey => ?_⟩
  · rw [Pass.withSeed, Pass.withSeed, name_withArg?, name_withArg?]
  · rw [Pass.withSeed, Pass.withSeed, kind_withArg?, kind_withArg?]
  · rw [Pass.withSeed, Pass.withSeed, condition_withArg?, condition_withArg?]
  · rw [Pass.withSeed, Pass.withSeed, arg?_withArg?, arg?_withArg?, if_neg hkey, if_neg hkey]

end SameButSeed

end Pass

/-! ## Another seed -/

theorem layoutPass_reseeded (method : LayoutMethod) :
    (layoutPass method { s with seed := seed } m policy).map Pass.withoutSeed =
      (layoutPass method s m policy).map Pass.withoutSeed := by
  cases method with
  | trivial => rfl
  | dense => rfl
  | noiseAdaptive => rfl
  | sabre =>
    refine congrArg Except.ok (Pass.withoutSeed_eq_iff.2 ?_)
    exact (Pass.SameButSeed.withSeed _ _ _).withEdges m

theorem probedLayout_reseeded {probe : LayoutProbe} {fallback fallback' : Pass}
    (h : fallback.withoutSeed = fallback'.withoutSeed) :
    (probedLayout probe { s with seed := seed } m fallback).map Pass.withoutSeed =
      (probedLayout probe s m fallback').map Pass.withoutSeed := by
  have hguarded : ∀ c, (fallback.guardedBy c).withoutSeed = (fallback'.guardedBy c).withoutSeed :=
    fun c => Pass.withoutSeed_eq_iff.2 ((Pass.withoutSeed_eq_iff.1 h).guardedBy c)
  cases probe with
  | none => simp only [probedLayout, List.map_cons, h]
  | trivial => simp only [probedLayout, List.map_cons, hguarded]
  | perfectSearch callLimit timeLimit =>
    simp only [probedLayout, List.map_cons, hguarded]
    rw [Pass.withoutSeed_eq_iff.2 (Pass.SameButSeed.withSeed _ seed s.seed)]

theorem layoutChoice_reseeded :
    (layoutChoice { s with seed := seed } m policy).map (·.map Pass.withoutSeed) =
      (layoutChoice s m policy).map (·.map Pass.withoutSeed) := by
  simp only [layoutChoice]
  split
  · rfl
  · rename_i method _ _
    refine map_map_congr (layoutPass_reseeded method) fun p p' hp => ?_
    simp only [List.map_cons, hp]
  · exact map_map_congr (layoutPass_reseeded policy.layout) fun p p' hp => probedLayout_reseeded hp

theorem layoutStage?_reseeded :
    (layoutStage? { s with seed := seed } policy).map (·.map Stage.withoutSeeds) =
      (layoutStage? s policy).map (·.map Stage.withoutSeeds) := by
  simp only [layoutStage?]
  split
  · rename_i m _
    refine map_map_congr layoutChoice_reseeded fun choice choice' hchoice => ?_
    simp only [Option.map_some, Stage.withoutSeeds, Stage.once, List.map_append, hchoice]
  · rfl

theorem routingPass_reseeded (method : RoutingMethod) :
    (routingPass method { s with seed := seed } m policy).withoutSeed =
      (routingPass method s m policy).withoutSeed := by
  cases method with
  | basic => rfl
  | lookahead => rfl
  | none => rfl
  | stochastic =>
    exact Pass.withoutSeed_eq_iff.2
      (((Pass.SameButSeed.withSeed _ _ _).withEdges m).guardedBy .notMapped)
  | sabre =>
    exact Pass.withoutSeed_eq_iff.2
      (((Pass.SameButSeed.withSeed _ _ _).withEdges m).guardedBy .notMapped)

theorem routingStage?_reseeded :
    (routingStage? { s with seed := seed } policy).map (·.map Stage.withoutSeeds) =
      (routingStage? s policy).map (·.map Stage.withoutSeeds) := by
  simp only [routingStage?]
  split
  · rename_i m _
    refine congrArg Except.ok (congrArg some ?_)
    simp only [Stage.withoutSeeds, Stage.once, routingPasses, List.map_append, List.map_cons,
      routingPass_reseeded]
  · rfl

/-- Only the layout and the routing draw random numbers. -/
theorem stageOf_reseeded (level : Level) (kind : StageKind) :
    (level.stageOf { s with seed := seed } kind).map (·.map Stage.withoutSeeds) =
      (level.stageOf s kind).map (·.map Stage.withoutSeeds) := by
  cases kind with
  | layout => exact layoutStage?_reseeded
  | routing => exact routingStage?_reseeded
  | init => rfl
  | translation => rfl
  | optimization => rfl
  | scheduling => rfl

/-- Without a seed in the settings there is none in the pipeline. -/
theorem dispatch_unseeded (h : s.seed = none) :
    (dispatch n s).outcome.map Pipeline.withoutSeeds = (dispatch n s).outcome := by
  cases hrun : (dispatch n s).outcome with
  | error e => rfl
  | ok p =>
    have hlayout := (dispatch_eq_ok hrun).2.1
    have hpass : ∀ stage ∈ p.stages, ∀ pass ∈ stage.passes, pass.withoutSeed = pass := by
      intro stage hstage pass hpass
      have hseed := (((makes_of_dispatch hrun hstage).isSupplied pass hpass).isCoherent hlayout).seed
      apply Pass.withoutSeed_of_unseeded
      rw [hseed, Settings.seedArg?, h, Option.map_none, ite_self]
    have hstage : ∀ stage ∈ p.stages, stage.withoutSeeds = stage := by
      intro stage hstage
      rw [Stage.withoutSeeds, List.map_congr_left (hpass stage hstage), List.map_id']
    refine congrArg Except.ok ?_
    rw [Pipeline.withoutSeeds, Pipeline.mapStages, List.map_congr_left hstage, List.map_id']

theorem dispatch_reseeded :
    (dispatch n { s with seed := seed }).outcome.map Pipeline.withoutSeeds =
      (dispatch n s).outcome.map Pipeline.withoutSeeds :=
  dispatch_map_congr (fun _ => rfl) fun level => Level.stages_map_congr (stageOf_reseeded level)

/-- **The seed only seeds.** With another seed a run fails with the same error, or its pipeline is the
same without the seeds; and without a seed it is this pipeline. -/
theorem generate_reseeded (n : Int) (b : Option Descriptor) (t : Option Target) (e : Overrides)
    (seed : Option UInt64) :
    (generate n b t { e with seed := seed }).outcome.map Pipeline.withoutSeeds =
        (generate n b t e).outcome.map Pipeline.withoutSeeds ∧
      (generate n b t { e with seed := none }).outcome =
        (generate n b t e).outcome.map Pipeline.withoutSeeds := by
  rw [outcome_generate, outcome_generate, outcome_generate]
  have hview : ∀ seed, (dispatch n (.resolve t b { e with seed := seed })).outcome.map
      Pipeline.withoutSeeds = (dispatch n (.resolve t b e)).outcome.map Pipeline.withoutSeeds :=
    fun _ => dispatch_reseeded (s := .resolve t b e)
  refine ⟨hview seed, ?_⟩
  rw [← hview none]
  exact (dispatch_unseeded rfl).symm

/-! ## Another synthesis -/

/-- The settings with everything replaced that the synthesis of unitaries is told. -/
def Settings.resynthesized (s : Settings) (synthesisMethod : SynthesisMethod)
    (pluginConfig : Option PluginConfig) (degree : Option Degree) : Settings :=
  { s with synthesisMethod, pluginConfig, degree }

section Resynthesized

variable {method : SynthesisMethod} {plugin : Option PluginConfig} {degree : Option Degree}

@[simp] theorem basisGates_resynthesized :
    (s.resynthesized method plugin degree).basisGates = s.basisGates := rfl

theorem basisPasses_resynthesized (translation : TranslationMethod)
    (h : ∀ minQubits, synthesisPass (s.resynthesized method plugin degree) b minQubits =
      synthesisPass s b minQubits) :
    basisPasses translation (s.resynthesized method plugin degree) b =
      basisPasses translation s b := by
  cases translation with
  | unroller => rfl
  | translator => simp only [basisPasses, h]
  | synthesis => simp only [basisPasses, h]

/-- What the synthesis is told is seen through the synthesis passes only, and these need a basis. -/
theorem stageOf_resynthesized (level : Level)
    (h : ∀ b ∈ s.basisGates, ∀ minQubits,
      synthesisPass (s.resynthesized method plugin degree) b minQubits = synthesisPass s b minQubits)
    (kind : StageKind) :
    level.stageOf (s.resynthesized method plugin degree) kind = level.stageOf s kind := by
  cases kind with
  | init => rfl
  | layout => rfl
  | routing => rfl
  | scheduling => rfl
  | translation =>
    show translationStage? _ _ = translationStage? _ _
    simp only [translationStage?, basisGates_resynthesized]
    split
    · rename_i b hb
      rw [basisPasses_resynthesized _ (h b hb)]
      rfl
    · rfl
  | optimization =>
    refine congrArg Except.ok ?_
    cases level with
    | level0 => rfl
    | level1 => rfl
    | level2 => rfl
    | level3 =>
      have hsynthesis :
          s.basisGates.map (synthesisPass (s.resynthesized method plugin degree) · none) =
            s.basisGates.map (synthesisPass s · none) :=
        Option.map_congr fun b hb => h b hb none
      simp only [optimizationStage?, resynthesisPasses, basisGates_resynthesized, hsynthesis]
      rfl

theorem dispatch_resynthesized
    (h : ∀ b ∈ s.basisGates, ∀ minQubits,
      synthesisPass (s.resynthesized method plugin degree) b minQubits =
        synthesisPass s b minQubits) :
    (dispatch n (s.resynthesized method plugin degree)).outcome = (dispatch n s).outcome :=
  dispatch_eq_of_stages (fun _ => rfl) fun level =>
    Level.stages_eq_of_stageOf (stageOf_resynthesized level h)

/-- A configuration does not reach the built-in method. -/
theorem dispatch_reconfigured (h : s.synthesisMethod.isBuiltin = true) :
    (dispatch n { s with pluginConfig := plugin }).outcome = (dispatch n s).outcome := by
  refine dispatch_resynthesized fun b _ minQubits => ?_
  have hplugin : (s.resynthesized s.synthesisMethod plugin s.degree).activePlugin? =
      s.activePlugin? :=
    (if_pos h).trans (if_pos h).symm
  unfold synthesisPass
  rw [hplugin]
  rfl

/-- Without a basis there is no synthesis. -/
theorem dispatch_resynthesized_of_unbased (h : s.basisGates = none) :
    (dispatch n (s.resynthesized method plugin degree)).outcome = (dispatch n s).outcome := by
  refine dispatch_resynthesized fun b hb => ?_
  rw [h] at hb
  cases hb

end Resynthesized

/-! ## Another layout method -/

/-- Where a layout is given there is nothing to choose. -/
theorem stageOf_placed {method : Option LayoutMethod} (hlayout : s.initialLayout ≠ none)
    (hgraph : s.couplingMap ≠ none) (level : Level) (kind : StageKind) :
    level.stageOf { s with layoutMethod := method } kind = level.stageOf s kind := by
  cases kind with
  | layout =>
    obtain ⟨l, hl⟩ := Option.ne_none_iff_exists'.1 hlayout
    obtain ⟨m, hm⟩ := Option.ne_none_iff_exists'.1 hgraph
    simp only [Level.stageOf, layoutStage?, layoutChoice, hl, hm]
  | init => rfl
  | routing => rfl
  | translation => rfl
  | optimization => rfl
  | scheduling => rfl

theorem dispatch_placed {method : Option LayoutMethod} (hlayout : s.initialLayout ≠ none)
    (hgraph : s.couplingMap ≠ none) :
    (dispatch n { s with layoutMethod := method }).outcome = (dispatch n s).outcome :=
  dispatch_eq_of_stages (fun _ => rfl) fun level =>
    Level.stages_eq_of_stageOf (stageOf_placed hlayout hgraph level)

/-! ## Superseded settings -/

/-- **What is superseded has no influence.** A configuration is not seen with the built-in synthesis,
nor a layout method where a layout is given on a graph, nor anything that the synthesis is told
without a basis: the run has the same pipeline, or the same error. -/
theorem generate_superseded (n : Int) (b : Option Descriptor) (t : Option Target) (e : Overrides) :
    (e.synthesisMethod = none ∨ e.synthesisMethod = some .builtin → ∀ plugin,
        (generate n b t { e with pluginConfig := plugin }).outcome = (generate n b t e).outcome) ∧
      (e.initialLayout ≠ none → (Settings.resolve t b e).couplingMap ≠ none → ∀ method,
        (generate n b t { e with layoutMethod := method }).outcome = (generate n b t e).outcome) ∧
      ((Settings.resolve t b e).basisGates = none → ∀ method plugin degree,
        (generate n b t
            { e with synthesisMethod := method, pluginConfig := plugin, degree := degree }).outcome =
          (generate n b t e).outcome) := by
  simp only [outcome_generate]
  refine ⟨fun hmethod plugin => ?_, fun hlayout hgraph method => ?_,
    fun hbasis method plugin degree => ?_⟩
  · refine dispatch_reconfigured (s := .resolve t b e) ?_
    obtain h | h := hmethod <;> rw [Settings.resolve, h] <;> rfl
  · exact dispatch_placed (s := .resolve t b e) hlayout hgraph
  · exact dispatch_resynthesized_of_unbased (s := .resolve t b e) hbasis

/-- A line with a layout, and perhaps with a basis. -/
def Overrides.placedLine (basisGates : Option BasisGates) : Overrides :=
  { couplingMap := some (.linear 3), initialLayout := some (.ofList [(0, 2), (1, 0)]), basisGates }

/-- On the line, a configuration of the built-in synthesis makes no difference, nor does ranking by
errors, for which properties would be needed. Without a basis, a synthesis plugin makes none. -/
theorem generate_superseded_placedLine :
    (∃ p, (generate 3 none none (.placedLine (some .ibm))).outcome = .ok p ∧
      (generate 3 none none
        { Overrides.placedLine (some .ibm) with pluginConfig := some .empty }).outcome = .ok p ∧
      (generate 3 none none
        { Overrides.placedLine (some .ibm) with
          layoutMethod := some .noiseAdaptive }).outcome = .ok p) ∧
      ∃ p, (generate 3 none none (.placedLine none)).outcome = .ok p ∧
        (generate 3 none none
          { Overrides.placedLine none with
            synthesisMethod := some (.plugin "aqc"), pluginConfig := some .empty }).outcome =
          .ok p := by
  have hbased : ∀ h, ¬Hindrance.Stands 3 (.resolve none none (.placedLine (some .ibm))) h := by
    intro h
    cases h <;> decide
  have hunbased : ∀ h, ¬Hindrance.Stands 3 (.resolve none none (.placedLine none)) h := by
    intro h
    cases h <;> decide
  obtain ⟨p, hp⟩ := exists_dispatch_iff.2 hbased
  obtain ⟨p', hp'⟩ := exists_dispatch_iff.2 hunbased
  rw [← outcome_generate] at hp hp'
  obtain ⟨hconfig, hmethod, -⟩ := generate_superseded 3 none none (.placedLine (some .ibm))
  obtain ⟨-, -, hsynthesis⟩ := generate_superseded 3 none none (.placedLine none)
  have hlayout : (Overrides.placedLine (some .ibm)).initialLayout ≠ none := Option.some_ne_none _
  have hgraph : (Settings.resolve none none (.placedLine (some .ibm))).couplingMap ≠ none :=
    Option.some_ne_none _
  exact ⟨⟨p, hp, (hconfig (.inl rfl) _).trans hp, (hmethod hlayout hgraph _).trans hp⟩,
    p', hp', (hsynthesis rfl _ _ _).trans hp'⟩

end PresetPipeline
