import PresetPipeline.Proofs.Preset.Composition

/-!
# What passes need from earlier ones

A guard reads a property that an earlier pass of the stage has recorded, and so do some passes.

* `Condition.EstablishedBy` — the passes before a guard that record what it reads.
* `Pass.IsFed` — whatever a pass needs was recorded before it. `FedAfter` is the same for a list of
  passes, each after the ones before it.
* `fedAfter_append`, `FedAfter.prepend` — lists may be put together.
* `Settings.Makes.fedAfter` — every stage is fed.
* `Stage.Places` — a stage begins with the choice of a layout and ends with its application.
* `dispatch_isFed` — every stage of a pipeline is fed, and a layout stage places.
-/

set_option autoImplicit false

namespace PresetPipeline

variable {n : Int} {s : Settings} {level : Level} {policy : Policy} {p : Pass} {stage : Stage}
  {m : CouplingMap} {b : BasisGates} {before earlier l l₁ l₂ : List Pass}

/-! ## Needs -/

/-- An analysis of a name that is made in every run. -/
structure Pass.IsAnalysis (p : Pass) (name : String) : Prop where
  name_eq : p.name = name
  kind_eq : p.kind = .analysis
  condition_eq : p.condition = none

/-- An analysis that is made in every run and has the edges of a graph, in order, as its argument. -/
structure Pass.Analyses (p : Pass) (name : String) (m : CouplingMap) : Prop where
  isAnalysis : p.IsAnalysis name
  edges : p.arg? "coupling_map" = some m.listing

/-- The passes before a guard record what it reads. -/
def Condition.EstablishedBy (c : Condition) (m : CouplingMap) (before : List Pass) : Prop :=
  match c with
  | .notMapped => ∃ q ∈ before, q.Analyses "CheckMap" m
  | .directionMismatch => ∃ q ∈ before, q.Analyses "CheckGateDirection" m
  | .layoutUnset => ∃ q ∈ before, q.Analyses "CSPLayout" m
  | .trivialLayoutImperfect =>
    -- the score is one of the layout that is set by then
    ∃ pre q post, before = pre ++ q :: post ∧ q.Analyses "Layout2qDistance" m ∧
      q.arg? "property_name" = some (.string "trivial_layout_score") ∧
      ∃ t ∈ pre, t.Analyses "TrivialLayout" m

/-- The passes that need others before them. -/
def consumers : List String := ["ConsolidateBlocks", "PadDelay", "ConstrainedReschedule"]

/-- What a pass needs was recorded before it. -/
structure Pass.IsFed (s : Settings) (before : List Pass) (p : Pass) : Prop where
  guard : ∀ c ∈ p.condition, ∃ m ∈ s.couplingMap, c.EstablishedBy m before
  blocks : p.name = "ConsolidateBlocks" → ∃ q ∈ before, q.IsAnalysis "Collect2qBlocks"
  times : p.name = "PadDelay" ∨ p.name = "ConstrainedReschedule" →
    ∃ q ∈ before, q.IsAnalysis "ALAPScheduleAnalysis" ∨ q.IsAnalysis "ASAPScheduleAnalysis"

/-- Every pass of a list is fed by those before it, of which some come before the list. -/
def FedAfter (s : Settings) : List Pass → List Pass → Prop
  | _, [] => True
  | before, p :: rest => p.IsFed s before ∧ FedAfter s (before ++ [p]) rest

/-- A pass that needs nothing. -/
structure Pass.IsFree (p : Pass) : Prop where
  condition_eq : p.condition = none
  name_not : p.name ∉ consumers

theorem Pass.IsFree.of_name {name : String} (hcondition : p.condition = none) (hname : p.name = name)
    (h : name ∉ consumers) : p.IsFree :=
  ⟨hcondition, hname ▸ h⟩

theorem exists_mem_prepend {r : Pass → Prop} (h : ∃ q ∈ before, r q) :
    ∃ q ∈ earlier ++ before, r q := by
  obtain ⟨q, hmem, hq⟩ := h
  exact ⟨q, List.mem_append_right _ hmem, hq⟩

theorem Condition.EstablishedBy.prepend {c : Condition} (h : c.EstablishedBy m before) :
    c.EstablishedBy m (earlier ++ before) := by
  cases c with
  | trivialLayoutImperfect =>
    obtain ⟨pre, q, post, rfl, hq, hproperty, t, ht, htrivial⟩ := h
    exact ⟨earlier ++ pre, q, post, by simp, hq, hproperty, exists_mem_prepend ⟨t, ht, htrivial⟩⟩
  | layoutUnset => exact exists_mem_prepend h
  | notMapped => exact exists_mem_prepend h
  | directionMismatch => exact exists_mem_prepend h

namespace Pass.IsFed

/-- More passes before do no harm. -/
theorem prepend (h : p.IsFed s before) : p.IsFed s (earlier ++ before) := by
  constructor
  case guard =>
    intro c hc
    obtain ⟨m, hm, hestablished⟩ := h.guard c hc
    exact ⟨m, hm, hestablished.prepend⟩
  case blocks => exact fun hname => exists_mem_prepend (h.blocks hname)
  case times => exact fun hname => exists_mem_prepend (h.times hname)

/-- Of a pass that consumes nothing only the guard has needs. -/
theorem of_guard (hname : p.name ∉ consumers)
    (hguard : ∀ c ∈ p.condition, ∃ m ∈ s.couplingMap, c.EstablishedBy m before) :
    p.IsFed s before := by
  simp only [consumers, List.mem_cons, List.not_mem_nil, or_false, not_or] at hname
  obtain ⟨hblocks, hpad, hreschedule⟩ := hname
  refine ⟨hguard, fun heq => absurd heq hblocks, ?_⟩
  rintro (heq | heq)
  · exact absurd heq hpad
  · exact absurd heq hreschedule

theorem of_free (h : p.IsFree) : p.IsFed s before := by
  refine of_guard h.name_not ?_
  simp [h.condition_eq]

theorem guardedBy {c : Condition} (h : p.name ∉ consumers) (hm : s.couplingMap = some m)
    (hc : c.EstablishedBy m before) : (p.guardedBy c).IsFed s before := by
  apply of_guard
  · exact h
  · intro c' hc'
    cases hc'
    exact ⟨m, hm, hc⟩

end Pass.IsFed

theorem fedAfter_append :
    FedAfter s before (l₁ ++ l₂) ↔ FedAfter s before l₁ ∧ FedAfter s (before ++ l₁) l₂ := by
  induction l₁ generalizing before with
  | nil => simp [FedAfter]
  | cons p rest ih =>
    simp only [List.cons_append, FedAfter]
    rw [ih, and_assoc, List.append_assoc]
    rfl

theorem FedAfter.prepend (h : FedAfter s before l) : FedAfter s (earlier ++ before) l := by
  induction l generalizing before with
  | nil => trivial
  | cons p rest ih =>
    obtain ⟨hp, hrest⟩ := h
    refine ⟨hp.prepend, ?_⟩
    rw [List.append_assoc]
    exact ih hrest

/-- Lists that need nothing from outside may follow each other. -/
theorem FedAfter.append (h₁ : FedAfter s [] l₁) (h₂ : FedAfter s [] l₂) :
    FedAfter s [] (l₁ ++ l₂) := by
  have h : FedAfter s (l₁ ++ []) l₂ := h₂.prepend
  rw [List.append_nil] at h
  exact fedAfter_append.2 ⟨h₁, h⟩

theorem fedAfter_of_free (h : ∀ p ∈ l, p.IsFree) : FedAfter s before l := by
  induction l generalizing before with
  | nil => trivial
  | cons p rest ih =>
    obtain ⟨hp, hrest⟩ := List.forall_mem_cons.1 h
    exact ⟨.of_free hp, ih hrest⟩

/-- In a list that is fed, every pass is fed by the ones before it. -/
theorem FedAfter.isFed {after : List Pass} (h : FedAfter s [] (before ++ p :: after)) :
    p.IsFed s before := by
  obtain ⟨-, hp, -⟩ := fedAfter_append.1 h
  exact hp

/-! ## Passes that need nothing -/

theorem isFree_analysis {name : String} (h : name ∉ consumers) : (Pass.analysis name).IsFree :=
  ⟨rfl, h⟩

theorem isFree_transformation {name : String} (h : name ∉ consumers) :
    (Pass.transformation name).IsFree :=
  ⟨rfl, h⟩

theorem isFree_synthesisPass {minQubits : Option Nat} : (synthesisPass s b minQubits).IsFree := by
  have hname : (synthesisPass s b minQubits).name = "UnitarySynthesis" := by
    simp [synthesisPass, Pass.withBasis]
  exact .of_name (by simp [synthesisPass, Pass.withBasis]) hname (by decide)

theorem isFree_withBasis? {name : String} {b : Option BasisGates} (h : name ∉ consumers) :
    ((Pass.transformation name).withBasis? b).IsFree :=
  .of_name (by simp [Pass.withBasis?]) (by simp [Pass.withBasis?]) h

theorem analyses_withEdges {name : String} : ((Pass.analysis name).withEdges m).Analyses name m :=
  ⟨⟨rfl, rfl, rfl⟩, by simp [Pass.withEdges, edgesArg_eq]⟩

/-! ## The layout -/

/-- The names of the passes that choose a layout. -/
def layoutChoosers : List String :=
  ["SetLayout", "TrivialLayout", "DenseLayout", "NoiseAdaptiveLayout", "SabreLayout", "CSPLayout"]

/-- A pass that chooses a layout in every run. -/
def Pass.ChoosesLayout (p : Pass) : Prop := ∃ name ∈ layoutChoosers, p.IsAnalysis name

theorem Pass.ChoosesLayout.isFree (h : p.ChoosesLayout) : p.IsFree := by
  obtain ⟨name, hmem, hname, -, hcondition⟩ := h
  have hapart : ∀ name ∈ layoutChoosers, name ∉ consumers := by decide
  exact .of_name hcondition hname (hapart name hmem)

theorem choosesLayout_layoutPass {method : LayoutMethod} (h : layoutPass method s m policy = .ok p) :
    p.ChoosesLayout := by
  obtain rfl | rfl | rfl | rfl := layoutPass_eq_ok h
  · exact ⟨"TrivialLayout", by decide, rfl, rfl, rfl⟩
  · exact ⟨"DenseLayout", by decide, rfl, rfl, rfl⟩
  · exact ⟨"NoiseAdaptiveLayout", by decide, rfl, rfl, rfl⟩
  · refine ⟨"SabreLayout", by decide, ?_⟩
    constructor <;> simp [Pass.withEdges, Pass.withSeed, Pass.withNat]

theorem analyses_perfectSearch (s : Settings) (m : CouplingMap) (callLimit timeLimit : Nat) :
    (((((Pass.analysis "CSPLayout").withEdges m).withNat "call_limit" callLimit).withNat
      "time_limit" timeLimit).withSeed s.seed).Analyses "CSPLayout" m := by
  refine ⟨?_, by simp [Pass.withSeed, Pass.withNat, Pass.withEdges, edgesArg_eq]⟩
  constructor <;> simp [Pass.withEdges, Pass.withSeed, Pass.withNat]

/-- The guarded pass after a probe finds the outcome of the probe. -/
theorem fedAfter_probedLayout {probe : LayoutProbe} {fallback : Pass} (hm : s.couplingMap = some m)
    (h : fallback.ChoosesLayout) : FedAfter s [] (probedLayout probe s m fallback) := by
  have hfree := h.isFree
  cases probe with
  | none => exact ⟨.of_free hfree, trivial⟩
  | trivial =>
    refine ⟨.of_free (.of_name rfl rfl (by decide : "TrivialLayout" ∉ _)),
      .of_free (.of_name rfl rfl (by decide : "Layout2qDistance" ∉ _)),
      .guardedBy hfree.name_not hm ?_, trivial⟩
    refine ⟨[_], _, [], rfl, ⟨⟨rfl, rfl, rfl⟩, ?_⟩, ?_, _, List.mem_singleton_self _,
      analyses_withEdges⟩
    · simp [Pass.withEdges, edgesArg_eq]
    · simp
  | perfectSearch callLimit timeLimit =>
    have hsearch := analyses_perfectSearch s m callLimit timeLimit
    have ⟨hname, _, hcondition⟩ := hsearch.isAnalysis
    refine ⟨.of_free (.of_name hcondition hname (by decide)), .guardedBy hfree.name_not hm ?_, trivial⟩
    exact ⟨_, List.mem_singleton_self _, hsearch⟩

theorem isFree_setLayout {value : Json} :
    ((Pass.analysis "SetLayout").withArg "layout" value).IsFree :=
  .of_name rfl rfl (by decide : "SetLayout" ∉ _)

theorem fedAfter_layoutChoice {choice : List Pass} (hm : s.couplingMap = some m)
    (h : layoutChoice s m policy = .ok choice) : FedAfter s [] choice := by
  obtain ⟨l, -, rfl⟩ | ⟨method, pass, hpass, rfl | rfl⟩ := layoutChoice_eq_ok h
  · exact ⟨.of_free isFree_setLayout, trivial⟩
  · exact ⟨.of_free (choosesLayout_layoutPass hpass).isFree, trivial⟩
  · exact fedAfter_probedLayout hm (choosesLayout_layoutPass hpass)

theorem fedAfter_layoutApplication : FedAfter s before (layoutApplication m) := by
  apply fedAfter_of_free
  simp only [layoutApplication, List.forall_mem_cons]
  exact ⟨.of_name rfl rfl (by decide : "FullAncillaAllocation" ∉ _), isFree_transformation (by decide),
    isFree_transformation (by decide), List.forall_mem_nil _⟩

/-! ## The other stages -/

theorem fedAfter_initStage : FedAfter s [] (initStage level).passes := by
  apply fedAfter_of_free
  intro p hp
  obtain ⟨name, hname, rfl⟩ := mem_initStage hp
  have hapart : ∀ name ∈ initNames, name ∉ consumers := by decide
  exact isFree_transformation (hapart name hname)

/-- The pass of a routing method is guarded, and needs nothing else. -/
theorem isFed_routingPass {method : RoutingMethod} (hm : s.couplingMap = some m)
    (h : Condition.notMapped.EstablishedBy m before) :
    (routingPass method s m policy).IsFed s before := by
  cases method with
  | basic => exact .guardedBy (by decide : "BasicSwap" ∉ _) hm h
  | lookahead => exact .guardedBy (by decide : "LookaheadSwap" ∉ _) hm h
  | stochastic => exact .guardedBy (by simp [Pass.withEdges, Pass.withSeed, Pass.withNat, consumers]) hm h
  | sabre => exact .guardedBy (by simp [Pass.withEdges, Pass.withSeed, consumers]) hm h
  | none => exact .guardedBy (by decide : "RaiseIfUnrouted" ∉ _) hm h

theorem fedAfter_routingPasses {method : RoutingMethod} (hm : s.couplingMap = some m) :
    FedAfter s [] (routingPasses method s m policy) := by
  have hcheck (later : List Pass) :
      Condition.notMapped.EstablishedBy m ([(Pass.analysis "CheckMap").withEdges m] ++ later) :=
    ⟨_, List.mem_append_left _ (List.mem_singleton_self _), analyses_withEdges⟩
  unfold routingPasses
  refine fedAfter_append.2
    ⟨fedAfter_append.2 ⟨⟨?_, trivial⟩, ?_⟩, isFed_routingPass hm (hcheck _), trivial⟩
  · exact .of_free (.of_name rfl rfl (by decide : "CheckMap" ∉ _))
  · split
    · trivial
    · refine ⟨.guardedBy (by decide : "BarrierBeforeFinalMeasurements" ∉ _) hm ?_, trivial⟩
      exact hcheck []

theorem isFed_consolidateBlocks (h : ∃ q ∈ before, q.IsAnalysis "Collect2qBlocks")
    (hname : p.name = "ConsolidateBlocks") (hcondition : p.condition = none) : p.IsFed s before := by
  constructor
  case guard => simp [hcondition]
  case blocks => exact fun _ => h
  case times => simp [hname]

theorem fedAfter_basisPasses {method : TranslationMethod} : FedAfter s [] (basisPasses method s b) := by
  cases method with
  | unroller => exact ⟨.of_free (.of_name rfl rfl (by decide : "Unroller" ∉ _)), trivial⟩
  | translator =>
    exact ⟨.of_free isFree_synthesisPass,
      .of_free (.of_name rfl rfl (by decide : "UnrollCustomDefinitions" ∉ _)),
      .of_free (.of_name rfl rfl (by decide : "BasisTranslator" ∉ _)), trivial⟩
  | synthesis =>
    refine ⟨.of_free isFree_synthesisPass, .of_free (isFree_transformation (by decide)),
      .of_free (isFree_analysis (by decide)), isFed_consolidateBlocks ?_ rfl rfl,
      .of_free isFree_synthesisPass, trivial⟩
    exact ⟨.analysis "Collect2qBlocks", List.mem_append_right _ (List.mem_singleton_self _),
      rfl, rfl, rfl⟩

theorem fedAfter_directionPasses : FedAfter s [] (directionPasses s) := by
  obtain hnil | ⟨m, hm, heq⟩ := directionPasses_cases s
  · rw [hnil]
    trivial
  · rw [heq]
    refine ⟨.of_free (.of_name rfl rfl (by decide : "CheckGateDirection" ∉ _)),
      .guardedBy (by decide : "GateDirection" ∉ _) hm ?_, trivial⟩
    exact ⟨_, List.mem_singleton_self _, analyses_withEdges⟩

theorem fedAfter_pulsePasses : FedAfter s [] (pulsePasses s) := by
  unfold pulsePasses
  split
  · trivial
  · exact ⟨.of_free (.of_name rfl rfl (by decide : "PulseGates" ∉ _)), trivial⟩

theorem fedAfter_resynthesisPasses : FedAfter s [] (resynthesisPasses s) := by
  unfold resynthesisPasses
  refine fedAfter_append.2 ⟨fedAfter_append.2 ⟨⟨?_, ?_, trivial⟩, ?_⟩, ?_⟩
  · exact .of_free (isFree_analysis (by decide))
  · refine isFed_consolidateBlocks ?_ (by simp [Pass.withBasis?]) (by simp [Pass.withBasis?])
    exact ⟨.analysis "Collect2qBlocks", List.mem_singleton_self _, rfl, rfl, rfl⟩
  · apply fedAfter_of_free
    intro p hp
    obtain ⟨b, -, rfl⟩ := Option.map_eq_some_iff.1 (Option.mem_toList.1 hp)
    exact isFree_synthesisPass
  · exact ⟨.of_free (isFree_withBasis? (by decide)), .of_free (isFree_transformation (by decide)),
      trivial⟩

theorem fedAfter_optimizationStage? (h : optimizationStage? level s = some stage) :
    FedAfter s [] stage.passes := by
  cases level with
  | level0 => cases h
  | level1 =>
    cases h
    exact ⟨.of_free (isFree_withBasis? (by decide)), .of_free (isFree_transformation (by decide)),
      trivial⟩
  | level2 =>
    cases h
    exact ⟨.of_free (isFree_withBasis? (by decide)), .of_free (isFree_withBasis? (by decide)), trivial⟩
  | level3 =>
    cases h
    exact fedAfter_resynthesisPasses

theorem isFed_timed
    (h : ∃ q ∈ before, q.IsAnalysis "ALAPScheduleAnalysis" ∨ q.IsAnalysis "ASAPScheduleAnalysis")
    (hname : p.name ≠ "ConsolidateBlocks") (hcondition : p.condition = none) : p.IsFed s before := by
  constructor
  case guard => simp [hcondition]
  case blocks => exact fun heq => absurd heq hname
  case times => exact fun _ => h

theorem isAnalysis_schedulerPass (method : SchedulingMethod) :
    (schedulerPass method).IsAnalysis "ALAPScheduleAnalysis" ∨
      (schedulerPass method).IsAnalysis "ASAPScheduleAnalysis" := by
  cases method with
  | alap => exact .inl ⟨rfl, rfl, rfl⟩
  | asap => exact .inr ⟨rfl, rfl, rfl⟩

theorem fedAfter_timingPasses {method : Option SchedulingMethod} :
    FedAfter s [] (timingPasses method) := by
  cases method with
  | none => trivial
  | some method =>
    refine ⟨?_, isFed_timed ?_ (by decide) rfl, trivial⟩
    · cases method <;> exact .of_free (isFree_analysis (by decide))
    · exact ⟨_, List.mem_singleton_self _, isAnalysis_schedulerPass method⟩

/-- Times are only moved after a scheduler has set them. -/
theorem fedAfter_constraintPasses {method : Option SchedulingMethod}
    {timing : Option TimingConstraints} :
    FedAfter s (earlier ++ timingPasses method) (constraintPasses method timing) := by
  cases timing with
  | none => trivial
  | some t =>
    refine ⟨.of_free (.of_name rfl rfl (by decide : "ValidatePulseGates" ∉ _)), ?_⟩
    cases method with
    | none => trivial
    | some method =>
      refine ⟨isFed_timed ?_ (by decide : "ConstrainedReschedule" ≠ _) rfl, trivial⟩
      refine ⟨schedulerPass method, ?_, isAnalysis_schedulerPass method⟩
      simp [timingPasses]

theorem fedAfter_schedulingPasses {d : Durations} : FedAfter s [] (schedulingPasses s d) := by
  unfold schedulingPasses
  refine fedAfter_append.2 ⟨FedAfter.append ⟨?_, trivial⟩ fedAfter_timingPasses,
    fedAfter_constraintPasses⟩
  exact .of_free (.of_name rfl rfl (by decide : "TimeUnitConversion" ∉ _))

/-- Every stage is fed from within. -/
theorem Settings.Makes.fedAfter (h : s.Makes level stage) : FedAfter s [] stage.passes := by
  cases h with
  | init => exact fedAfter_initStage
  | layout hm hchoice =>
    exact fedAfter_append.2 ⟨fedAfter_layoutChoice hm hchoice, fedAfter_layoutApplication⟩
  | routing hm => exact fedAfter_routingPasses hm
  | translation _ =>
    exact (fedAfter_basisPasses.append fedAfter_directionPasses).append fedAfter_pulsePasses
  | optimization h => exact fedAfter_optimizationStage? h
  | scheduling _ => exact fedAfter_schedulingPasses

/-! ## The shape of a layout stage -/

/-- The names of the passes that carry a chosen layout out. -/
def layoutAppliers : List String := ["FullAncillaAllocation", "EnlargeWithAncilla", "ApplyLayout"]

/-- A stage begins with the choice of a layout and ends with its application. -/
structure Stage.Places (stage : Stage) : Prop where
  starts : ∃ q ∈ stage.passes.head?, q.ChoosesLayout
  ends : layoutAppliers <:+ stage.passes.map (·.name)
  once : ∀ name ∈ layoutAppliers, (stage.passes.map (·.name)).count name = 1

theorem probedLayout_chooses (probe : LayoutProbe) {fallback : Pass} (h : fallback.ChoosesLayout) :
    (∃ q ∈ (probedLayout probe s m fallback).head?, q.ChoosesLayout) ∧
      ∀ q ∈ probedLayout probe s m fallback, q.name ∉ layoutAppliers := by
  have hapart : ∀ name ∈ layoutChoosers, name ∉ layoutAppliers := by decide
  obtain ⟨name, hname, hfallback⟩ := h
  have hnot : fallback.name ∉ layoutAppliers := by
    rw [hfallback.name_eq]
    exact hapart name hname
  cases probe with
  | none =>
    simp only [probedLayout, List.forall_mem_singleton]
    exact ⟨⟨fallback, rfl, name, hname, hfallback⟩, hnot⟩
  | trivial =>
    simp only [probedLayout, List.forall_mem_cons]
    refine ⟨⟨_, rfl, "TrivialLayout", by decide, rfl, rfl, rfl⟩, ?_, ?_, hnot, List.forall_mem_nil _⟩
    · show "TrivialLayout" ∉ layoutAppliers
      decide
    · show "Layout2qDistance" ∉ layoutAppliers
      decide
  | perfectSearch callLimit timeLimit =>
    have hsearch := (analyses_perfectSearch s m callLimit timeLimit).isAnalysis
    simp only [probedLayout, List.forall_mem_cons]
    refine ⟨⟨_, rfl, "CSPLayout", by decide, hsearch⟩, ?_, hnot, List.forall_mem_nil _⟩
    rw [hsearch.name_eq]
    decide

theorem layoutChoice_chooses {choice : List Pass} (h : layoutChoice s m policy = .ok choice) :
    (∃ q ∈ choice.head?, q.ChoosesLayout) ∧ ∀ q ∈ choice, q.name ∉ layoutAppliers := by
  obtain ⟨l, -, rfl⟩ | ⟨method, pass, hpass, rfl | rfl⟩ := layoutChoice_eq_ok h
  · rw [List.forall_mem_singleton]
    exact ⟨⟨_, rfl, "SetLayout", by decide, rfl, rfl, rfl⟩, (by decide : "SetLayout" ∉ _)⟩
  · exact probedLayout_chooses (s := s) (m := m) .none (choosesLayout_layoutPass hpass)
  · exact probedLayout_chooses policy.probe (choosesLayout_layoutPass hpass)

theorem places_of_layoutChoice {choice : List Pass} (h : layoutChoice s m policy = .ok choice) :
    (Stage.once .layout (choice ++ layoutApplication m)).Places := by
  obtain ⟨⟨q, hhead, hq⟩, hnot⟩ := layoutChoice_chooses h
  have hnames : (choice ++ layoutApplication m).map (·.name) = choice.map (·.name) ++ layoutAppliers :=
    List.map_append
  constructor
  case starts =>
    refine ⟨q, ?_, hq⟩
    show (choice ++ layoutApplication m).head? = some q
    rw [List.head?_append, hhead]
    rfl
  case ends =>
    show _ <:+ (choice ++ layoutApplication m).map (·.name)
    rw [hnames]
    exact List.suffix_append _ _
  case once =>
    intro name hname
    show ((choice ++ layoutApplication m).map (·.name)).count name = 1
    have hchoice : name ∉ choice.map (·.name) := by
      intro hmem
      obtain ⟨q, hq, rfl⟩ := List.mem_map.1 hmem
      exact hnot q hq hname
    have happliers : ∀ name ∈ layoutAppliers, layoutAppliers.count name = 1 := by decide
    rw [hnames, List.count_append, List.count_eq_zero.2 hchoice, happliers name hname]

/-- Only the layout stage has its kind. -/
theorem Settings.Makes.places (h : s.Makes level stage) (hkind : stage.kind = .layout) :
    stage.Places := by
  cases h with
  | layout _ hchoice => exact places_of_layoutChoice hchoice
  | init => cases hkind
  | routing _ => cases hkind
  | translation _ => cases hkind
  | optimization hsome => cases level <;> cases hsome <;> cases hkind
  | scheduling _ => cases hkind

/-! ## Pipelines -/

/-- The passes of a stage have what they need. -/
def Stage.IsFed (stage : Stage) (s : Settings) : Prop :=
  ∀ before p after, stage.passes = before ++ p :: after → p.IsFed s before

/-- **Every pass of a pipeline finds what it needs in its stage, and a layout that is chosen is
carried out.** -/
theorem dispatch_isFed {pipeline : Pipeline} (h : (dispatch n s).outcome = .ok pipeline) :
    ∀ stage ∈ pipeline.stages, stage.IsFed s ∧ (stage.kind = .layout → stage.Places) := by
  intro stage hstage
  have hmakes := makes_of_dispatch h hstage
  refine ⟨fun before p after heq => ?_, hmakes.places⟩
  have hfed := hmakes.fedAfter
  rw [heq] at hfed
  exact hfed.isFed

/-- A line of three qubits, with everything else left to the level. -/
def bareLine : Settings := .resolve none none { couplingMap := some (.linear 3) }

/-- At the first level the dense layout of the line is guarded, and the trivial layout has been scored
along the line before. -/
theorem dispatch_isFed_bareLine :
    ∃ pipeline, (dispatch 1 bareLine).outcome = .ok pipeline ∧
      ∃ stage ∈ pipeline.stages, stage.Places ∧ ∃ before p after,
        stage.passes = before ++ p :: after ∧ p.name = "DenseLayout" ∧
          Condition.trivialLayoutImperfect.EstablishedBy (.linear 3) before := by
  obtain ⟨pipeline, hrun⟩ : ∃ pipeline, (dispatch 1 bareLine).outcome = .ok pipeline := ⟨_, rfl⟩
  obtain ⟨stage, hstage, hkind, before, p, after, hpasses, hname, hguard⟩ :
      ∃ stage ∈ pipeline.stages, stage.kind = .layout ∧ ∃ before p after,
        stage.passes = before ++ p :: after ∧ p.name = "DenseLayout" ∧
          p.condition = some .trivialLayoutImperfect := by
    cases hrun
    exact ⟨_, .tail _ (.head _), rfl, [_, _], _, _, rfl, rfl, rfl⟩
  obtain ⟨hfed, hplaces⟩ := dispatch_isFed hrun stage hstage
  obtain ⟨m, hm, hestablished⟩ := (hfed before p after hpasses).guard _ hguard
  cases hm
  exact ⟨pipeline, hrun, stage, hstage, hplaces hkind, before, p, after, hpasses, hname, hestablished⟩

end PresetPipeline
