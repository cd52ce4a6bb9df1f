import PresetPipeline.Preset.Generate

/-!
# What a pipeline is composed of

A pipeline that is made, in terms of its parts.

* `CouplingMap.listing`, `Layout.listing`, `BasisGates.listing` — edges, placements and names as they stand
  in arguments. `edgesArg_eq`, `layoutArg_eq`, `basisArg_eq` — the stages write them so.
* `dispatch_eq_ok` — a pipeline is made of the stages of its level, once the layout was checked.
* `layoutStage?_eq_ok`, `routingStage?_eq_ok`, `translationStage?_eq_ok`, `schedulingStage?_eq_ok` —
  a stage is absent, or it has what it needs.
* `mem_initStage`, `layoutPass_eq_ok`, `layoutChoice_eq_ok`, `directionPasses_cases` — the passes that
  depend on a choice.
* `Settings.Makes` — the stages that settings make at a level. `makes_of_dispatch` — a pipeline has
  no others.
* `Level.stageOf` — the stage of one kind. `stageOf_of_dispatch` — a pipeline has it.
* `dispatch_map_congr` — settings whose stages agree up to a view have pipelines that do.
-/

set_option autoImplicit false

namespace PresetPipeline

variable {n : Int} {s s' : Settings} {level : Level} {policy : Policy} {p : Pipeline} {stage : Stage}
  {kind kind' : StageKind}

/-! ## Arguments -/

/-- The edges in order, each a list of its control and its target. -/
def CouplingMap.listing (m : CouplingMap) : Json :=
  .array (m.edges.toList.map fun e =>
    .array [.number (.integer e.control.toNat), .number (.integer e.target.toNat)])

/-- The placements by virtual qubit, each a list of its virtual and its physical qubit. -/
def Layout.listing (l : Layout) : Json :=
  .array (l.pairs.map fun e => .array [.number (.integer e.1.toNat), .number (.integer e.2.toNat)])

/-- The names in order. -/
def BasisGates.listing (b : BasisGates) : Json := .array (b.toList.map .string)

theorem edgesArg_eq (m : CouplingMap) : edgesArg m = m.listing := rfl

theorem layoutArg_eq (l : Layout) : layoutArg l = l.listing := rfl

theorem basisArg_eq (b : BasisGates) : basisArg b = b.listing := rfl

/-! ## Results -/

section Except

variable {ε α β : Type} {x : Except ε α} {b : β}

theorem bind_eq_ok {f : α → Except ε β} (h : x.bind f = .ok b) : ∃ a, x = .ok a ∧ f a = .ok b := by
  cases x with
  | error e => cases h
  | ok a => exact ⟨a, rfl, h⟩

theorem map_eq_ok {f : α → β} (h : x.map f = .ok b) : ∃ a, x = .ok a ∧ f a = b := by
  cases x with
  | error e => cases h
  | ok a =>
    cases h
    exact ⟨a, rfl, rfl⟩

theorem mapError_eq_ok {ε' : Type} {f : ε → ε'} {a : α} (h : x.mapError f = .ok a) : x = .ok a := by
  cases x with
  | error e => cases h
  | ok a' =>
    cases h
    rfl

/-- What a view does not tell apart leads to results that a view of these does not tell apart. -/
theorem bind_map_congr {γ δ : Type} {x' : Except ε α} {f f' : α → Except ε β} {g : α → γ} {g' : β → δ}
    (hx : x.map g = x'.map g) (hf : ∀ a a', g a = g a' → (f a).map g' = (f' a').map g') :
    (x.bind f).map g' = (x'.bind f').map g' := by
  cases x with
  | error e =>
    cases x' with
    | error e' =>
      cases hx
      rfl
    | ok a' => cases hx
  | ok a =>
    cases x' with
    | error e' => cases hx
    | ok a' => exact hf a a' (Except.ok.inj hx)

theorem map_map_congr {γ δ : Type} {x' : Except ε α} {f f' : α → β} {g : α → γ} {g' : β → δ}
    (hx : x.map g = x'.map g) (hf : ∀ a a', g a = g a' → g' (f a) = g' (f' a')) :
    (x.map f).map g' = (x'.map f').map g' :=
  bind_map_congr hx fun a a' ha => congrArg Except.ok (hf a a' ha)

end Except

/-! ## The parts of a pipeline -/

theorem Level.check_eq_ok (h : Level.check n = .ok level) : Int.ofNat level.toNat = n := by
  unfold Level.check at h
  split at h
  · rename_i level' hlevel
    cases h
    simpa using List.find?_some hlevel
  · cases h

/-- A pipeline is made of the stages of its level, once the layout was checked. -/
theorem dispatch_eq_ok (h : (dispatch n s).outcome = .ok p) :
    Int.ofNat p.level.toNat = n ∧ s.checkLayout = .ok () ∧ p.level.stages s = .ok p.stages := by
  rw [outcome_dispatch] at h
  obtain ⟨level, hlevel, h⟩ := bind_eq_ok h
  rw [Level.outcome_build] at h
  obtain ⟨_, hlayout, h⟩ := bind_eq_ok h
  obtain ⟨stages, hstages, h⟩ := bind_eq_ok h
  cases h
  exact ⟨Level.check_eq_ok hlevel, mapError_eq_ok hlayout, hstages⟩

theorem Level.stages_eq_ok {stages : List Stage} (h : level.stages s = .ok stages) :
    ∃ layout routing translation scheduling, layoutStage? s level.policy = .ok layout ∧
      routingStage? s level.policy = .ok routing ∧
      translationStage? s level.policy = .ok translation ∧ schedulingStage? s = .ok scheduling ∧
      stages = [initStage level] ++ layout.toList ++ routing.toList ++ translation.toList ++
        (optimizationStage? level s).toList ++ scheduling.toList := by
  unfold Level.stages at h
  obtain ⟨layout, hlayout, h⟩ := bind_eq_ok h
  obtain ⟨routing, hrouting, h⟩ := bind_eq_ok h
  obtain ⟨translation, htranslation, h⟩ := bind_eq_ok h
  obtain ⟨scheduling, hscheduling, h⟩ := bind_eq_ok h
  cases h
  exact ⟨layout, routing, translation, scheduling, hlayout, hrouting, htranslation, hscheduling, rfl⟩

/-! ## The stages -/

theorem layoutStage?_eq_ok {o : Option Stage} (h : layoutStage? s policy = .ok o) :
    (s.couplingMap = none ∧ o = none) ∨
      ∃ m choice, s.couplingMap = some m ∧ layoutChoice s m policy = .ok choice ∧
        o = some (.once .layout (choice ++ layoutApplication m)) := by
  unfold layoutStage? at h
  split at h
  · rename_i m hm
    obtain ⟨choice, hchoice, rfl⟩ := map_eq_ok h
    exact .inr ⟨m, choice, hm, hchoice, rfl⟩
  · rename_i hm
    split at h
    · cases h
    · cases h
    · cases h
      exact .inl ⟨hm, rfl⟩

theorem routingStage?_eq_ok {o : Option Stage} (h : routingStage? s policy = .ok o) :
    (s.couplingMap = none ∧ o = none) ∨
      ∃ m, s.couplingMap = some m ∧ o = some (.once .routing
        (routingPasses (s.routingMethod.getD policy.routing) s m policy)) := by
  unfold routingStage? at h
  split at h
  · rename_i m hm
    cases h
    exact .inr ⟨m, hm, rfl⟩
  · rename_i hm
    split at h
    · cases h
      exact .inl ⟨hm, rfl⟩
    · cases h
      exact .inl ⟨hm, rfl⟩
    · cases h

theorem translationStage?_eq_ok {o : Option Stage} (h : translationStage? s policy = .ok o) :
    (s.basisGates = none ∧ o = none) ∨
      ∃ b, s.basisGates = some b ∧ o = some (.once .translation
        (basisPasses (s.translationMethod.getD policy.translation) s b ++ directionPasses s ++
          pulsePasses s)) := by
  unfold translationStage? at h
  split at h
  · rename_i b hb
    cases h
    exact .inr ⟨b, hb, rfl⟩
  · rename_i hb
    split at h
    · cases h
    · cases h
      exact .inl ⟨hb, rfl⟩

theorem schedulingStage?_eq_ok {o : Option Stage} (h : schedulingStage? s = .ok o) :
    ((s.schedulingMethod.isNone && !s.hasCalibrations) = true ∧ o = none) ∨
      ((s.schedulingMethod.isNone && !s.hasCalibrations) = false ∧
        ∃ d, s.durations = some d ∧ o = some (.once .scheduling (schedulingPasses s d))) := by
  unfold schedulingStage? at h
  split at h
  · rename_i hidle
    cases h
    exact .inl ⟨hidle, rfl⟩
  · rename_i hbusy
    split at h
    · rename_i d hd
      cases h
      exact .inr ⟨by simpa using hbusy, d, hd, rfl⟩
    · cases h
    · cases h

/-! ## The passes -/

/-- The names of the passes that some level has in its first stage. -/
def initNames : List String :=
  ["Unroll3qOrMore", "RemoveResetInZeroState", "OptimizeSwapBeforeMeasure",
    "RemoveDiagonalGatesBeforeMeasure"]

theorem mem_initStage {pass : Pass} (h : pass ∈ (initStage level).passes) :
    ∃ name ∈ initNames, pass = .transformation name := by
  rcases List.mem_cons.1 h with rfl | h
  · exact ⟨_, List.mem_cons_self, rfl⟩
  · cases level with
    | level3 =>
      simp only [Level.initPasses, List.mem_cons, List.not_mem_nil, or_false] at h
      obtain rfl | rfl | rfl := h
      · exact ⟨_, by decide, rfl⟩
      · exact ⟨_, by decide, rfl⟩
      · exact ⟨_, by decide, rfl⟩
    | level0 => cases h
    | level1 => cases h
    | level2 => cases h

/-- A layout pass works along the edges of the graph. Only one of the four draws random numbers. -/
theorem layoutPass_eq_ok {method : LayoutMethod} {m : CouplingMap} {pass : Pass}
    (h : layoutPass method s m policy = .ok pass) :
    pass = (Pass.analysis "TrivialLayout").withEdges m ∨
      pass = ((Pass.analysis "DenseLayout").withArg "use_error_rates"
        (.bool s.properties.isSome)).withEdges m ∨
      pass = (Pass.analysis "NoiseAdaptiveLayout").withEdges m ∨
      pass = (((Pass.analysis "SabreLayout").withNat "max_iterations"
        policy.sabreLayoutIterations).withSeed s.seed).withEdges m := by
  cases method with
  | trivial =>
    cases h
    exact .inl rfl
  | dense =>
    cases h
    exact .inr (.inl rfl)
  | noiseAdaptive =>
    simp only [layoutPass] at h
    split at h
    · cases h
    · cases h
      exact .inr (.inr (.inl rfl))
  | sabre =>
    cases h
    exact .inr (.inr (.inr rfl))

/-- The layout is the one that is given, or a pass chooses it, perhaps after a probe. -/
theorem layoutChoice_eq_ok {choice : List Pass} {m : CouplingMap}
    (h : layoutChoice s m policy = .ok choice) :
    (∃ l, s.initialLayout = some l ∧
        choice = [(Pass.analysis "SetLayout").withArg "layout" (layoutArg l)]) ∨
      ∃ method pass, layoutPass method s m policy = .ok pass ∧
        (choice = [pass] ∨ choice = probedLayout policy.probe s m pass) := by
  unfold layoutChoice at h
  split at h
  · rename_i l hl
    cases h
    exact .inl ⟨l, hl, rfl⟩
  · rename_i method _ _
    obtain ⟨pass, hpass, rfl⟩ := map_eq_ok h
    exact .inr ⟨method, pass, hpass, .inl rfl⟩
  · obtain ⟨pass, hpass, rfl⟩ := map_eq_ok h
    exact .inr ⟨policy.layout, pass, hpass, .inr rfl⟩

/-- Gates are turned around along the edges of the settings, or not at all. -/
theorem directionPasses_cases (s : Settings) :
    directionPasses s = [] ∨ ∃ m, s.couplingMap = some m ∧
      directionPasses s = [(Pass.analysis "CheckGateDirection").withEdges m,
        ((Pass.transformation "GateDirection").withEdges m).guardedBy .directionMismatch] := by
  unfold directionPasses
  split
  · exact .inl rfl
  · rename_i m hm
    exact .inr ⟨m, (Option.filter_eq_some_iff.1 hm).1, rfl⟩

/-! ## The stages of a pipeline -/

/-- The stages that settings make at a level. -/
inductive Settings.Makes (s : Settings) (level : Level) : Stage → Prop where
  | init : Makes s level (initStage level)
  | layout {m : CouplingMap} {choice : List Pass} : s.couplingMap = some m →
      layoutChoice s m level.policy = .ok choice →
      Makes s level (.once .layout (choice ++ layoutApplication m))
  | routing {m : CouplingMap} : s.couplingMap = some m →
      Makes s level (.once .routing
        (routingPasses (s.routingMethod.getD level.policy.routing) s m level.policy))
  | translation {b : BasisGates} : s.basisGates = some b →
      Makes s level (.once .translation
        (basisPasses (s.translationMethod.getD level.policy.translation) s b ++ directionPasses s ++
          pulsePasses s))
  | optimization {stage : Stage} : optimizationStage? level s = some stage → Makes s level stage
  | scheduling {d : Durations} : s.durations = some d →
      Makes s level (.once .scheduling (schedulingPasses s d))

/-- Every stage of a pipeline is one that the settings make. -/
theorem makes_of_dispatch (h : (dispatch n s).outcome = .ok p) (hstage : stage ∈ p.stages) :
    s.Makes p.level stage := by
  obtain ⟨-, -, hstages⟩ := dispatch_eq_ok h
  obtain ⟨layout, routing, translation, scheduling, hlayout, hrouting, htranslation, hscheduling,
    heq⟩ := Level.stages_eq_ok hstages
  rw [heq] at hstage
  simp only [List.mem_append, List.mem_singleton, Option.mem_toList] at hstage
  obtain ((((hinit | hmem) | hmem) | hmem) | hmem) | hmem := hstage
  · rw [hinit]
    exact .init
  · obtain ⟨-, rfl⟩ | ⟨m, choice, hm, hchoice, rfl⟩ := layoutStage?_eq_ok hlayout
    · cases hmem
    · cases hmem
      exact .layout hm hchoice
  · obtain ⟨-, rfl⟩ | ⟨m, hm, rfl⟩ := routingStage?_eq_ok hrouting
    · cases hmem
    · cases hmem
      exact .routing hm
  · obtain ⟨-, rfl⟩ | ⟨b, hb, rfl⟩ := translationStage?_eq_ok htranslation
    · cases hmem
    · cases hmem
      exact .translation hb
  · exact .optimization hmem
  · obtain ⟨-, rfl⟩ | ⟨-, d, hd, rfl⟩ := schedulingStage?_eq_ok hscheduling
    · cases hmem
    · cases hmem
      exact .scheduling hd

/-! ## The stages by kind -/

/-- The stage of a kind that settings have at a level, if there is one. -/
def Level.stageOf (level : Level) (s : Settings) : StageKind → Except CompileError (Option Stage)
  | .init => .ok (some (initStage level))
  | .layout => layoutStage? s level.policy
  | .routing => routingStage? s level.policy
  | .translation => translationStage? s level.policy
  | .optimization => .ok (optimizationStage? level s)
  | .scheduling => schedulingStage? s

theorem Level.kind_of_stageOf {o : Option Stage} (h : level.stageOf s kind = .ok o)
    (hstage : stage ∈ o) : stage.kind = kind := by
  cases kind with
  | init =>
    cases h
    cases hstage
    rfl
  | layout =>
    obtain ⟨-, rfl⟩ | ⟨m, choice, -, -, rfl⟩ := layoutStage?_eq_ok h <;> cases hstage
    rfl
  | routing =>
    obtain ⟨-, rfl⟩ | ⟨m, -, rfl⟩ := routingStage?_eq_ok h <;> cases hstage
    rfl
  | translation =>
    obtain ⟨-, rfl⟩ | ⟨b, -, rfl⟩ := translationStage?_eq_ok h <;> cases hstage
    rfl
  | optimization => cases level <;> cases h <;> cases hstage <;> rfl
  | scheduling =>
    obtain ⟨-, rfl⟩ | ⟨-, d, -, rfl⟩ := schedulingStage?_eq_ok h <;> cases hstage
    rfl

theorem Level.find?_stageOf {o : Option Stage} (h : level.stageOf s kind = .ok o) :
    o.toList.find? (·.kind == kind') = if kind = kind' then o else none := by
  cases o with
  | none => simp
  | some stage => simp [Level.kind_of_stageOf h rfl, List.find?_singleton]

/-- Of every kind a pipeline has the stage that its level makes of the settings. -/
theorem stageOf_of_dispatch (h : (dispatch n s).outcome = .ok p) (kind : StageKind) :
    p.level.stageOf s kind = .ok (p.stage? kind) := by
  obtain ⟨-, -, hstages⟩ := dispatch_eq_ok h
  obtain ⟨layout, routing, translation, scheduling, hlayout, hrouting, htranslation, hscheduling,
    heq⟩ := Level.stages_eq_ok hstages
  change p.level.stageOf s .layout = _ at hlayout
  change p.level.stageOf s .routing = _ at hrouting
  change p.level.stageOf s .translation = _ at htranslation
  change p.level.stageOf s .scheduling = _ at hscheduling
  have hinit : p.level.stageOf s .init = .ok (some (initStage p.level)) := rfl
  have hoptimization : p.level.stageOf s .optimization = .ok (optimizationStage? p.level s) := rfl
  rw [Pipeline.stage?, heq, ← Option.toList_some]
  -- only the part of the kind that is looked for can answer
  simp only [List.find?_append, Level.find?_stageOf hinit, Level.find?_stageOf hlayout,
    Level.find?_stageOf hrouting, Level.find?_stageOf htranslation,
    Level.find?_stageOf hoptimization, Level.find?_stageOf hscheduling]
  cases kind with
  | init => exact hinit
  | layout => simpa using hlayout
  | routing => simpa using hrouting
  | translation => simpa using htranslation
  | optimization => simpa using hoptimization
  | scheduling => simpa using hscheduling

/-! ## Two runs -/

/-- A pipeline with a function applied to each stage. -/
def Pipeline.mapStages (f : Stage → Stage) (p : Pipeline) : Pipeline :=
  { p with stages := p.stages.map f }

/-- The stages of a level agree up to a view if those of each kind do. -/
theorem Level.stages_map_congr {f : Stage → Stage}
    (h : ∀ kind, (level.stageOf s kind).map (·.map f) = (level.stageOf s' kind).map (·.map f)) :
    (level.stages s).map (·.map f) = (level.stages s').map (·.map f) := by
  unfold Level.stages
  refine bind_map_congr (h .layout) fun layout layout' hlayout => ?_
  refine bind_map_congr (h .routing) fun routing routing' hrouting => ?_
  refine bind_map_congr (h .translation) fun translation translation' htranslation => ?_
  refine bind_map_congr (h .scheduling) fun scheduling scheduling' hscheduling => ?_
  have hoptimization := Except.ok.inj (h .optimization)
  refine congrArg Except.ok ?_
  simp only [List.map_append, ← Option.toList_map, hlayout, hrouting, htranslation, hscheduling,
    hoptimization]

theorem Level.stages_eq_of_stageOf (h : ∀ kind, level.stageOf s kind = level.stageOf s' kind) :
    level.stages s = level.stages s' := by
  have hview : (level.stages s).map (·.map id) = (level.stages s').map (·.map id) :=
    Level.stages_map_congr fun kind => by rw [h kind]
  have hid : ∀ stages : Except CompileError (List Stage), stages.map (·.map id) = stages := by
    intro stages
    cases stages <;> simp [Except.map]
  rwa [hid, hid] at hview

/-- So do the pipelines, if the layouts are checked alike. -/
theorem dispatch_map_congr {f : Stage → Stage}
    (hcheck : 0 ≤ n ∧ n ≤ 3 → s.checkLayout = s'.checkLayout)
    (hstages : ∀ level : Level, (level.stages s).map (·.map f) = (level.stages s').map (·.map f)) :
    (dispatch n s).outcome.map (·.mapStages f) = (dispatch n s').outcome.map (·.mapStages f) := by
  rw [outcome_dispatch, outcome_dispatch]
  cases hlevel : Level.check n with
  | error e => rfl
  | ok level =>
    have hn : 0 ≤ n ∧ n ≤ 3 := by
      rw [← Level.check_eq_ok hlevel, ← Level.ofInt?_isSome_iff, Level.ofInt?_toNat]
      rfl
    show (level.build s).outcome.map _ = (level.build s').outcome.map _
    rw [Level.outcome_build, Level.outcome_build, hcheck hn]
    refine bind_map_congr (g := id) rfl fun _ _ _ => ?_
    refine bind_map_congr (hstages level) fun stages stages' h => ?_
    exact congrArg (fun stages => Except.ok (Pipeline.mk level stages)) h

/-- Settings with the same stages have the same outcome if their layouts are checked alike. -/
theorem dispatch_eq_of_stages (hcheck : 0 ≤ n ∧ n ≤ 3 → s.checkLayout = s'.checkLayout)
    (hstages : ∀ level : Level, level.stages s = level.stages s') :
    (dispatch n s).outcome = (dispatch n s').outcome := by
  have hview := dispatch_map_congr (f := id) hcheck fun level => by rw [hstages level]
  have hid : ∀ outcome : Except CompileError Pipeline, outcome.map (·.mapStages id) = outcome := by
    intro outcome
    cases outcome <;> simp [Except.map, Pipeline.mapStages]
  rwa [hid, hid] at hview

end PresetPipeline
