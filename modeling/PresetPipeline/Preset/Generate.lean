import PresetPipeline.Preset.Event
import PresetPipeline.Preset.Stages

/-!
# Making preset pipelines

* `Level.stages` — the stages of a level, or the first stage that lacks a field.
* `Level.build` — the pipeline of a level, after a check of the initial layout.
* `dispatch` — the pipeline of a number, if the number is a level.
* `generate` — resolves the settings and dispatches the level.
* `Level.outcome_build`, `outcome_dispatch`, `outcome_generate` — the results without the log.
-/

set_option autoImplicit false

namespace PresetPipeline

/-- The stages of a level, in the order of compilation. -/
def Level.stages (level : Level) (s : Settings) : Except CompileError (List Stage) := do
  let policy := level.policy
  let layout ← layoutStage? s policy
  let routing ← routingStage? s policy
  let translation ← translationStage? s policy
  let scheduling ← schedulingStage? s
  .ok ([initStage level] ++ layout.toList ++ routing.toList ++ translation.toList ++
    (optimizationStage? level s).toList ++ scheduling.toList)

/-- The warnings that a level gives of its settings. -/
def Settings.warnings (s : Settings) : List Event :=
  if s.ignoresPluginConfig then [.pluginConfigIgnored] else []

/-- The pipeline of a level. -/
def Level.build (level : Level) (s : Settings) : Run CompileError Pipeline := do
  Run.lift (s.checkLayout.mapError .invalidLayout)
  Run.emit s.warnings
  let stages ← Run.lift (level.stages s)
  let pipeline : Pipeline := ⟨level, stages⟩
  Run.emit [.built level pipeline.stages.length pipeline.passes.length]
  Run.done pipeline

/-- The level of a number, or the error that it is none. -/
def Level.check (n : Int) : Except CompileError Level :=
  match Level.ofInt? n with
  | some level => .ok level
  | none => .error (.invalidLevel n)

/-- The pipeline of the level that a number stands for. -/
def dispatch (n : Int) (s : Settings) : Run CompileError Pipeline := do
  Run.emit [.dispatching n]
  let level ← Run.lift (Level.check n)
  let pipeline ← level.build s
  Run.emit [.dispatched level pipeline.stageKinds]
  Run.done pipeline

theorem Level.outcome_build (level : Level) (s : Settings) :
    (level.build s).outcome =
      (s.checkLayout.mapError .invalidLayout).bind fun _ =>
        (level.stages s).bind fun stages => .ok ⟨level, stages⟩ := by
  unfold Level.build
  simp only [Run.outcome_bind, Run.outcome_lift, Run.outcome_emit, Run.outcome_done, Except.bind]

theorem outcome_dispatch (n : Int) (s : Settings) :
    (dispatch n s).outcome = (Level.check n).bind fun level => (level.build s).outcome := by
  unfold dispatch
  simp only [Run.outcome_bind, Run.outcome_lift, Run.outcome_emit, Run.outcome_done, Except.bind]
  cases Level.check n with
  | error e => rfl
  | ok level =>
    show ((level.build s).outcome.bind fun pipeline => .ok pipeline) = (level.build s).outcome
    cases (level.build s).outcome with
    | error e => rfl
    | ok pipeline => rfl

/-- Resolves settings and logs the source of every derived field. -/
def resolveLogged (target : Option Target) (backend : Option Descriptor) (explicit : Overrides) :
    Run CompileError Settings := do
  let settings := Settings.resolve target backend explicit
  Run.emit [.resolving (target.map (·.name)) (backend.map (·.name))]
  Run.emit (settings.provenance.pairs.map fun (field, source) => .resolved field source)
  Run.done settings

/-- The pipeline of a level for a device and overrides. -/
def generate (n : Int) (backend : Option Descriptor) (target : Option Target)
    (explicit : Overrides) : Run CompileError Pipeline := do
  Run.emit [.generating n]
  let settings ← resolveLogged target backend explicit
  dispatch n settings

theorem outcome_generate (n : Int) (backend : Option Descriptor) (target : Option Target)
    (explicit : Overrides) :
    (generate n backend target explicit).outcome =
      (dispatch n (Settings.resolve target backend explicit)).outcome := by
  unfold generate resolveLogged
  simp only [Run.outcome_bind, Run.outcome_emit, Run.outcome_done, Except.bind]

end PresetPipeline
