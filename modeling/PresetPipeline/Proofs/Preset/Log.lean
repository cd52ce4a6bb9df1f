import PresetPipeline.Proofs.Preset.Composition

/-!
# The log of a generation

What a run has logged when it ends, with a pipeline or with an error.

* `Run.followed` — what a result is followed by. `Run.events_bind` — the log of two steps in a row.
* `Settings.WarnsAt` — the plugin configuration is ignored, and the run comes to know it.
* `Pipeline.announcement` — what is logged of a pipeline that is made.
* `Level.events_build`, `events_dispatch`, `events_generate` — the log of each part of a run.
* `Event.tells`, `Event.ClaimsPipeline` — the entries that tell of something, and those that tell of a
  pipeline. `exists_claimsPipeline_iff` — there is one of the latter exactly if there is a pipeline.
* `generate_log` — the log of a run, as it is written.
-/

set_option autoImplicit false

namespace PresetPipeline

/-! ## Steps in a row -/

namespace Run

variable {ε α β : Type}

/-- What a result is followed by. Nothing follows an error. -/
def followed {γ : Type} (outcome : Except ε α) (next : α → List γ) : List γ :=
  match outcome with
  | .ok a => next a
  | .error _ => []

variable {γ δ : Type} {next : α → List γ}

@[simp] theorem followed_ok (a : α) : followed (.ok a : Except ε α) next = next a := rfl

@[simp] theorem followed_error (e : ε) : followed (.error e : Except ε α) next = [] := rfl

theorem followed_bind (outcome : Except ε α) (f : α → Except ε β) (next : β → List γ) :
    followed (outcome.bind f) next = followed outcome fun a => followed (f a) next := by
  cases outcome <;> rfl

theorem map_followed (f : γ → δ) (outcome : Except ε α) :
    (followed outcome next).map f = followed outcome fun a => (next a).map f := by
  cases outcome <;> rfl

theorem mem_followed {outcome : Except ε α} {c : γ} :
    c ∈ followed outcome next ↔ ∃ a, outcome = .ok a ∧ c ∈ next a := by
  cases outcome <;> simp

theorem events_bind (r : Run ε α) (f : α → Run ε β) :
    (r >>= f).events = r.events ++ followed r.outcome fun a => (f a).events := by
  cases r with
  | mk events outcome =>
    cases outcome with
    | error e => exact (List.append_nil events).symm
    | ok a => rfl

theorem mem_events_bind {r : Run ε α} {f : α → Run ε β} {event : Event} :
    event ∈ (r >>= f).events ↔ event ∈ r.events ∨ ∃ a, r.outcome = .ok a ∧ event ∈ (f a).events := by
  rw [events_bind, List.mem_append, mem_followed]

@[simp] theorem events_mapError {ε' : Type} (f : ε → ε') (r : Run ε α) :
    (r.mapError f).events = r.events := rfl

@[simp] theorem events_lift (outcome : Except ε α) : (lift outcome).events = [] := rfl

@[simp] theorem events_emit (events : List Event) : (emit events : Run ε Unit).events = events := rfl

@[simp] theorem events_done (a : α) : (done a : Run ε α).events = [] := rfl

@[simp] theorem events_pure (a : α) : (pure a : Run ε α).events = [] := rfl

@[simp] theorem events_fail (e : ε) : (fail e : Run ε α).events = [] := rfl

end Run

open Run (followed)

/-! ## The parts of a run -/

/-- A plugin configuration is set for the built-in synthesis, and the run comes to the warning: there is
such a level, and the initial layout fits. -/
def Settings.WarnsAt (s : Settings) (n : Int) : Prop :=
  (0 ≤ n ∧ n ≤ 3) ∧ s.checkLayout = .ok () ∧ s.pluginConfig.isSome = true ∧ s.synthesisMethod = .builtin

instance (s : Settings) : Decidable (s.checkLayout = .ok ()) :=
  match s.checkLayout with
  | .ok _ => .isTrue rfl
  | .error _ => .isFalse nofun

instance (s : Settings) (n : Int) : Decidable (s.WarnsAt n) :=
  inferInstanceAs (Decidable ((0 ≤ n ∧ n ≤ 3) ∧ s.checkLayout = .ok () ∧
    s.pluginConfig.isSome = true ∧ s.synthesisMethod = .builtin))

/-- What is logged of a pipeline: its numbers of stages and passes, and the kinds of its stages. -/
def Pipeline.announcement (p : Pipeline) : List Event :=
  [.built p.level p.stages.length p.passes.length, .dispatched p.level p.stageKinds]

/-- The source of each derived field. -/
def Settings.sources (s : Settings) : List Event :=
  DerivedField.all.map fun field => .resolved field (s.provenance.source field)

variable {n : Int} {s : Settings}

theorem Level.events_build (level : Level) (s : Settings) :
    (level.build s).events =
      (followed s.checkLayout fun _ => s.warnings) ++
        followed (level.build s).outcome fun p => [.built p.level p.stages.length p.passes.length] := by
  rw [Level.outcome_build]
  unfold Level.build
  simp only [Run.events_bind, Run.events_lift, Run.events_emit, Run.events_done, Run.outcome_lift,
    Run.outcome_emit, Run.followed_ok, Run.followed_bind, List.nil_append, List.append_nil]
  cases s.checkLayout <;> rfl

theorem ignoresPluginConfig_iff :
    s.ignoresPluginConfig = true ↔ s.pluginConfig.isSome = true ∧ s.synthesisMethod = .builtin := by
  unfold Settings.ignoresPluginConfig
  rw [Bool.and_eq_true]
  cases s.synthesisMethod <;> simp [SynthesisMethod.isBuiltin]

/-- The warning is logged exactly if the level and the layout are in order and it has a reason. -/
theorem followed_warnings (n : Int) (s : Settings) :
    (followed (Level.check n) fun _ => followed s.checkLayout fun _ => s.warnings) =
      if s.WarnsAt n then [.pluginConfigIgnored] else [] := by
  have hwarns : s.WarnsAt n ↔
      (Level.ofInt? n).isSome = true ∧ s.checkLayout = .ok () ∧ s.ignoresPluginConfig = true := by
    rw [Level.ofInt?_isSome_iff, ignoresPluginConfig_iff]
    rfl
  unfold Level.check
  split
  · rename_i level hlevel
    by_cases hfits : s.checkLayout = .ok ()
    · simp [hwarns, hlevel, hfits, Settings.warnings]
    · have hsilent : (followed s.checkLayout fun _ => s.warnings) = [] := by
        cases hcheck : s.checkLayout with
        | ok _ => exact absurd hcheck hfits
        | error fault => rfl
      simp [hwarns, hfits, hsilent]
  · rename_i hlevel
    simp [hwarns, hlevel]

theorem Level.level_of_build {level : Level} {p : Pipeline} (h : (level.build s).outcome = .ok p) :
    p.level = level := by
  rw [Level.outcome_build] at h
  obtain ⟨_, -, h⟩ := bind_eq_ok h
  obtain ⟨stages, -, h⟩ := bind_eq_ok h
  cases h
  rfl

theorem events_dispatch (n : Int) (s : Settings) :
    (dispatch n s).events =
      .dispatching n :: ((if s.WarnsAt n then [.pluginConfigIgnored] else []) ++
        followed (dispatch n s).outcome Pipeline.announcement) := by
  rw [outcome_dispatch, ← followed_warnings]
  unfold dispatch
  simp only [Run.events_bind, Run.events_lift, Run.events_emit, Run.events_done, Run.outcome_lift,
    Run.outcome_emit, Run.followed_ok, Run.followed_bind, List.nil_append, List.append_nil]
  cases Level.check n with
  | error e => rfl
  | ok level =>
    simp only [Run.followed_ok, Level.events_build]
    cases hbuild : (level.build s).outcome with
    | error e => simp
    | ok p =>
      obtain rfl := Level.level_of_build hbuild
      simp [Pipeline.announcement]

theorem not_warned_resolveLogged (target : Option Target) (backend : Option Descriptor)
    (explicit : Overrides) :
    .pluginConfigIgnored ∉ (resolveLogged target backend explicit).events := by
  simp [resolveLogged, Run.mem_events_bind]

/-- The choice of a level warns exactly if it has a reason. -/
theorem warns_dispatch_iff : .pluginConfigIgnored ∈ (dispatch n s).events ↔ s.WarnsAt n := by
  have hannounced : .pluginConfigIgnored ∉ followed (dispatch n s).outcome Pipeline.announcement := by
    rw [Run.mem_followed]
    rintro ⟨p, -, hp⟩
    simp [Pipeline.announcement] at hp
  rw [events_dispatch, List.mem_cons, List.mem_append, or_iff_left hannounced]
  split <;> simp [*]

/-- The log of a run: the sources of the derived fields, the warning, and the pipeline if there is one. -/
theorem events_generate (n : Int) (backend : Option Descriptor) (target : Option Target)
    (explicit : Overrides) :
    (generate n backend target explicit).events =
      [.generating n, .resolving (target.map (·.name)) (backend.map (·.name))] ++
        (Settings.resolve target backend explicit).sources ++ [.dispatching n] ++
        (if (Settings.resolve target backend explicit).WarnsAt n then [.pluginConfigIgnored] else []) ++
        followed (generate n backend target explicit).outcome Pipeline.announcement := by
  rw [outcome_generate]
  unfold generate resolveLogged
  simp only [Run.events_bind, Run.events_emit, Run.events_done, Run.outcome_emit, Run.followed_ok,
    Run.outcome_bind, Run.outcome_done, Except.bind, events_dispatch, Provenance.pairs, List.map_map]
  simp [Settings.sources, Function.comp_def]

/-! ## What is told -/

namespace Event

/-- Whether an entry tells of something that has happened, and not of a part of the run that begins. -/
def tells : Event → Bool
  | generating _ | resolving _ _ | dispatching _ => false
  | loaded _ _ | overridesLoaded _ | resolved _ _ | pluginConfigIgnored | built _ _ _ | dispatched _ _ => true

/-- The entry claims that a pipeline was made. -/
inductive ClaimsPipeline : Event → Prop where
  | built (level : Level) (stages passes : Nat) : ClaimsPipeline (built level stages passes)
  | dispatched (level : Level) (kinds : List StageKind) : ClaimsPipeline (dispatched level kinds)

end Event

theorem told_generate (n : Int) (backend : Option Descriptor) (target : Option Target)
    (explicit : Overrides) :
    (generate n backend target explicit).events.filter (·.tells) =
      (Settings.resolve target backend explicit).sources ++
        (if (Settings.resolve target backend explicit).WarnsAt n then [.pluginConfigIgnored] else []) ++
        followed (generate n backend target explicit).outcome Pipeline.announcement := by
  have hsources : ∀ s : Settings, s.sources.filter (·.tells) = s.sources := by
    intro s
    refine List.filter_eq_self.2 fun event hevent => ?_
    obtain ⟨field, -, rfl⟩ := List.mem_map.1 hevent
    rfl
  have hannounced : ∀ outcome : Except CompileError Pipeline,
      (followed outcome Pipeline.announcement).filter (·.tells) =
        followed outcome Pipeline.announcement := by
    intro outcome
    cases outcome <;> rfl
  rw [events_generate]
  simp only [List.filter_append, hsources, hannounced]
  congr 2
  split <;> rfl

theorem exists_claimsPipeline_iff (n : Int) (backend : Option Descriptor) (target : Option Target)
    (explicit : Overrides) :
    (∃ event ∈ (generate n backend target explicit).events, event.ClaimsPipeline) ↔
      ∃ p, (generate n backend target explicit).outcome = .ok p := by
  constructor
  · rintro ⟨event, hevent, hclaims⟩
    have htold : event ∈ (generate n backend target explicit).events.filter (·.tells) := by
      refine List.mem_filter.2 ⟨hevent, ?_⟩
      cases hclaims <;> rfl
    rw [told_generate, List.mem_append, List.mem_append] at htold
    obtain (hsource | hwarning) | hannounced := htold
    · obtain ⟨field, -, rfl⟩ := List.mem_map.1 hsource
      cases hclaims
    · split at hwarning
      · rw [List.mem_singleton] at hwarning
        subst hwarning
        cases hclaims
      · cases hwarning
    · obtain ⟨p, hp, -⟩ := Run.mem_followed.1 hannounced
      exact ⟨p, hp⟩
  · rintro ⟨p, hp⟩
    refine ⟨.built p.level p.stages.length p.passes.length, ?_, .built _ _ _⟩
    rw [events_generate, hp]
    exact List.mem_append_right _ List.mem_cons_self

/-- **The log of a run is true.** It names the source of each derived field, warns of a plugin
configuration that is ignored, and tells of a pipeline only if the run makes it: of that pipeline, with
its stages and passes. -/
theorem generate_log (n : Int) (backend : Option Descriptor) (target : Option Target)
    (explicit : Overrides) :
    let s := Settings.resolve target backend explicit
    let r := generate n backend target explicit
    r.events = [.generating n, .resolving (target.map (·.name)) (backend.map (·.name))] ++ s.sources ++
        [.dispatching n] ++ (if s.WarnsAt n then [.pluginConfigIgnored] else []) ++
        followed r.outcome Pipeline.announcement ∧
      (r.events.filter (·.tells)).map Event.toJson =
        (DerivedField.all.map fun field => .object [("level", .string "DEBUG"),
          ("fields", .object [("message", .string "Resolved derived field"),
            ("field", .string field.name), ("source", .string (s.provenance.source field).name)])]) ++
        (if s.WarnsAt n then
          [.object [("level", .string "WARN"), ("fields", .object [("message", .string
            "unitary_synthesis_plugin_config is ignored by the default synthesis method")])]]
          else []) ++
        followed r.outcome (fun p =>
          [.object [("level", .string "DEBUG"),
            ("fields", .object [("message", .string "Built preset pipeline"),
              ("level", .string (toString p.level.toNat)),
              ("stages", .number (.integer p.stages.length)),
              ("passes", .number (.integer p.passes.length))])],
          .object [("level", .string "INFO"),
            ("fields", .object [("message", .string "Dispatched preset pipeline"),
              ("level", .string (toString p.level.toNat)),
              ("stages", .string
                ("[" ++ ", ".intercalate (p.stageKinds.map StageKind.title) ++ "]"))])]]) ∧
      DerivedField.all.map (·.name) = ["connectivity", "basis_gates", "durations", "calibration_map",
        "timing_constraints", "device_properties"] ∧
      Source.all.map (·.name) = ["explicit", "target", "backend", "unset"] ∧
      StageKind.all.map StageKind.title =
        ["Init", "Layout", "Routing", "Translation", "Optimization", "Scheduling"] ∧
      ((∃ event ∈ r.events, event.ClaimsPipeline) ↔ ∃ p, r.outcome = .ok p) := by
  refine ⟨events_generate n backend target explicit, ?_, rfl, rfl, rfl,
    exists_claimsPipeline_iff n backend target explicit⟩
  rw [told_generate, List.map_append, List.map_append, Run.map_followed, Settings.sources, List.map_map]
  congr 2
  split <;> rfl

/-- A run can warn and then fail: here no device has a graph for the routing. -/
example :
    (generate 1 none none
        { routingMethod := some .sabre, pluginConfig := some .empty }).events.getLast? =
      some .pluginConfigIgnored := by
  decide

end PresetPipeline
