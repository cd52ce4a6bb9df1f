import PresetPipeline.Proofs.Preset.Skeleton

/-!
# Levels compared

Which stages of a pipeline depend on the level.

* `Level.stageOf_translation` — no level has a translation method of its own.
* `layoutStage?_of_layout`, `routingStage?_of_method` — a layout that is given, and a routing method
  without parameters, leave nothing to the policy.
* `Level.initPasses_prefix` — a higher level only adds to the first stage.
* `Pipeline.Shares` — what two pipelines of the same settings have in common.
* `dispatch_shares` — the pipelines of all levels share it.
-/

set_option autoImplicit false

namespace PresetPipeline

variable {n n' : Int} {s : Settings} {level level' : Level} {policy policy' : Policy} {p p' : Pipeline}

/-! ## What a level decides -/

theorem Level.policy_translation (level : Level) : level.policy.translation = .translator := by
  cases level <;> rfl

theorem Level.stageOf_translation (level level' : Level) :
    level.stageOf s .translation = level'.stageOf s .translation := by
  show translationStage? s level.policy = translationStage? s level'.policy
  unfold translationStage?
  rw [level.policy_translation, level'.policy_translation]

/-- A layout that is given leaves nothing to the policy. -/
theorem layoutStage?_of_layout (h : s.initialLayout ≠ none) :
    layoutStage? s policy = layoutStage? s policy' := by
  obtain ⟨layout, hlayout⟩ := Option.ne_none_iff_exists'.1 h
  unfold layoutStage? layoutChoice
  rw [hlayout]

/-- Of the routing methods, two have no parameters that a policy could set. -/
theorem routingStage?_of_method (h : s.routingMethod = some .basic ∨ s.routingMethod = some .none) :
    routingStage? s policy = routingStage? s policy' := by
  unfold routingStage?
  obtain h | h := h
  · rw [h]
    rfl
  · rw [h]
    rfl

theorem Level.initPasses_prefix (h : level.toNat ≤ level'.toNat) :
    level.initPasses <+: level'.initPasses := by
  cases level with
  | level0 => exact List.nil_prefix
  | level1 => exact List.nil_prefix
  | level2 => exact List.nil_prefix
  | level3 =>
    cases level' with
    | level3 => exact List.prefix_rfl
    | level0 => simp [toNat] at h
    | level1 => simp [toNat] at h
    | level2 => simp [toNat] at h

/-! ## Two pipelines -/

/-- What pipelines of the same settings have in common at two levels. -/
structure Pipeline.Shares (s : Settings) (p p' : Pipeline) : Prop where
  translation : p.stage? .translation = p'.stage? .translation
  scheduling : p.stage? .scheduling = p'.stage? .scheduling
  layout : s.initialLayout ≠ none → p.stage? .layout = p'.stage? .layout
  routing : s.routingMethod = some .basic ∨ s.routingMethod = some .none →
    p.stage? .routing = p'.stage? .routing
  init : p.level.toNat ≤ p'.level.toNat →
    ∃ first ∈ p.stage? .init, ∃ first' ∈ p'.stage? .init, first.passes <+: first'.passes

theorem shares_of_dispatch (h : (dispatch n s).outcome = .ok p)
    (h' : (dispatch n' s).outcome = .ok p') : p.Shares s p' := by
  have hstage : ∀ kind, p.level.stageOf s kind = p'.level.stageOf s kind →
      p.stage? kind = p'.stage? kind := by
    intro kind heq
    rw [stageOf_of_dispatch h, stageOf_of_dispatch h'] at heq
    exact Except.ok.inj heq
  constructor
  case translation => exact hstage .translation (Level.stageOf_translation _ _)
  case scheduling => exact hstage .scheduling rfl
  case layout => exact fun hlayout => hstage .layout (layoutStage?_of_layout hlayout)
  case routing => exact fun hmethod => hstage .routing (routingStage?_of_method hmethod)
  case init =>
    intro hle
    have hfirst := Except.ok.inj (stageOf_of_dispatch h .init)
    have hfirst' := Except.ok.inj (stageOf_of_dispatch h' .init)
    refine ⟨initStage p.level, hfirst.symm, initStage p'.level, hfirst'.symm, ?_⟩
    exact (List.prefix_cons_inj _).2 (Level.initPasses_prefix hle)

/-- **The level changes the choice of layout and routing, and the optimization, and adds to the first
stage.** Settings that have a pipeline at one level have one at every level, with the same
translation and the same scheduling, and with the same layout and the same routing where these are
told. -/
theorem dispatch_shares (h : (dispatch n s).outcome = .ok p) (hn' : 0 ≤ n' ∧ n' ≤ 3) :
    Int.ofNat p.level.toNat = n ∧ ∃ p', (dispatch n' s).outcome = .ok p' ∧
      Int.ofNat p'.level.toNat = n' ∧ p.Shares s p' := by
  obtain ⟨p', h'⟩ := exists_dispatch_of_level h hn'
  exact ⟨(dispatch_eq_ok h).1, p', h', (dispatch_eq_ok h').1, shares_of_dispatch h h'⟩

/-- A line of three qubits with a layout, on which swaps follow shortest paths. -/
def pinnedLine : Settings :=
  .resolve none none
    { couplingMap := some (.linear 3), basisGates := some .ibm,
      initialLayout := some (.ofList [(0, 2), (1, 0)]), routingMethod := some .basic }

/-- On the line, the highest level only adds to the first stage of the lowest, and translates, places
and routes alike. -/
theorem dispatch_shares_pinnedLine :
    ∃ p p', (dispatch 0 pinnedLine).outcome = .ok p ∧ (dispatch 3 pinnedLine).outcome = .ok p' ∧
      p.stage? .translation = p'.stage? .translation ∧ p.stage? .layout = p'.stage? .layout ∧
      p.stage? .routing = p'.stage? .routing ∧
      ∃ first ∈ p.stage? .init, ∃ first' ∈ p'.stage? .init, first.passes <+: first'.passes := by
  have hnot : ∀ h, ¬Hindrance.Stands 0 pinnedLine h := by
    intro h
    cases h <;> decide
  have hlevel : 0 ≤ (3 : Int) ∧ (3 : Int) ≤ 3 := by decide
  obtain ⟨p, hp⟩ := exists_dispatch_iff.2 hnot
  obtain ⟨hlow, p', hp', hhigh, hshares⟩ := dispatch_shares hp hlevel
  refine ⟨p, p', hp, hp', hshares.translation, hshares.layout ?_, hshares.routing (.inl rfl),
    hshares.init ?_⟩
  · exact Option.some_ne_none _
  · simp only [Int.ofNat_eq_natCast] at hlow hhigh
    omega

end PresetPipeline
