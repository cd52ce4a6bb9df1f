import PresetPipeline.Proofs.Preset.Composition
import PresetPipeline.Proofs.Preset.Failure

/-!
# The skeleton of a pipeline

Which stages a pipeline has, and in which order.

* `Settings.CallsFor` — whether a level with these settings calls for a kind of stage.
* `stages_map_kind` — the stages are those that are called for, in the order of compilation.
* `Pipeline.IsFramed` — the stages are these, each with a pass, and only the optimization repeats.
* `exists_dispatch_of_level` — where one level has a pipeline, every level has one.
* `dispatch_isFramed` — every pipeline is framed, and higher levels only add stages.
-/

set_option autoImplicit false

namespace PresetPipeline

variable {n : Int} {s : Settings} {level : Level} {policy : Policy} {p : Pipeline} {stage : Stage}
  {kind : StageKind}

/-- Whether a level with these settings calls for a kind of stage. -/
def Settings.CallsFor (s : Settings) (level : Level) : StageKind → Prop
  | .init => True
  | .layout => s.couplingMap ≠ none
  | .routing => s.couplingMap ≠ none
  | .translation => s.basisGates ≠ none
  | .optimization => 1 ≤ level.toNat
  | .scheduling => s.schedulingMethod ≠ none ∨ ∃ schedules ∈ s.schedules, schedules.isEmpty = false

instance (s : Settings) (level : Level) : DecidablePred (s.CallsFor level)
  | .init => inferInstanceAs (Decidable True)
  | .layout => inferInstanceAs (Decidable (s.couplingMap ≠ none))
  | .routing => inferInstanceAs (Decidable (s.couplingMap ≠ none))
  | .translation => inferInstanceAs (Decidable (s.basisGates ≠ none))
  | .optimization => inferInstanceAs (Decidable (1 ≤ level.toNat))
  | .scheduling =>
    inferInstanceAs (Decidable (s.schedulingMethod ≠ none ∨ ∃ schedules ∈ s.schedules, _))

/-! ## The kinds of the stages -/

/-- A stage that is there exactly when it is called for adds its kind exactly then. -/
theorem map_kind_toList {o : Option Stage} (habsent : o = none → ¬s.CallsFor level kind)
    (hpresent : ∀ stage ∈ o, stage.kind = kind ∧ s.CallsFor level kind) :
    o.toList.map (·.kind) = [kind].filter (s.CallsFor level ·) := by
  cases o with
  | none => simp [habsent rfl]
  | some stage =>
    obtain ⟨hkind, hcalls⟩ := hpresent stage rfl
    simp [hkind, hcalls]

theorem schedules_called_iff :
    (s.schedulingMethod.isNone && !s.hasCalibrations) = false ↔ s.CallsFor level .scheduling := by
  unfold Settings.CallsFor
  rw [← Settings.hasCalibrations_iff]
  cases s.schedulingMethod <;> simp

theorem stages_map_kind {stages : List Stage} (h : level.stages s = .ok stages) :
    stages.map (·.kind) = StageKind.all.filter (s.CallsFor level ·) := by
  obtain ⟨layout, routing, translation, scheduling, hlayout, hrouting, htranslation, hscheduling,
    rfl⟩ := Level.stages_eq_ok h
  have hl : layout.toList.map (·.kind) = [.layout].filter (s.CallsFor level ·) := by
    obtain ⟨hm, rfl⟩ | ⟨m, choice, hm, -, rfl⟩ := layoutStage?_eq_ok hlayout
    · exact map_kind_toList (fun _ h => h hm) (by simp)
    · exact map_kind_toList (by simp) (by simp [Stage.once, Settings.CallsFor, hm])
  have hr : routing.toList.map (·.kind) = [.routing].filter (s.CallsFor level ·) := by
    obtain ⟨hm, rfl⟩ | ⟨m, hm, rfl⟩ := routingStage?_eq_ok hrouting
    · exact map_kind_toList (fun _ h => h hm) (by simp)
    · exact map_kind_toList (by simp) (by simp [Stage.once, Settings.CallsFor, hm])
  have ht : translation.toList.map (·.kind) = [.translation].filter (s.CallsFor level ·) := by
    obtain ⟨hb, rfl⟩ | ⟨b, hb, rfl⟩ := translationStage?_eq_ok htranslation
    · exact map_kind_toList (fun _ h => h hb) (by simp)
    · exact map_kind_toList (by simp) (by simp [Stage.once, Settings.CallsFor, hb])
  have ho : (optimizationStage? level s).toList.map (·.kind) =
      [.optimization].filter (s.CallsFor level ·) := by
    cases level <;> rfl
  have hs : scheduling.toList.map (·.kind) = [.scheduling].filter (s.CallsFor level ·) := by
    obtain ⟨hidle, rfl⟩ | ⟨hbusy, d, -, rfl⟩ := schedulingStage?_eq_ok hscheduling
    · refine map_kind_toList (fun _ hcalls => ?_) (by simp)
      rw [schedules_called_iff.2 hcalls] at hidle
      cases hidle
    · exact map_kind_toList (by simp) (by simp [Stage.once, schedules_called_iff.1 hbusy])
  calc
    _ = [StageKind.init] ++ layout.toList.map (·.kind) ++ routing.toList.map (·.kind) ++
          translation.toList.map (·.kind) ++ (optimizationStage? level s).toList.map (·.kind) ++
          scheduling.toList.map (·.kind) := by
        simp only [List.map_append]
        rfl
    _ = StageKind.all.filter (s.CallsFor level ·) := by
        rw [hl, hr, ht, ho, hs]
        have hinit : [StageKind.init] = [StageKind.init].filter (s.CallsFor level ·) := rfl
        rw [hinit]
        simp only [← List.filter_append]
        rfl

/-! ## The passes of a stage -/

theorem Settings.Makes.passes_ne (h : s.Makes level stage) : stage.passes ≠ [] := by
  cases h with
  | init => exact List.cons_ne_nil _ _
  | layout _ _ => exact List.append_ne_nil_of_right_ne_nil _ (List.cons_ne_nil _ _)
  | routing _ => exact List.append_ne_nil_of_right_ne_nil _ (List.cons_ne_nil _ _)
  | @translation b hb =>
    show basisPasses _ s b ++ _ ++ _ ≠ []
    rw [List.append_assoc]
    apply List.append_ne_nil_of_left_ne_nil
    cases s.translationMethod.getD level.policy.translation <;> exact List.cons_ne_nil _ _
  | optimization h =>
    cases level <;> cases h <;> exact List.cons_ne_nil _ _
  | scheduling _ => exact List.cons_ne_nil _ _

/-- Only the optimization is repeated. -/
theorem Settings.Makes.repeats_iff (h : s.Makes level stage) :
    stage.repeats ≠ none ↔ stage.kind = .optimization := by
  cases h with
  | optimization h => cases level <;> cases h <;> simp [Stage.once, Stage.repeatedUntil]
  | init => simp [initStage, Stage.once]
  | layout _ _ => simp [Stage.once]
  | routing _ => simp [Stage.once]
  | translation _ => simp [Stage.once]
  | scheduling _ => simp [Stage.once]

/-! ## Levels -/

/-- Where one level has a pipeline, every level has one. -/
theorem exists_dispatch_of_level {n' : Int} (h : (dispatch n s).outcome = .ok p)
    (hn' : 0 ≤ n' ∧ n' ≤ 3) : ∃ p', (dispatch n' s).outcome = .ok p' := by
  have hnot := exists_dispatch_iff.1 ⟨p, h⟩
  rw [exists_dispatch_iff]
  intro hindrance hstands
  cases hindrance with
  | level => exact hstands hn'
  | misfit => exact hnot .misfit hstands
  | placement => exact hnot .placement hstands
  | ranking => exact hnot .ranking hstands
  | routing => exact hnot .routing hstands
  | translation => exact hnot .translation hstands
  | timing => exact hnot .timing hstands

/-- At a higher level there is a pipeline as well. -/
theorem exists_dispatch_of_le {n' : Int} (h : (dispatch n s).outcome = .ok p) (hle : n ≤ n')
    (hn' : n' ≤ 3) : ∃ p', (dispatch n' s).outcome = .ok p' := by
  have hlevel : 0 ≤ n ∧ n ≤ 3 := Decidable.not_not.1 (exists_dispatch_iff.1 ⟨p, h⟩ .level)
  exact exists_dispatch_of_level h ⟨by omega, hn'⟩

theorem CallsFor.mono {level' : Level} (hle : level.toNat ≤ level'.toNat) (h : s.CallsFor level kind) :
    s.CallsFor level' kind := by
  cases kind with
  | optimization => exact Nat.le_trans h hle
  | init => exact h
  | layout => exact h
  | routing => exact h
  | translation => exact h
  | scheduling => exact h

/-- Whatever is called for at a level is called for at the levels above it. -/
theorem kinds_sublist {level' : Level} (hle : level.toNat ≤ level'.toNat) :
    (StageKind.all.filter (s.CallsFor level ·)).Sublist (StageKind.all.filter (s.CallsFor level' ·)) := by
  have hboth : (StageKind.all.filter (s.CallsFor level' ·)).filter (s.CallsFor level ·) =
      StageKind.all.filter (s.CallsFor level ·) := by
    rw [List.filter_filter]
    apply List.filter_congr
    intro kind _
    rw [Bool.and_eq_left_iff_imp, decide_eq_true_iff, decide_eq_true_iff]
    exact CallsFor.mono hle
  rw [← hboth]
  exact List.filter_sublist

/-- The pipeline of a level has the stages that are called for. -/
structure Pipeline.IsFramed (p : Pipeline) (n : Int) (s : Settings) : Prop where
  level : Int.ofNat p.level.toNat = n
  stageKinds : p.stageKinds = StageKind.all.filter (s.CallsFor p.level ·)
  increasing : p.stageKinds.Pairwise fun a b => a.rank < b.rank
  passes_ne : ∀ stage ∈ p.stages, stage.passes ≠ []
  repeats_iff : ∀ stage ∈ p.stages, stage.repeats ≠ none ↔ stage.kind = .optimization

theorem isFramed_of_dispatch (h : (dispatch n s).outcome = .ok p) : p.IsFramed n s := by
  obtain ⟨hlevel, -, hstages⟩ := dispatch_eq_ok h
  have hkinds : p.stageKinds = StageKind.all.filter (s.CallsFor p.level ·) := stages_map_kind hstages
  refine ⟨hlevel, hkinds, ?_, ?_, ?_⟩
  · rw [hkinds]
    have hall : StageKind.all.Pairwise fun a b => a.rank < b.rank := by decide
    exact hall.filter _
  · intro stage hstage
    exact (makes_of_dispatch h hstage).passes_ne
  · intro stage hstage
    exact (makes_of_dispatch h hstage).repeats_iff

/-- **Every pipeline is framed, and a higher level keeps every stage of a lower one.** -/
theorem dispatch_isFramed (h : (dispatch n s).outcome = .ok p) :
    p.IsFramed n s ∧ ∀ n', n ≤ n' → n' ≤ 3 →
      ∃ p', (dispatch n' s).outcome = .ok p' ∧ p.stageKinds.Sublist p'.stageKinds := by
  have hframed := isFramed_of_dispatch h
  refine ⟨hframed, fun n' hle hn' => ?_⟩
  obtain ⟨p', h'⟩ := exists_dispatch_of_le h hle hn'
  have hframed' := isFramed_of_dispatch h'
  refine ⟨p', h', ?_⟩
  rw [hframed.stageKinds, hframed'.stageKinds]
  apply kinds_sublist
  have hlevel := hframed.level
  have hlevel' := hframed'.level
  simp only [Int.ofNat_eq_natCast] at hlevel hlevel'
  omega

/-- A line of three qubits whose circuits are to be timed. -/
def timedLine : Settings :=
  .resolve none none
    { couplingMap := some (.linear 3), basisGates := some .ibm, durations := some (.new none),
      schedulingMethod := some .asap }

/-- The lowest level times the circuits of the line without an optimization, which the highest level
adds. -/
theorem dispatch_isFramed_timedLine :
    ∃ p, (dispatch 0 timedLine).outcome = .ok p ∧
      p.stageKinds = [.init, .layout, .routing, .translation, .scheduling] ∧
      ∃ p', (dispatch 3 timedLine).outcome = .ok p' ∧ p.stageKinds.Sublist p'.stageKinds := by
  have hnot : ∀ h, ¬Hindrance.Stands 0 timedLine h := by
    intro h
    cases h <;> decide
  obtain ⟨p, hp⟩ := exists_dispatch_iff.2 hnot
  obtain ⟨hframed, hhigher⟩ := dispatch_isFramed hp
  refine ⟨p, hp, ?_, hhigher 3 (by decide) (by decide)⟩
  have hlevel : p.level = .level0 := by
    have h := hframed.level
    cases hl : p.level <;> rw [hl] at h <;> first | rfl | cases h
  rw [hframed.stageKinds, hlevel]
  decide

end PresetPipeline
