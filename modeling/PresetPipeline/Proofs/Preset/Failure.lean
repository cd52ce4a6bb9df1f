import PresetPipeline.Preset.Generate

/-!
# When there is no pipeline

Everything that can keep a level and settings from having a pipeline, in the order in which it is
met.

* `Hindrance` — the seven reasons. `Hindrance.Stands` tells from the fields alone which of them hold,
  `Hindrance.Reports` what the caller is told.
* `Decided` — a step of the construction fails with the first hindrance of a list, or finds none of
  the list. `Decided.bind`: steps in a row decide their lists in a row.
* `decided_check`, `decided_checkLayout`, `decided_layoutStage?`, `decided_routingStage?`,
  `decided_translationStage?`, `decided_schedulingStage?` — the list of each step.
* `exists_dispatch_iff` — there is a pipeline exactly if no hindrance stands.
* `dispatch_fails`, `exists_hindrance` — an error reports the first hindrance.
* `dispatch_outcome` — a pipeline is made unless a hindrance stands, and else the first is reported.
-/

set_option autoImplicit false

namespace PresetPipeline

/-- What keeps a pipeline from being made. -/
inductive Hindrance where
  /-- The number is no level. -/
  | level
  /-- The initial layout does not fit on the device. -/
  | misfit
  /-- Qubits are to be placed, but on no graph. -/
  | placement
  /-- Qubits are to be ranked by errors that are not known. -/
  | ranking
  /-- Swaps are to be inserted, but along no graph. -/
  | routing
  /-- Gates are to be rewritten, but into no basis. -/
  | translation
  /-- Times are to be assigned, but nothing has a duration. -/
  | timing
  deriving DecidableEq, Repr

/-- The error says that a stage lacks a field. -/
def CompileError.Lacks (e : CompileError) (stage : StageKind) (field : DerivedField) : Prop :=
  ∃ need, e = .unresolved need ∧ need.stage = stage ∧ need.field = field

/-- An error speaks of one field only. -/
theorem CompileError.Lacks.field_unique {e : CompileError} {stage stage' : StageKind}
    {field field' : DerivedField} (h : e.Lacks stage field) (h' : e.Lacks stage' field') :
    field = field' := by
  obtain ⟨need, rfl, -, rfl⟩ := h
  obtain ⟨need', heq, -, rfl⟩ := h'
  cases heq
  rfl

namespace Hindrance

/-- Every hindrance, in the order in which they are met. -/
def all : List Hindrance := [level, misfit, placement, ranking, routing, translation, timing]

/-- Whether the hindrance is there. -/
def Stands (n : Int) (s : Settings) : Hindrance → Prop
  | level => ¬(0 ≤ n ∧ n ≤ 3)
  | misfit =>
    ∃ layout ∈ s.initialLayout,
      ∃ count ∈ (s.couplingMap.map (·.numQubits)).or (s.target.map (·.numQubits)),
        count.toNat < layout.size ∨ ∃ e ∈ layout.pairs, count ≤ e.2
  | placement => s.couplingMap = none ∧ (s.layoutMethod ≠ none ∨ s.initialLayout ≠ none)
  | ranking =>
    s.couplingMap ≠ none ∧ s.initialLayout = none ∧ s.layoutMethod = some .noiseAdaptive ∧
      s.properties = none
  | routing => s.couplingMap = none ∧ ∃ method ∈ s.routingMethod, method ≠ .none
  | translation => s.basisGates = none ∧ s.translationMethod ≠ none
  | timing =>
    s.durations = none ∧
      (s.schedulingMethod ≠ none ∨ ∃ schedules ∈ s.schedules, schedules.isEmpty = false)

/-- What is reported of the hindrance. -/
def Reports (n : Int) (e : CompileError) : Hindrance → Prop
  | level => e = .invalidLevel n
  | misfit => ∃ fault, e = .invalidLayout fault
  | placement => e.Lacks .layout .connectivity
  | ranking => e.Lacks .layout .deviceProperties
  | routing => e.Lacks .routing .connectivity
  | translation => e.Lacks .translation .basisGates
  | timing => e.Lacks .scheduling .durations

instance (n : Int) (s : Settings) : DecidablePred (Stands n s)
  | level => inferInstanceAs (Decidable ¬(_ ∧ _))
  | misfit => inferInstanceAs (Decidable (∃ layout ∈ s.initialLayout, ∃ count ∈ _, _ ∨ ∃ e ∈ _, _))
  | placement => inferInstanceAs (Decidable (_ ∧ (_ ∨ _)))
  | ranking => inferInstanceAs (Decidable (_ ∧ _ ∧ _ ∧ _))
  | routing => inferInstanceAs (Decidable (_ ∧ ∃ method ∈ s.routingMethod, _))
  | translation => inferInstanceAs (Decidable (_ ∧ _))
  | timing => inferInstanceAs (Decidable (_ ∧ (_ ∨ ∃ schedules ∈ s.schedules, _)))

/-- The first hindrance of a list that is there. -/
def firstOf? (n : Int) (s : Settings) (hs : List Hindrance) : Option Hindrance :=
  hs.find? fun h => decide (h.Stands n s)

variable {n : Int} {s : Settings} {h : Hindrance} {hs hs₁ hs₂ : List Hindrance}

theorem firstOf?_cons_of_stands (hstands : h.Stands n s) : firstOf? n s (h :: hs) = some h :=
  List.find?_cons_of_pos (decide_eq_true hstands)

theorem firstOf?_cons_of_not (hnot : ¬h.Stands n s) : firstOf? n s (h :: hs) = firstOf? n s hs :=
  List.find?_cons_of_neg (by simpa using hnot)

theorem firstOf?_append : firstOf? n s (hs₁ ++ hs₂) = (firstOf? n s hs₁).or (firstOf? n s hs₂) :=
  List.find?_append

end Hindrance

/-- The step fails with the first hindrance of the list, and succeeds if there is none. -/
inductive Decided (n : Int) (s : Settings) (hs : List Hindrance) {α : Type} :
    Except CompileError α → Prop where
  | succeeds {a : α} : Hindrance.firstOf? n s hs = none → Decided n s hs (.ok a)
  | fails {h : Hindrance} {e : CompileError} : Hindrance.firstOf? n s hs = some h →
      h.Reports n e → Decided n s hs (.error e)

variable {n : Int} {s : Settings} {m : CouplingMap} {policy : Policy} {α β : Type}

namespace Decided

variable {hs hs₁ hs₂ : List Hindrance} {h : Hindrance} {e : CompileError} {x : Except CompileError α}

theorem ok {a : α} (hnone : ∀ h ∈ hs, ¬h.Stands n s) : Decided n s hs (.ok a) := by
  refine .succeeds (List.find?_eq_none.2 fun h hmem => ?_)
  rw [decide_eq_true_iff]
  exact hnone h hmem

/-- A hindrance that is there comes before the ones that follow it. -/
theorem error (hstands : h.Stands n s) (hreport : h.Reports n e) :
    Decided n s (h :: hs) (.error e : Except CompileError α) :=
  .fails (Hindrance.firstOf?_cons_of_stands hstands) hreport

/-- A hindrance that is not there can be put in front. -/
theorem skip (hnot : ¬h.Stands n s) (hx : Decided n s hs x) : Decided n s (h :: hs) x := by
  have hskip : Hindrance.firstOf? n s (h :: hs) = Hindrance.firstOf? n s hs :=
    Hindrance.firstOf?_cons_of_not hnot
  cases hx with
  | succeeds hnone => exact .succeeds (hskip.trans hnone)
  | fails hfirst hreport => exact .fails (hskip.trans hfirst) hreport

theorem map {f : α → β} (hx : Decided n s hs x) : Decided n s hs (x.map f) := by
  cases hx with
  | succeeds hnone => exact .succeeds hnone
  | fails hfirst hreport => exact .fails hfirst hreport

/-- Steps in a row decide their lists in a row. -/
theorem bind {f : α → Except CompileError β} (hx : Decided n s hs₁ x)
    (hf : ∀ a, x = .ok a → Decided n s hs₂ (f a)) : Decided n s (hs₁ ++ hs₂) (x.bind f) := by
  cases hx with
  | fails hfirst hreport =>
    refine .fails ?_ hreport
    rw [Hindrance.firstOf?_append, hfirst]
    rfl
  | @succeeds a hnone =>
    have happend : Hindrance.firstOf? n s (hs₁ ++ hs₂) = Hindrance.firstOf? n s hs₂ := by
      rw [Hindrance.firstOf?_append, hnone]
      rfl
    have hrest := hf a rfl
    show Decided n s (hs₁ ++ hs₂) (f a)
    generalize f a = y at hrest ⊢
    cases hrest with
    | succeeds hnone₂ => exact .succeeds (happend.trans hnone₂)
    | fails hfirst hreport => exact .fails (happend.trans hfirst) hreport

end Decided

/-! ## The checks before the stages -/

theorem decided_check : Decided n s [.level] (Level.check n) := by
  unfold Level.check
  have hiff := Level.ofInt?_isSome_iff (n := n)
  split
  · rename_i level hlevel
    rw [hlevel, Option.isSome_some] at hiff
    apply Decided.ok
    simpa [Hindrance.Stands] using hiff
  · rename_i hlevel
    rw [hlevel, Option.isSome_none] at hiff
    refine Decided.error (fun hn => ?_) rfl
    exact absurd (hiff.2 hn) Bool.false_ne_true

theorem Settings.checkLayout_eq_ok_iff :
    s.checkLayout = .ok () ↔ ¬Hindrance.misfit.Stands n s := by
  unfold Settings.checkLayout Settings.numPhysical?
  show _ ↔ ¬∃ layout ∈ _, ∃ count ∈ _, _
  split
  · rename_i layout count hlayout hcount
    rw [hlayout, hcount]
    simp only [Option.mem_some_iff, exists_eq_left', not_or, not_exists, not_and]
    split
    · rename_i hlt
      simp [hlt]
    · rename_i hlt
      rw [Layout.checkFits_eq_ok_iff]
      simp [hlt]
  · rename_i hnone
    simp only [true_iff]
    rintro ⟨layout, hlayout, count, hcount, -⟩
    exact hnone layout count hlayout hcount

theorem decided_checkLayout :
    Decided n s [.misfit] (s.checkLayout.mapError CompileError.invalidLayout) := by
  have hiff := Settings.checkLayout_eq_ok_iff (n := n) (s := s)
  cases hcheck : s.checkLayout with
  | ok u =>
    refine Decided.ok ?_
    simpa using hiff.1 hcheck
  | error fault =>
    refine Decided.error ?_ ⟨fault, rfl⟩
    refine Decidable.not_not.1 fun hnot => ?_
    rw [hiff.2 hnot] at hcheck
    cases hcheck

/-! ## The stages -/

/-- No level ranks qubits on its own account. -/
theorem Level.policy_layout_ne (level : Level) : level.policy.layout ≠ .noiseAdaptive := by
  cases level <;> decide

/-- Only the ranking of qubits can fail, for want of properties. -/
theorem layoutPass_isOk (m : CouplingMap) (policy : Policy) {method : LayoutMethod}
    (h : method = .noiseAdaptive → s.properties ≠ none) :
    ∃ p, layoutPass method s m policy = .ok p := by
  unfold layoutPass
  cases method with
  | trivial => exact ⟨_, rfl⟩
  | dense => exact ⟨_, rfl⟩
  | sabre => exact ⟨_, rfl⟩
  | noiseAdaptive =>
    have hne := h rfl
    rw [if_neg (by simpa using hne)]
    exact ⟨_, rfl⟩

theorem decided_layoutChoice (hm : s.couplingMap = some m)
    (hpolicy : policy.layout ≠ .noiseAdaptive) :
    Decided n s [.ranking] (layoutChoice s m policy) := by
  unfold layoutChoice
  split
  · rename_i layout _ hlayout
    apply Decided.ok
    simp [Hindrance.Stands, hlayout]
  · rename_i method hlayout hmethod
    apply Decided.map
    by_cases hrank : method = .noiseAdaptive ∧ s.properties = none
    · obtain ⟨rfl, hproperties⟩ := hrank
      unfold layoutPass
      rw [hproperties]
      refine Decided.error ?_ ⟨.noiseRanking, rfl, rfl, rfl⟩
      exact ⟨by simp [hm], hlayout, hmethod, hproperties⟩
    · obtain ⟨p, hp⟩ := layoutPass_isOk m policy (not_and.1 hrank)
      rw [hp]
      apply Decided.ok
      simp only [List.mem_singleton, forall_eq, Hindrance.Stands, hmethod, Option.some.injEq]
      rintro ⟨-, -, hstands⟩
      exact hrank hstands
  · rename_i hlayout hmethod
    -- the default of a level goes through the same passes, but never through the ranking
    apply Decided.map
    obtain ⟨p, hp⟩ := layoutPass_isOk (s := s) m policy fun h => absurd h hpolicy
    rw [hp]
    apply Decided.ok
    simp [Hindrance.Stands, hmethod]

theorem decided_layoutStage? (hpolicy : policy.layout ≠ .noiseAdaptive) :
    Decided n s [.placement, .ranking] (layoutStage? s policy) := by
  unfold layoutStage?
  split
  · rename_i m hm
    refine Decided.skip ?_ (Decided.map (decided_layoutChoice hm hpolicy))
    simp [Hindrance.Stands, hm]
  · rename_i hm
    split
    · rename_i method _ hmethod
      refine Decided.error ⟨hm, .inl ?_⟩ ⟨_, rfl, rfl, rfl⟩
      simp [hmethod]
    · rename_i layout _ hlayout
      refine Decided.error ⟨hm, .inr ?_⟩ ⟨_, rfl, rfl, rfl⟩
      simp [hlayout]
    · rename_i hmethod hlayout
      apply Decided.ok
      simp [Hindrance.Stands, hm, hmethod, hlayout]

theorem decided_routingStage? : Decided n s [.routing] (routingStage? s policy) := by
  unfold routingStage?
  split
  · rename_i m hm
    apply Decided.ok
    simp [Hindrance.Stands, hm]
  · rename_i hm
    split
    · rename_i hmethod
      apply Decided.ok
      simp [Hindrance.Stands, hmethod]
    · rename_i hmethod
      apply Decided.ok
      simp [Hindrance.Stands, hmethod]
    · rename_i method hne hmethod
      refine Decided.error ?_ ⟨_, rfl, rfl, rfl⟩
      exact ⟨hm, method, hmethod, hne⟩

theorem decided_translationStage? : Decided n s [.translation] (translationStage? s policy) := by
  unfold translationStage?
  split
  · rename_i b hb
    apply Decided.ok
    simp [Hindrance.Stands, hb]
  · rename_i hb
    split
    · rename_i method hmethod
      refine Decided.error ⟨hb, ?_⟩ ⟨_, rfl, rfl, rfl⟩
      simp [hmethod]
    · rename_i hmethod
      apply Decided.ok
      simp [Hindrance.Stands, hmethod]

theorem Settings.hasCalibrations_iff :
    s.hasCalibrations = true ↔ ∃ schedules ∈ s.schedules, schedules.isEmpty = false := by
  unfold Settings.hasCalibrations
  rw [Option.any_eq_true]
  simp only [Bool.not_eq_true', Option.mem_def]

theorem decided_schedulingStage? : Decided n s [.timing] (schedulingStage? s) := by
  unfold schedulingStage?
  split
  · rename_i hidle
    rw [Bool.and_eq_true, Option.isNone_iff_eq_none, Bool.not_eq_true'] at hidle
    apply Decided.ok
    simp only [List.mem_singleton, forall_eq, Hindrance.Stands]
    rintro ⟨-, hmethod | hcalibrations⟩
    · exact hmethod hidle.1
    · rw [Settings.hasCalibrations_iff.2 hcalibrations] at hidle
      cases hidle.2
  · rename_i hbusy
    split
    · rename_i d _ hd
      apply Decided.ok
      simp [Hindrance.Stands, hd]
    · rename_i method hd hmethod
      refine Decided.error ⟨hd, .inl ?_⟩ ⟨_, rfl, rfl, rfl⟩
      simp [hmethod]
    · rename_i hd hmethod
      refine Decided.error ⟨hd, .inr ?_⟩ ⟨_, rfl, rfl, rfl⟩
      rw [← Settings.hasCalibrations_iff]
      simpa [hmethod] using hbusy

theorem decided_stages (level : Level) :
    Decided n s [.placement, .ranking, .routing, .translation, .timing] (level.stages s) := by
  unfold Level.stages
  -- every stage takes its own hindrances off the list
  refine Decided.bind (decided_layoutStage? level.policy_layout_ne) fun layout _ => ?_
  refine Decided.bind decided_routingStage? fun routing _ => ?_
  refine Decided.bind decided_translationStage? fun translation _ => ?_
  exact Decided.bind decided_schedulingStage? fun scheduling _ =>
    Decided.ok (List.forall_mem_nil _)

/-! ## The construction -/

theorem decided_dispatch : Decided n s Hindrance.all (dispatch n s).outcome := by
  rw [outcome_dispatch]
  refine Decided.bind decided_check fun level _ => ?_
  rw [Level.outcome_build]
  refine Decided.bind decided_checkLayout fun _ _ => ?_
  exact Decided.bind (decided_stages level) fun stages _ =>
    Decided.ok (List.forall_mem_nil _)

/-- There is a pipeline unless a hindrance stands. -/
theorem exists_dispatch_iff :
    (∃ p, (dispatch n s).outcome = .ok p) ↔ ∀ h, ¬Hindrance.Stands n s h := by
  have hdecided := decided_dispatch (n := n) (s := s)
  generalize (dispatch n s).outcome = outcome at hdecided ⊢
  cases hdecided with
  | @succeeds p hnone =>
    simp only [Except.ok.injEq, exists_eq', true_iff]
    intro h
    have hmem : h ∈ Hindrance.all := by cases h <;> decide
    have hnot := List.find?_eq_none.1 hnone h hmem
    rwa [decide_eq_true_iff] at hnot
  | @fails h e hfirst _ =>
    simp only [reduceCtorEq, exists_false, false_iff]
    intro hnot
    have hstands := List.find?_some (p := fun h => decide (Hindrance.Stands n s h)) hfirst
    exact hnot h (of_decide_eq_true hstands)

/-- The first hindrance that stands is reported. -/
theorem dispatch_fails {h : Hindrance} (hfirst : Hindrance.firstOf? n s Hindrance.all = some h) :
    ∃ e, (dispatch n s).outcome = .error e ∧ h.Reports n e := by
  have hdecided := decided_dispatch (n := n) (s := s)
  generalize (dispatch n s).outcome = outcome at hdecided ⊢
  cases hdecided with
  | succeeds hnone =>
    rw [hfirst] at hnone
    cases hnone
  | fails hfirst' hreport =>
    rw [hfirst] at hfirst'
    cases hfirst'
    exact ⟨_, rfl, hreport⟩

/-- An error reports a hindrance that stands. -/
theorem exists_hindrance {e : CompileError} (h : (dispatch n s).outcome = .error e) :
    ∃ hindrance, Hindrance.Stands n s hindrance ∧ hindrance.Reports n e := by
  have hdecided := decided_dispatch (n := n) (s := s)
  rw [h] at hdecided
  cases hdecided with
  | fails hfirst hreport =>
    have hstands := List.find?_some (p := fun h => decide (Hindrance.Stands n s h)) hfirst
    exact ⟨_, of_decide_eq_true hstands, hreport⟩

/-- **A pipeline is made unless a hindrance stands, and else the first one is reported.** -/
theorem dispatch_outcome (n : Int) (s : Settings) :
    match Hindrance.firstOf? n s Hindrance.all with
    | none => ∃ pipeline, (dispatch n s).outcome = .ok pipeline
    | some h => ∃ e, (dispatch n s).outcome = .error e ∧ h.Reports n e := by
  have hdecided := decided_dispatch (n := n) (s := s)
  cases hrun : (dispatch n s).outcome with
  | ok pipeline =>
    rw [hrun] at hdecided
    cases hdecided with
    | succeeds hnone =>
      rw [hnone]
      exact ⟨pipeline, rfl⟩
  | error e =>
    rw [hrun] at hdecided
    cases hdecided with
    | fails hfirst hreport =>
      rw [hfirst]
      exact ⟨e, rfl, hreport⟩

/-- Two hindrances stand here, of which the missing basis comes second. -/
example :
    Hindrance.firstOf? 1
      (.resolve none none { routingMethod := some .sabre, translationMethod := some .unroller })
      Hindrance.all = some .routing := by
  decide

end PresetPipeline
