import PresetPipeline.Proofs.Device.Projection
import PresetPipeline.Proofs.Preset.Composition
import PresetPipeline.Proofs.Preset.Failure
import PresetPipeline.Proofs.Settings.Precedence

/-!
# The sources of a run

A device is handed over as the target or as the backend. What a run makes of it in either place, and
what a target leaves to a backend.

* `stages_congr`, `dispatch_congr` — settings with the same values have the same stages, and the same
  outcome once their layouts are checked alike.
* `Target.Misfits` — an initial layout that only the place of the target refuses.
* `dispatch_exchanged`, `generate_exchanged` — a device makes the same pipelines in either place, and
  is refused for the same reason, unless the layout misfits.
* `Target.Settles` — the backend is not asked for a field. `Target.settles_of_ne` — a target leaves
  open two fields at most.
* `resolve_screened` — where every field is settled, the backend does not count.
* `generate_screened` — a target always settles the basis and the durations, and hides the backend
  where it also settles the graph and the properties.
-/

set_option autoImplicit false

namespace PresetPipeline

variable {n : Int} {s s' : Settings} {level : Level} {t : Target} {b b₁ b₂ : Option Descriptor}
  {e : Overrides} {f : DerivedField}

/-! ## Settings with the same values -/

/-- The stages do not depend on where the values come from. -/
theorem stages_congr (h : s.SameValues s') : level.stages s = level.stages s' := by
  unfold Settings.SameValues at h
  rw [← h]
  rfl

theorem dispatch_congr (h : s.SameValues s')
    (hcheck : 0 ≤ n ∧ n ≤ 3 → s.checkLayout = s'.checkLayout) :
    (dispatch n s).outcome = (dispatch n s').outcome :=
  dispatch_eq_of_stages hcheck fun _ => stages_congr h

/-- Resolutions of the same overrides have the same values if their derived fields agree. -/
theorem sameValues_of_derived {t₁ t₂ : Option Target}
    (h : ∀ f, (Settings.resolve t₁ b₁ e).derived f = (Settings.resolve t₂ b₂ e).derived f) :
    (Settings.resolve t₁ b₁ e).SameValues (.resolve t₂ b₂ e) := by
  unfold Settings.SameValues
  refine (Settings.mk.injEq ..).mpr ⟨rfl, h .basisGates, h .calibrationMap, h .connectivity,
    h .durations, h .deviceProperties, h .timingConstraints, ?_⟩
  exact ⟨rfl, rfl, rfl, rfl, rfl, rfl, rfl, rfl, rfl, rfl⟩

/-! ## A device in either place -/

/-- Nothing tells a graph, and the initial layout needs more qubits than the target has. -/
def Target.Misfits (t : Target) (e : Overrides) : Prop :=
  e.couplingMap = none ∧ t.couplingMap? = none ∧
    ∃ layout ∈ e.initialLayout,
      t.numQubits.toNat < layout.size ∨ ∃ pair ∈ layout.pairs, t.numQubits ≤ pair.2

instance (t : Target) (e : Overrides) : Decidable (t.Misfits e) :=
  inferInstanceAs (Decidable (_ ∧ _ ∧ ∃ layout ∈ e.initialLayout, _ ∨ ∃ pair ∈ layout.pairs, _))

/-- The first source that supplies a field is the device, in whichever place it is. -/
theorem derived_exchanged :
    (Settings.resolve none (some t.descriptor) e).derived f =
      (Settings.resolve (some t) none e).derived f := by
  rw [Settings.isMerge_resolve.value, Settings.isMerge_resolve.value]
  simp only [supplied, Option.bind_none, Option.bind_some, Option.none_or, Option.or_none]

theorem couplingMap_resolve_target :
    (Settings.resolve (some t) none e).couplingMap = e.couplingMap.or t.couplingMap? := by
  have hvalue := (Settings.isMerge_resolve (t := some t) (b := none) (e := e)).value .connectivity
  simp only [supplied, Option.bind_none, Option.bind_some, Option.or_none] at hvalue
  exact hvalue

theorem couplingMap_exchanged :
    (Settings.resolve none (some t.descriptor) e).couplingMap =
      (Settings.resolve (some t) none e).couplingMap :=
  derived_exchanged (f := .connectivity)

theorem Target.Misfits.couplingMap_resolve (h : t.Misfits e) :
    (Settings.resolve (some t) none e).couplingMap = none := by
  rw [couplingMap_resolve_target, h.1, h.2.1]
  rfl

/-- Without a graph a target is asked how many qubits it has. -/
theorem misfit_stands_iff (hgraph : (Settings.resolve (some t) none e).couplingMap = none) :
    Hindrance.misfit.Stands n (.resolve (some t) none e) ↔ t.Misfits e := by
  constructor
  · rintro ⟨layout, hlayout, count, hcount, hlarge⟩
    rw [hgraph] at hcount
    cases hcount
    rw [couplingMap_resolve_target, Option.or_eq_none_iff] at hgraph
    exact ⟨hgraph.1, hgraph.2, layout, hlayout, hlarge⟩
  · rintro ⟨-, -, layout, hlayout, hlarge⟩
    refine ⟨layout, hlayout, t.numQubits, ?_, hlarge⟩
    rw [hgraph]
    rfl

/-- A backend without a graph is not. -/
theorem not_misfit_stands (hgraph : (Settings.resolve none b e).couplingMap = none) :
    ¬Hindrance.misfit.Stands n (.resolve none b e) := by
  rintro ⟨-, -, count, hcount, -⟩
  rw [hgraph] at hcount
  cases hcount

theorem checkLayout_exchanged (h : ¬t.Misfits e) :
    (Settings.resolve none (some t.descriptor) e).checkLayout =
      (Settings.resolve (some t) none e).checkLayout := by
  cases hgraph : (Settings.resolve (some t) none e).couplingMap with
  | some m =>
    have hgraph' := couplingMap_exchanged.trans hgraph
    unfold Settings.checkLayout Settings.numPhysical?
    rw [hgraph, hgraph']
    rfl
  | none =>
    have hbackend := not_misfit_stands (n := 0) (couplingMap_exchanged.trans hgraph)
    have htarget : ¬Hindrance.misfit.Stands 0 (.resolve (some t) none e) :=
      mt (misfit_stands_iff hgraph).1 h
    rw [Settings.checkLayout_eq_ok_iff.2 hbackend, Settings.checkLayout_eq_ok_iff.2 htarget]

/-- In place of the target the layout is refused. -/
theorem dispatch_misfits_target (hn : 0 ≤ n ∧ n ≤ 3) (h : t.Misfits e) :
    ∃ fault, (dispatch n (.resolve (some t) none e)).outcome = .error (.invalidLayout fault) := by
  have hmisfit : Hindrance.misfit.Stands n (.resolve (some t) none e) :=
    (misfit_stands_iff h.couplingMap_resolve).2 h
  have hfirst : Hindrance.firstOf? n (.resolve (some t) none e) Hindrance.all = some .misfit := by
    refine (Hindrance.firstOf?_cons_of_not ?_).trans (Hindrance.firstOf?_cons_of_stands hmisfit)
    exact not_not_intro hn
  obtain ⟨err, hrun, fault, rfl⟩ := dispatch_fails hfirst
  exact ⟨fault, hrun⟩

/-- In place of the backend there is no graph to place the layout on. -/
theorem dispatch_misfits_backend (hn : 0 ≤ n ∧ n ≤ 3) (h : t.Misfits e) :
    ∃ err, (dispatch n (.resolve none (some t.descriptor) e)).outcome = .error err ∧
      err.Lacks .layout .connectivity := by
  have hgraph := couplingMap_exchanged.trans h.couplingMap_resolve
  have hplaces : Hindrance.placement.Stands n (.resolve none (some t.descriptor) e) := by
    obtain ⟨-, -, layout, hlayout, -⟩ := h
    refine ⟨hgraph, .inr ?_⟩
    show e.initialLayout ≠ none
    rw [hlayout]
    exact Option.some_ne_none layout
  have hfirst :
      Hindrance.firstOf? n (.resolve none (some t.descriptor) e) Hindrance.all =
        some .placement := by
    refine (Hindrance.firstOf?_cons_of_not ?_).trans ?_
    · exact not_not_intro hn
    · refine (Hindrance.firstOf?_cons_of_not (not_misfit_stands hgraph)).trans ?_
      exact Hindrance.firstOf?_cons_of_stands hplaces
  exact dispatch_fails hfirst

theorem dispatch_exchanged (h : ¬((0 ≤ n ∧ n ≤ 3) ∧ t.Misfits e)) :
    (dispatch n (.resolve none (some t.descriptor) e)).outcome =
      (dispatch n (.resolve (some t) none e)).outcome := by
  apply dispatch_congr
  · exact sameValues_of_derived fun _ => derived_exchanged
  · intro hn
    exact checkLayout_exchanged fun hmisfits => h ⟨hn, hmisfits⟩

/-- **A device makes the same pipelines in either place.** It is also refused for the same reason,
unless nothing tells a graph and the layout does not fit: the target is then asked for the fit, and
the backend for the graph. -/
theorem generate_exchanged (n : Int) (t : Target) (e : Overrides) :
    (∀ p, (generate n (some t.descriptor) none e).outcome = .ok p ↔
        (generate n none (some t) e).outcome = .ok p) ∧
      if (0 ≤ n ∧ n ≤ 3) ∧ t.Misfits e then
        (∃ fault, (generate n none (some t) e).outcome = .error (.invalidLayout fault)) ∧
          ∃ err, (generate n (some t.descriptor) none e).outcome = .error err ∧
            err.Lacks .layout .connectivity
      else
        (generate n (some t.descriptor) none e).outcome = (generate n none (some t) e).outcome := by
  rw [outcome_generate, outcome_generate]
  by_cases h : (0 ≤ n ∧ n ≤ 3) ∧ t.Misfits e
  · obtain ⟨fault, htarget⟩ := dispatch_misfits_target h.1 h.2
    obtain ⟨err, hbackend, hlacks⟩ := dispatch_misfits_backend h.1 h.2
    rw [if_pos h]
    refine ⟨fun p => ?_, ⟨fault, htarget⟩, err, hbackend, hlacks⟩
    rw [htarget, hbackend]
    simp only [reduceCtorEq]
  · have hsame := dispatch_exchanged h
    rw [if_neg h]
    refine ⟨fun p => ?_, hsame⟩
    rw [hsame]

/-- The layout of two qubits is refused as too large for the one qubit in place of the target, and for
want of a graph in place of the backend. -/
theorem generate_exchanged_stray :
    (∃ fault, (generate 1 none (some (.new "bare" 1)) { initialLayout := some (.trivial 2) }).outcome =
        .error (.invalidLayout fault)) ∧
      ∃ err, (generate 1 (some (Target.new "bare" 1).descriptor) none
          { initialLayout := some (.trivial 2) }).outcome = .error err ∧
        err.Lacks .layout .connectivity := by
  have hexchanged := generate_exchanged 1 (.new "bare" 1) { initialLayout := some (.trivial 2) }
  rw [if_pos (by decide)] at hexchanged
  exact hexchanged.2

/-! ## A backend behind a target -/

/-- The backend is not asked for the field. -/
def Target.Settles (t : Target) (e : Overrides) (f : DerivedField) : Prop :=
  e.derived f ≠ none ∨ t.descriptor.derived f ≠ none

/-- A target may be without a graph or without properties, but nothing else is missing. -/
theorem Target.settles_of_ne (hgraph : f ≠ .connectivity) (hproperties : f ≠ .deviceProperties) :
    t.Settles e f := by
  refine .inr ?_
  cases f with
  | connectivity => exact absurd rfl hgraph
  | deviceProperties => exact absurd rfl hproperties
  | basisGates => exact Option.some_ne_none t.operationNames
  | durations => exact Option.some_ne_none t.durations
  | calibrationMap => exact Option.some_ne_none t.schedules
  | timingConstraints => exact Option.some_ne_none t.timing

theorem source_ne_backend (h : t.Settles e f) :
    (Settings.resolve (some t) b e).provenance.source f ≠ .backend := by
  intro hsource
  have hfirst := congrArg Prod.snd (Settings.resolve_derived (t := some t) (b := b) (e := e) (f := f))
  obtain ⟨hoverride, htarget, -⟩ := firstOf_snd_eq_backend.1 (hfirst.symm.trans hsource)
  cases h with
  | inl h => exact h hoverride
  | inr h => exact h htarget

/-- Provenances that agree on every field are equal. -/
theorem Provenance.ext_source {p p' : Provenance} (h : ∀ f, p.source f = p'.source f) : p = p' :=
  (Provenance.mk.injEq ..).mpr ⟨h .connectivity, h .basisGates, h .durations, h .calibrationMap,
    h .timingConstraints, h .deviceProperties⟩

/-- Where the overrides or the target settle every field, the settings are the same with any
backend. -/
theorem resolve_screened (h : ∀ f, t.Settles e f) :
    Settings.resolve (some t) b₁ e = Settings.resolve (some t) b₂ e := by
  have hfield : ∀ f,
      ((Settings.resolve (some t) b₁ e).derived f,
          (Settings.resolve (some t) b₁ e).provenance.source f) =
        ((Settings.resolve (some t) b₂ e).derived f,
          (Settings.resolve (some t) b₂ e).provenance.source f) := by
    intro f
    rw [Settings.resolve_derived, Settings.resolve_derived]
    exact firstOf_screened (h f)
  have hvalues := sameValues_of_derived fun f => congrArg Prod.fst (hfield f)
  have hprovenance : (Settings.resolve (some t) b₁ e).provenance =
      (Settings.resolve (some t) b₂ e).provenance :=
    Provenance.ext_source fun f => congrArg Prod.snd (hfield f)
  unfold Settings.SameValues at hvalues
  rw [← hprovenance] at hvalues
  exact hvalues

/-- What is reported as missing is missing. -/
theorem derived_eq_none_of_lacks {err : CompileError} {stage : StageKind}
    (hrun : (dispatch n s).outcome = .error err) (h : err.Lacks stage f) : s.derived f = none := by
  obtain ⟨hindrance, hstands, hreport⟩ := exists_hindrance hrun
  cases hindrance with
  | level =>
    obtain ⟨need, rfl, -⟩ := h
    cases hreport
  | misfit =>
    obtain ⟨need, rfl, -⟩ := h
    obtain ⟨fault, heq⟩ := hreport
    cases heq
  | placement =>
    cases h.field_unique hreport
    exact hstands.1
  | ranking =>
    cases h.field_unique hreport
    exact hstands.2.2.2
  | routing =>
    cases h.field_unique hreport
    exact hstands.1
  | translation =>
    cases h.field_unique hreport
    exact hstands.1
  | timing =>
    cases h.field_unique hreport
    exact hstands.1

theorem not_lacks_of_settles {err : CompileError} {stage : StageKind} (hsettles : t.Settles e f)
    (hrun : (dispatch n (.resolve (some t) b e)).outcome = .error err) : ¬err.Lacks stage f := by
  intro hlacks
  have hvalue := derived_eq_none_of_lacks hrun hlacks
  rw [Settings.isMerge_resolve.value, Option.or_eq_none_iff, Option.or_eq_none_iff] at hvalue
  obtain ⟨hoverride, htarget, -⟩ := hvalue
  cases hsettles with
  | inl h => exact h hoverride
  | inr h => exact h htarget

/-- **A target screens off the backend.** The backend is asked for the graph and for the properties
only, so the basis and the durations are never missing. If these two are settled as well, any two
backends give the same pipeline, or the same error. -/
theorem generate_screened (n : Int) (t : Target) (e : Overrides) (b₁ b₂ : Option Descriptor) :
    (∀ f, (Settings.resolve (some t) b₁ e).provenance.source f = .backend →
        f = .connectivity ∨ f = .deviceProperties) ∧
      (∀ err stage, (generate n b₁ (some t) e).outcome = .error err →
        ¬err.Lacks stage .basisGates ∧ ¬err.Lacks stage .durations) ∧
      ((e.couplingMap ≠ none ∨ ∃ i ∈ t.instructions.keys, i.qubits.length = 2) ∧
          (e.properties ≠ none ∨ t.properties? ≠ none) →
        (generate n b₁ (some t) e).outcome = (generate n b₂ (some t) e).outcome) := by
  rw [outcome_generate, outcome_generate]
  refine ⟨fun f hsource => ?_, fun err stage hrun => ?_, fun ⟨hgraph, hproperties⟩ => ?_⟩
  · refine Decidable.byContradiction fun hne => ?_
    rw [not_or] at hne
    exact source_ne_backend (Target.settles_of_ne hne.1 hne.2) hsource
  · constructor
    · exact not_lacks_of_settles (Target.settles_of_ne (by decide) (by decide)) hrun
    · exact not_lacks_of_settles (Target.settles_of_ne (by decide) (by decide)) hrun
  · have hsettles : ∀ f, t.Settles e f := by
      intro f
      by_cases hf : f = .connectivity
      · subst hf
        exact hgraph.imp_right Target.couplingMap?_ne_none_iff.2
      · by_cases hf' : f = .deviceProperties
        · subst hf'
          exact hproperties
        · exact Target.settles_of_ne hf hf'
    rw [resolve_screened hsettles]

/-- Two qubits with one instruction, whose duration and error are known. -/
def Target.ratedPair : Target := (Target.new "pair" 2).add "cx" [0, 1] ⟨some 3e-7, some 0.01, none⟩

/-- A device with another graph. -/
def Target.chain : Target := (Target.new "chain" 3).add "cz" [1, 2] ⟨none, none, none⟩

/-- The pair tells a graph and properties, so the other graph is not looked at. -/
theorem generate_screened_ratedPair :
    (generate 2 (some Target.chain.descriptor) (some .ratedPair) {}).outcome =
      (generate 2 none (some .ratedPair) {}).outcome := by
  have hscreened := (generate_screened 2 .ratedPair {} (some Target.chain.descriptor) none).2.2
  refine hscreened ⟨.inr ⟨⟨"cx", [0, 1]⟩, ?_, rfl⟩, .inr ?_⟩
  · decide
  · exact Option.isSome_iff_ne_none.1 rfl

end PresetPipeline
