import PresetPipeline.Proofs.Device.Symmetry
import PresetPipeline.Proofs.Preset.Vocabulary

/-!
# Directions in a pipeline

Gates are turned around exactly where the graph has an edge without its reverse.

* `CouplingMap.IsDirected` — the graph has such an edge. `isSymmetric_eq_false_iff` — the test finds it.
* `directionPasses_of_isDirected`, `directionPasses_of_not` — what the translation adds for a graph.
* `Stage.Turns` — a translation that turns gates around after the circuit is in the basis.
* `Pipeline.FollowsGraph` — a pipeline turns gates around in such a stage and nowhere else, or not at
  all. `followsGraph_of_dispatch` — every pipeline does so.
* `direction_followsGraph` — from the edges that are listed to the passes of the pipeline.
-/

set_option autoImplicit false

namespace PresetPipeline

variable {n : Int} {s : Settings} {p : Pipeline} {m : CouplingMap} {b : BasisGates}
  {method : TranslationMethod}

/-- Some edge of the graph has no reverse. -/
def CouplingMap.IsDirected (m : CouplingMap) : Prop :=
  ∃ e ∈ m.edges.toList, e.reverse ∉ m.edges.toList

theorem CouplingMap.isSymmetric_eq_false_iff : m.isSymmetric = false ↔ m.IsDirected := by
  rw [← Bool.not_eq_true, isSymmetric_iff, IsDirected]
  push Not
  rfl

/-! ## The passes for a graph -/

/-- A rewrite along the edges of a graph that is made where a gate was found against its edge. -/
structure Pass.TurnsAround (p : Pass) (m : CouplingMap) : Prop where
  name_eq : p.name = "GateDirection"
  kind_eq : p.kind = .transformation
  condition_eq : p.condition = some .directionMismatch
  edges : p.arg? "coupling_map" = some m.listing

theorem turnsAround_gateDirection :
    (((Pass.transformation "GateDirection").withEdges m).guardedBy .directionMismatch).TurnsAround m :=
  ⟨rfl, rfl, rfl, by simp [Pass.withEdges, edgesArg_eq]⟩

theorem directionPasses_of_isDirected (hm : s.couplingMap = some m) (h : m.IsDirected) :
    ∃ check turn, directionPasses s = [check, turn] ∧ check.Analyses "CheckGateDirection" m ∧
      turn.TurnsAround m := by
  have hfilter : (s.couplingMap.filter fun m => !m.isSymmetric) = some m := by
    rw [hm, Option.filter_some, CouplingMap.isSymmetric_eq_false_iff.2 h]
    rfl
  unfold directionPasses
  rw [hfilter]
  exact ⟨_, _, rfl, analyses_withEdges, turnsAround_gateDirection⟩

theorem directionPasses_of_not (h : ∀ m ∈ s.couplingMap, ¬m.IsDirected) : directionPasses s = [] := by
  have hfilter : (s.couplingMap.filter fun m => !m.isSymmetric) = none := by
    rw [Option.filter_eq_none_iff]
    intro m hm hdirected
    exact h m hm (CouplingMap.isSymmetric_eq_false_iff.1 (by simpa using hdirected))
  unfold directionPasses
  rw [hfilter]

/-! ## The stage that turns gates around -/

/-- A translation that checks the directions along a graph and turns gates around right after, once
the circuit is in the basis. Only schedules are attached later. -/
structure Stage.Turns (stage : Stage) (m : CouplingMap) (check turn : Pass) : Prop where
  kind_eq : stage.kind = .translation
  checks : check.Analyses "CheckGateDirection" m
  turns : turn.TurnsAround m
  place : ∃ before after, stage.passes = before ++ check :: turn :: after ∧ before ≠ [] ∧
    (∀ q ∈ before, q.name ∈ basisNames) ∧ ∀ q ∈ after, q.name = "PulseGates"

/-- A pipeline turns gates around if the graph asks for it and the basis is known: in one place of a
translation, and in no other. -/
structure Pipeline.FollowsGraph (p : Pipeline) (s : Settings) : Prop where
  turned : ∀ m ∈ s.couplingMap, m.IsDirected → s.basisGates ≠ none →
    ∃ stage ∈ p.stages, ∃ check turn, stage.Turns m check turn ∧
      p.named directionNames = [check, turn]
  straight : (∀ m ∈ s.couplingMap, ¬m.IsDirected) → p.named directionNames = []
  unbased : s.basisGates = none → p.named directionNames = []

/-- No other kind of stage has passes for directions. -/
theorem owns_directionNames : StageKind.translation.Owns directionNames := by
  intro kind hkind
  cases kind with
  | translation => exact absurd rfl hkind
  | init => decide
  | layout => decide
  | routing => decide
  | optimization => decide
  | scheduling => decide

/-- Of the passes of a translation only those that are added for the graph have to do with
directions. -/
theorem named_translation :
    (Stage.once .translation (basisPasses method s b ++ directionPasses s ++ pulsePasses s)).named
      directionNames = directionPasses s := by
  have hbasis : (basisPasses method s b).filter (·.name ∈ directionNames) = [] := by
    have hapart : ∀ name ∈ basisNames, name ∉ directionNames := by decide
    rw [List.filter_eq_nil_iff]
    intro q hq
    rw [decide_eq_true_iff]
    exact hapart q.name (names_basisPasses q hq)
  have hdirection : (directionPasses s).filter (·.name ∈ directionNames) = directionPasses s := by
    rw [List.filter_eq_self]
    intro q hq
    rw [decide_eq_true_iff]
    exact names_directionPasses q hq
  have hpulse : (pulsePasses s).filter (·.name ∈ directionNames) = [] := by
    rw [List.filter_eq_nil_iff]
    intro q hq
    rw [decide_eq_true_iff, names_pulsePasses q hq]
    decide
  show List.filter _ (_ ++ _ ++ _) = _
  rw [List.filter_append, List.filter_append, hbasis, hdirection, hpulse, List.nil_append,
    List.append_nil]

/-- The passes for directions come between the basis and the schedules. -/
theorem turns_translation {check turn : Pass} (hpasses : directionPasses s = [check, turn])
    (hcheck : check.Analyses "CheckGateDirection" m) (hturn : turn.TurnsAround m) :
    (Stage.once .translation (basisPasses method s b ++ directionPasses s ++ pulsePasses s)).Turns m
      check turn := by
  refine ⟨rfl, hcheck, hturn, basisPasses method s b, pulsePasses s, ?_, ?_, names_basisPasses,
    names_pulsePasses⟩
  · rw [hpasses, List.append_assoc]
    rfl
  · cases method <;> exact List.cons_ne_nil _ _

/-- The passes for directions of a pipeline are those of its translation. -/
theorem followsGraph_of_dispatch (h : (dispatch n s).outcome = .ok p) : p.FollowsGraph s := by
  have hnamed := named_of_dispatch h owns_directionNames
  obtain ⟨hb, hstage⟩ | ⟨b, hb, hstage⟩ := translationStage?_eq_ok (stageOf_of_dispatch h .translation)
  · rw [hstage] at hnamed
    exact ⟨fun _ _ _ hbased => absurd hb hbased, fun _ => hnamed, fun _ => hnamed⟩
  · have hall : p.named directionNames = directionPasses s := by
      rw [hnamed, hstage, Option.map_some, Option.getD_some, named_translation]
    constructor
    case turned =>
      intro m hm hdirected _
      obtain ⟨check, turn, hpasses, hcheck, hturn⟩ := directionPasses_of_isDirected hm hdirected
      refine ⟨_, List.mem_of_find?_eq_some hstage, check, turn,
        turns_translation hpasses hcheck hturn, ?_⟩
      rw [hall, hpasses]
    case straight =>
      intro hstraight
      rw [hall, directionPasses_of_not hstraight]
    case unbased =>
      intro hnone
      rw [hb] at hnone
      cases hnone

/-- **The passes for directions follow the graph, and the graph follows the edges that are listed.** A
graph counts as symmetric exactly if its edges are closed under reversal. With both directions of every
edge it is symmetric, and the chain connects neighbours only, at every count of qubits. -/
theorem direction_followsGraph :
    (∀ m : CouplingMap,
      m.isSymmetric = true ↔ ∀ e ∈ m.edges.toList, e.reverse ∈ m.edges.toList) ∧
    (∀ n edges, (CouplingMap.bidirectional n edges).isSymmetric = true ∧
      ∀ a b, (CouplingMap.bidirectional n edges).isConnected a b = true ↔
        (⟨a, b⟩ ∈ edges ∨ ⟨b, a⟩ ∈ edges) ∧ a ≠ topQubit ∧ b ≠ topQubit) ∧
    (∀ n, CouplingMap.checkedLinear n = some (.linear n) ∧ (CouplingMap.linear n).numQubits = n ∧
      ∀ a b, (CouplingMap.linear n).isConnected a b = true ↔
        a < n ∧ b < n ∧ ((a.toNat : Int) - b.toNat).natAbs = 1) ∧
    ∀ n s p, (dispatch n s).outcome = .ok p → p.FollowsGraph s := by
  refine ⟨fun m => CouplingMap.isSymmetric_iff, ?_, ?_, ?_⟩
  · intro n edges
    refine ⟨CouplingMap.isSymmetric_bidirectional n edges, ?_⟩
    exact fun a b => CouplingMap.isConnected_bidirectional
  · intro n
    refine ⟨CouplingMap.checkedLinear_eq n, CouplingMap.numQubits_linear n, ?_⟩
    exact fun a b => CouplingMap.isConnected_linear
  · intro n s p h
    exact followsGraph_of_dispatch h

/-- Two qubits with an edge in one direction only. -/
def arrow : Settings :=
  .resolve none none { couplingMap := some (.ofEdges 2 [⟨1, 0⟩]), basisGates := some .ibm }

/-- On the arrow gates are turned around. Its chain is connected both ways, but not to itself. -/
theorem direction_followsGraph_arrow :
    (CouplingMap.linear 2).isConnected 0 1 = true ∧ (CouplingMap.linear 2).isConnected 1 1 = false ∧
      ∃ p, (dispatch 1 arrow).outcome = .ok p ∧ ∃ stage ∈ p.stages, ∃ check turn,
        stage.Turns (.ofEdges 2 [⟨1, 0⟩]) check turn ∧ p.named directionNames = [check, turn] := by
  obtain ⟨-, -, hchain, hfollows⟩ := direction_followsGraph
  obtain ⟨-, -, hconnected⟩ := hchain 2
  refine ⟨(hconnected 0 1).2 (by decide), ?_, ?_⟩
  · rw [Bool.eq_false_iff, ne_eq, hconnected]
    decide
  · have hnot : ∀ h, ¬Hindrance.Stands 1 arrow h := by
      intro h
      cases h <;> decide
    obtain ⟨p, hp⟩ := exists_dispatch_iff.2 hnot
    have hdirected : (CouplingMap.ofEdges 2 [⟨1, 0⟩]).IsDirected := by
      refine ⟨⟨1, 0⟩, CouplingMap.mem_edges_ofEdges.2 (by decide), fun hmem => ?_⟩
      exact absurd (CouplingMap.mem_edges_ofEdges.1 hmem) (by decide)
    exact ⟨p, hp, (hfollows 1 arrow p hp).turned _ rfl hdirected (by decide)⟩

end PresetPipeline
