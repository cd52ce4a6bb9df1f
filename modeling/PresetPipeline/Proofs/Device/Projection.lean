import PresetPipeline.Proofs.Device.Connectivity
import PresetPipeline.Device.Target

/-!
# Projections of a target

What the graph, the operations, the schedules and the durations of a target tell of its table, and what
they tell of the registrations that the table is built from.

* `couplingMap?_eq_none_iff`, `isGraphOf_couplingMap?` — there is a graph exactly if there is an
  instruction on two qubits, and it is the graph of these.
* `mem_operationNames_iff`, `find?_schedules`, `find?_durations` — the other projections, by look-up.
* `Target.Step`, `Target.after` — a target is built step by step.
* `instructions_after` — the table holds the registrations among the steps; `find?_after` — of an
  instruction it holds the last one. `numQubits_after` — no step changes the count of qubits.
* `Target.IsProjectionOf` — a target tells what the last registrations say.
* `isProjectionOf_after` — every target that is built from the empty one does.
-/

set_option autoImplicit false

namespace PresetPipeline.Target

variable {t : Target} {i : Instruction} {name : String} {qubits : List Qubit} {a b : Qubit}

/-! ## The graph -/

theorem edgeOf?_eq_some {e : Edge} : edgeOf? i = some e ↔ i.qubits = [e.control, e.target] := by
  unfold edgeOf?
  split
  · rename_i x y hqs
    rw [hqs]
    constructor
    · intro h
      cases h
      rfl
    · intro h
      cases h
      rfl
  · rename_i hqs
    constructor
    · intro h
      cases h
    · intro h
      exact absurd h (hqs _ _)

theorem edgeOf?_ne_none_iff : edgeOf? i ≠ none ↔ i.qubits.length = 2 := by
  obtain ⟨name, qubits⟩ := i
  match qubits with
  | [] => simp [edgeOf?]
  | [a] => simp [edgeOf?]
  | [a, b] => simp [edgeOf?]
  | a :: b :: c :: rest => simp [edgeOf?]

/-- The listed edges are those of the instructions on two qubits. -/
theorem mem_edges_iff {e : Edge} :
    e ∈ t.instructions.keys.filterMap edgeOf? ↔
      ∃ name, ⟨name, [e.control, e.target]⟩ ∈ t.instructions.keys := by
  rw [List.mem_filterMap]
  constructor
  · rintro ⟨⟨name, qubits⟩, hmem, hedge⟩
    have hqubits : qubits = [e.control, e.target] := edgeOf?_eq_some.1 hedge
    exact ⟨name, hqubits ▸ hmem⟩
  · rintro ⟨name, hmem⟩
    exact ⟨_, hmem, edgeOf?_eq_some.2 rfl⟩

/-- A target has a graph exactly if it has an instruction on two qubits. -/
theorem couplingMap?_ne_none_iff :
    t.couplingMap? ≠ none ↔ ∃ i ∈ t.instructions.keys, i.qubits.length = 2 := by
  have hedges : t.couplingMap? ≠ none ↔ t.instructions.keys.filterMap edgeOf? ≠ [] := by
    unfold couplingMap?
    by_cases hnil : t.instructions.keys.filterMap edgeOf? = []
    · simp [hnil]
    · simp [hnil, List.isEmpty_iff]
  rw [hedges, ne_eq, List.filterMap_eq_nil_iff]
  simp only [← edgeOf?_ne_none_iff, Classical.not_forall, exists_prop, ne_eq]

theorem couplingMap?_eq_none_iff :
    t.couplingMap? = none ↔ ∀ i ∈ t.instructions.keys, i.qubits.length ≠ 2 := by
  constructor
  · intro hnone i hi hlength
    exact couplingMap?_ne_none_iff.2 ⟨i, hi, hlength⟩ hnone
  · intro h
    refine Classical.byContradiction fun hsome => ?_
    obtain ⟨i, hi, hlength⟩ := couplingMap?_ne_none_iff.1 hsome
    exact h i hi hlength

theorem isGraphOf_couplingMap? {m : CouplingMap} (h : t.couplingMap? = some m) :
    m.IsGraphOf t.numQubits (t.instructions.keys.filterMap edgeOf?) := by
  simp only [couplingMap?] at h
  split at h
  · cases h
  · cases h
    exact CouplingMap.isGraphOf_ofEdges _ _

/-! ## Look-ups -/

theorem mem_operationNames_iff :
    name ∈ t.operationNames.toList ↔ ∃ qubits, ⟨name, qubits⟩ ∈ t.instructions.keys := by
  unfold operationNames
  rw [SortedSet.mem_ofList, List.mem_map]
  constructor
  · rintro ⟨⟨_, qubits⟩, hmem, rfl⟩
    exact ⟨qubits, hmem⟩
  · rintro ⟨qubits, hmem⟩
    exact ⟨⟨name, qubits⟩, hmem, rfl⟩

theorem find?_schedules (t : Target) (i : Instruction) :
    t.schedules.find? i = (t.instructions.find? i).bind (·.calibration) :=
  SortedMap.find?_ofList_filterMap t.instructions (·.calibration) i

/-- An instruction without a duration has the one of its operation on no qubits. -/
theorem find?_durations (t : Target) (name : String) (qubits : List Qubit) :
    t.durations.find? name qubits =
      ((t.instructions.find? ⟨name, qubits⟩).bind (·.duration)).or
        ((t.instructions.find? ⟨name, []⟩).bind (·.duration)) := by
  have htable : ∀ i, t.durations.table.find? i = (t.instructions.find? i).bind (·.duration) :=
    SortedMap.find?_ofList_filterMap t.instructions (·.duration)
  rw [Durations.find?, htable, htable]

/-! ## Targets built step by step -/

/-- A step in the building of a target. -/
inductive Step where
  | sampleTime (dt : Float)
  | timing (constraints : TimingConstraints)
  | qubits (records : List QubitProperties)
  | register (i : Instruction) (data : InstructionData)

/-- A setting is replaced, or an instruction is registered. -/
def apply (t : Target) : Step → Target
  | .sampleTime dt => { t with dt := some dt }
  | .timing constraints => { t with timing := constraints }
  | .qubits records => { t with qubits := records }
  | .register i data => t.add i.name i.qubits data

/-- The target after some steps. -/
def after (t : Target) (steps : List Step) : Target := steps.foldl apply t

/-- The instruction that a step registers, and its data. -/
def Step.registration? : Step → Option (Instruction × InstructionData)
  | .register i data => some (i, data)
  | _ => none

/-- The registrations among the steps, in order. -/
def registered (steps : List Step) : List (Instruction × InstructionData) :=
  steps.filterMap Step.registration?

/-- What the last step that registers an instruction says of it. -/
def last? (steps : List Step) (i : Instruction) : Option InstructionData :=
  ((registered steps).filter (·.1 == i)).getLast?.map (·.2)

variable {steps : List Step} {step : Step} {data : InstructionData}

theorem mem_registered : (i, data) ∈ registered steps ↔ .register i data ∈ steps := by
  unfold registered
  rw [List.mem_filterMap]
  constructor
  · rintro ⟨step, hmem, hstep⟩
    cases step with
    | register j data' =>
      cases hstep
      exact hmem
    | sampleTime dt => cases hstep
    | timing constraints => cases hstep
    | qubits records => cases hstep
  · intro hmem
    exact ⟨_, hmem, rfl⟩

theorem instructions_apply (t : Target) (step : Step) :
    (t.apply step).instructions = t.instructions.insertAll step.registration?.toList := by
  cases step with
  | register i data => rfl
  | sampleTime dt => rfl
  | timing constraints => rfl
  | qubits records => rfl

theorem instructions_after (t : Target) (steps : List Step) :
    (t.after steps).instructions = t.instructions.insertAll (registered steps) := by
  induction steps generalizing t with
  | nil => rfl
  | cons step rest ih =>
    have hsplit : registered (step :: rest) = step.registration?.toList ++ registered rest := by
      unfold registered
      rw [List.filterMap_cons]
      cases step.registration? with
      | none => rfl
      | some registration => rfl
    have hstep : t.after (step :: rest) = (t.apply step).after rest := rfl
    rw [hstep, ih, instructions_apply, hsplit, SortedMap.insertAll_append]

theorem numQubits_after (t : Target) (steps : List Step) :
    (t.after steps).numQubits = t.numQubits := by
  induction steps generalizing t with
  | nil => rfl
  | cons step rest ih =>
    have hstep : (t.apply step).numQubits = t.numQubits := by
      cases step with
      | register i data => rfl
      | sampleTime dt => rfl
      | timing constraints => rfl
      | qubits records => rfl
    exact (ih (t.apply step)).trans hstep

/-- An earlier registration is replaced by a later one. -/
theorem find?_after (name : String) (n : Qubit) (steps : List Step) (i : Instruction) :
    ((new name n).after steps).instructions.find? i = last? steps i := by
  have hlast : (registered steps).reverse.lookup i = last? steps i := by
    have hlookup :=
      lookup_reverse_filterMap Prod.fst (fun e => some e.2) i (registered steps)
    simp only [Option.map_some, List.filterMap_eq_map', List.map_id',
      List.getLast?_map] at hlookup
    exact hlookup
  rw [instructions_after]
  exact (SortedMap.find?_ofList (registered steps) i).trans hlast

theorem mem_keys_after {n : Qubit} :
    i ∈ ((new name n).after steps).instructions.keys ↔ ∃ data, .register i data ∈ steps := by
  rw [instructions_after]
  simp only [← mem_registered]
  exact SortedMap.mem_keys_ofList

/-- What a target tells is what the last registrations among the steps say. The edges are those of the
instructions on two qubits below the highest number, and the count of the graph is the given one or one
more than the highest end. A duration that an instruction does not have is that of the operation on no
qubits. -/
structure IsProjectionOf (t : Target) (n : Qubit) (steps : List Step) : Prop where
  graphless : t.couplingMap? = none ↔ ∀ i data, .register i data ∈ steps → i.qubits.length ≠ 2
  connected : ∀ m ∈ t.couplingMap?, ∀ a b, m.isConnected a b = true ↔
    (∃ name data, .register ⟨name, [a, b]⟩ data ∈ steps) ∧ a ≠ topQubit ∧ b ≠ topQubit
  counted : ∀ m ∈ t.couplingMap?,
    IsGreatest (insert n.toNat
        {k | ∃ a b, m.isConnected a b = true ∧ (k = a.toNat + 1 ∨ k = b.toNat + 1)})
      m.numQubits.toNat
  operations : ∀ name, name ∈ t.operationNames.toList ↔
    ∃ qubits data, .register ⟨name, qubits⟩ data ∈ steps
  calibrated : ∀ i, t.schedules.find? i = (last? steps i).bind (·.calibration)
  timed : ∀ name qubits, t.durations.find? name qubits =
    ((last? steps ⟨name, qubits⟩).bind (·.duration)).or
      ((last? steps ⟨name, []⟩).bind (·.duration))

/-- **What a target tells is what its last registrations say**, whatever else was set or registered on
the way. -/
theorem isProjectionOf_after (name : String) (n : Qubit) (steps : List Step) :
    ((new name n).after steps).IsProjectionOf n steps := by
  have hcount : ((new name n).after steps).numQubits = n := numQubits_after _ steps
  constructor
  case graphless =>
    rw [couplingMap?_eq_none_iff]
    simp only [mem_keys_after, forall_exists_index]
  case connected =>
    intro m hm a b
    rw [CouplingMap.isConnected_iff, (isGraphOf_couplingMap? hm).listed, mem_edges_iff]
    simp only [mem_keys_after]
  case counted =>
    intro m hm
    have hgreatest := (isGraphOf_couplingMap? hm).isGreatest_numQubits
    rw [hcount] at hgreatest
    have hends : {k | ∃ e ∈ m.edges.toList, k = e.control.toNat + 1 ∨ k = e.target.toNat + 1} =
        {k | ∃ a b, m.isConnected a b = true ∧ (k = a.toNat + 1 ∨ k = b.toNat + 1)} := by
      ext k
      simp only [Set.mem_ofPred_eq, CouplingMap.isConnected_iff]
      constructor
      · rintro ⟨e, he, hk⟩
        exact ⟨e.control, e.target, he, hk⟩
      · rintro ⟨a, b, he, hk⟩
        exact ⟨⟨a, b⟩, he, hk⟩
    rwa [hends] at hgreatest
  case operations =>
    intro name
    rw [mem_operationNames_iff]
    simp only [mem_keys_after]
  case calibrated =>
    intro i
    rw [find?_schedules, find?_after]
  case timed =>
    intro name qubits
    rw [find?_durations, find?_after, find?_after]

end PresetPipeline.Target
