import PresetPipeline.Proofs.Device.Projection

/-!
# From backends to targets

What a target keeps of the backend that it is made from.

* `Backend.Registers` — the instructions of the target, by cases.
* `mem_gateRegistrations` — what the basis gates give to the table of the target.
* `mem_keys_ofBackend` — the table of the target holds exactly these.
* `couplingMap?_ofBackend_eq_iff` — the graph is kept exactly if there is none, or if there is an edge
  and some basis gate has a row on two qubits. `couplingMap?_ofBackend_barePair`: it can be lost.
* `operationNames_ofBackend_iff` — the operations are kept exactly if there is an edge, or a qubit and
  no basis gate but the measurement has a row on two qubits; nothing but the measurement is added.
  `operationNames_ofBackend_openPair`: one can be lost.
-/

set_option autoImplicit false

namespace PresetPipeline

namespace Backend

variable {b : Backend}

/-- The edges that the configuration lists. -/
def edges (b : Backend) : List Edge := b.configuration.couplingEdges.getD []

/-- Some row of the properties has the gate on two qubits. -/
def IsTwoQubit (b : Backend) (gate : String) : Prop :=
  ∃ p, b.properties = some p ∧ ∃ row ∈ p.gates, row.gate = gate ∧ row.qubits.length = 2

/-- An instruction of the target: a basis gate on an edge or on a qubit, as its rows tell, or the
measurement of a qubit that has a record. -/
inductive Registers (b : Backend) : Instruction → Prop where
  | edge {gate : String} {e : Edge} : gate ∈ b.configuration.basisGates → b.IsTwoQubit gate →
      e ∈ b.edges → Registers b ⟨gate, [e.control, e.target]⟩
  | single {gate : String} {q : Qubit} : gate ∈ b.configuration.basisGates → ¬b.IsTwoQubit gate →
      q < b.configuration.numQubits → Registers b ⟨gate, [q]⟩
  | measure {q : Qubit} : b.properties.isSome = true → q < b.configuration.numQubits →
      Registers b ⟨"measure", [q]⟩

/-- A gate with a row on two qubits is registered on two qubits only. -/
theorem Registers.length_eq_two {i : Instruction} (h : b.Registers i) (htwo : b.IsTwoQubit i.name)
    (hname : i.name ≠ "measure") : i.qubits.length = 2 := by
  cases h with
  | edge _ _ _ => rfl
  | single _ hone _ => exact absurd htwo hone
  | measure _ _ => exact absurd rfl hname

theorem isTwoQubit_iff {gate : String} :
    Target.isTwoQubit b.properties gate = true ↔ b.IsTwoQubit gate := by
  unfold Target.isTwoQubit IsTwoQubit
  cases b.properties with
  | none => simp
  | some p => simp

instance (b : Backend) (gate : String) : Decidable (b.IsTwoQubit gate) :=
  decidable_of_iff _ isTwoQubit_iff

/-- Accepted properties have a record for each qubit. -/
theorem length_qubits {p : Properties} (hp : b.properties = some p) :
    p.qubits.length = b.configuration.numQubits.toNat := by
  have h := b.qubits_counted
  unfold Configuration.miscounted? at h
  rw [hp, Option.bind_some] at h
  split at h
  · assumption
  · cases h

/-- The ends of an accepted edge are qubits of the device. -/
theorem lt_of_mem_edges {e : Edge} (he : e ∈ b.edges) :
    e.control < b.configuration.numQubits ∧ e.target < b.configuration.numQubits := by
  have h := b.edges_within
  unfold Configuration.edgeOutside? at h
  rw [List.find?_eq_none] at h
  have hw := h e he
  simpa [Edge.within] using hw

theorem numQubits_pos (h : b.edges ≠ []) : 0 < b.configuration.numQubits := by
  obtain ⟨e, he⟩ := List.exists_mem_of_ne_nil _ h
  exact UInt32.lt_of_le_of_lt UInt32.zero_le (lt_of_mem_edges he).1

theorem IsTwoQubit.isSome_properties {gate : String} (h : b.IsTwoQubit gate) :
    b.properties.isSome = true := by
  obtain ⟨p, hp, -⟩ := h
  rw [hp]
  rfl

end Backend

namespace Target

variable {b : Backend}

/-! ## The table of the target -/

theorem mem_tuplesOfGate {gate : String} {qs : List Qubit} :
    qs ∈ tuplesOfGate b gate ↔
      (b.IsTwoQubit gate ∧ ∃ e ∈ b.edges, qs = [e.control, e.target]) ∨
        (¬b.IsTwoQubit gate ∧ ∃ q, q < b.configuration.numQubits ∧ qs = [q]) := by
  unfold tuplesOfGate
  rw [← exists_toUInt32_iff]
  by_cases h : b.IsTwoQubit gate
  · rw [if_pos (Backend.isTwoQubit_iff.2 h)]
    simp [h, Backend.edges, eq_comm]
  · rw [if_neg fun ht => h (Backend.isTwoQubit_iff.1 ht)]
    simp [h, eq_comm]

/-- The records of the qubits have the numbers of the qubits. -/
theorem exists_mem_zipIdx_iff {p : Qubit → Prop} :
    (∃ r i, (r, i) ∈ ((b.properties.map (·.qubits)).getD []).zipIdx ∧ p i.toUInt32) ↔
      b.properties.isSome = true ∧ ∃ q, q < b.configuration.numQubits ∧ p q := by
  rw [← exists_toUInt32_iff]
  cases hp : b.properties with
  | none => simp
  | some properties =>
    have hlen := Backend.length_qubits hp
    simp only [Option.map_some, Option.getD_some, Option.isSome_some, true_and,
      List.mem_zipIdx_iff_getElem?]
    constructor
    · rintro ⟨r, i, hr, hi⟩
      obtain ⟨hlt, -⟩ := List.getElem?_eq_some_iff.1 hr
      exact ⟨i, by omega, hi⟩
    · rintro ⟨k, hk, hpk⟩
      exact ⟨properties.qubits[k], k, List.getElem?_eq_getElem (by omega), hpk⟩

/-- The registrations of the basis gates. -/
def gateRegistrations (b : Backend) : List (Instruction × InstructionData) :=
  b.configuration.basisGates.flatMap fun gate =>
    (tuplesOfGate b gate).map fun qubits =>
      (⟨gate, qubits⟩, gateData b (b.schedules?.getD .empty) ⟨gate, qubits⟩)

/-- The registrations of the measurements. -/
def measureRegistrations (b : Backend) : List (Instruction × InstructionData) :=
  ((b.properties.map (·.qubits)).getD []).zipIdx.map fun (q, i) =>
    (⟨"measure", [i.toUInt32]⟩, measureData (b.schedules?.getD .empty) ⟨"measure", [i.toUInt32]⟩ q)

theorem registrations_eq (b : Backend) :
    registrations b = gateRegistrations b ++ measureRegistrations b :=
  rfl

/-- A gate is registered with what the records say of it, however often it is listed. -/
theorem mem_gateRegistrations {i : Instruction} {data : InstructionData} :
    (i, data) ∈ gateRegistrations b ↔
      (i.name ∈ b.configuration.basisGates ∧ i.qubits ∈ tuplesOfGate b i.name) ∧
        data = gateData b (b.schedules?.getD .empty) i := by
  unfold gateRegistrations
  rw [List.mem_flatMap]
  constructor
  · rintro ⟨gate, hbasis, hmem⟩
    obtain ⟨qubits, hqubits, heq⟩ := List.mem_map.1 hmem
    cases heq
    exact ⟨⟨hbasis, hqubits⟩, rfl⟩
  · rintro ⟨⟨hbasis, hqubits⟩, rfl⟩
    exact ⟨i.name, hbasis, List.mem_map.2 ⟨i.qubits, hqubits, rfl⟩⟩

/-- What is registered comes from the basis or from the records of the qubits. -/
theorem exists_mem_registrations_iff {i : Instruction} :
    (∃ data, (i, data) ∈ registrations b) ↔
      (i.name ∈ b.configuration.basisGates ∧ i.qubits ∈ tuplesOfGate b i.name) ∨
        (b.properties.isSome = true ∧
          ∃ q, q < b.configuration.numQubits ∧ i = ⟨"measure", [q]⟩) := by
  rw [registrations_eq, ← exists_mem_zipIdx_iff]
  constructor
  · rintro ⟨data, hmem⟩
    rcases List.mem_append.1 hmem with hgate | hmeasure
    · exact .inl (mem_gateRegistrations.1 hgate).1
    · obtain ⟨⟨r, k⟩, hr, heq⟩ := List.mem_map.1 hmeasure
      cases heq
      exact .inr ⟨r, k, hr, rfl⟩
  · rintro (hgate | ⟨r, k, hr, rfl⟩)
    · exact ⟨_, List.mem_append_left _ (mem_gateRegistrations.2 ⟨hgate, rfl⟩)⟩
    · exact ⟨_, List.mem_append_right _ (List.mem_map.2 ⟨(r, k), hr, rfl⟩)⟩

/-- **The table of a converted backend holds exactly the registered instructions.** -/
theorem mem_keys_ofBackend {i : Instruction} :
    i ∈ (ofBackend b).instructions.keys ↔ b.Registers i := by
  show i ∈ (SortedMap.ofList (registrations b)).keys ↔ _
  rw [SortedMap.mem_keys_ofList, exists_mem_registrations_iff, mem_tuplesOfGate]
  constructor
  · cases i
    rintro (⟨hbasis, ⟨htwo, e, he, rfl⟩ | ⟨hone, q, hq, rfl⟩⟩ | ⟨hsome, q, hq, heq⟩)
    · exact .edge hbasis htwo he
    · exact .single hbasis hone hq
    · cases heq
      exact .measure hsome hq
  · intro h
    cases h with
    | edge hbasis htwo he => exact .inl ⟨hbasis, .inl ⟨htwo, _, he, rfl⟩⟩
    | single hbasis hone hq => exact .inl ⟨hbasis, .inr ⟨hone, _, hq, rfl⟩⟩
    | measure hsome hq => exact .inr ⟨hsome, _, hq, rfl⟩

/-! ## Connectivity -/

/-- The edges of the table are those of the configuration, if a basis gate carries them over. -/
theorem mem_filterMap_edgeOf? {e : Edge} :
    e ∈ (ofBackend b).instructions.keys.filterMap edgeOf? ↔
      (∃ gate ∈ b.configuration.basisGates, b.IsTwoQubit gate) ∧ e ∈ b.edges := by
  obtain ⟨control, target⟩ := e
  rw [mem_edges_iff]
  constructor
  · rintro ⟨name, hmem⟩
    have hreg := mem_keys_ofBackend.1 hmem
    cases hreg with
    | edge hbasis htwo he => exact ⟨⟨name, hbasis, htwo⟩, he⟩
  · rintro ⟨⟨gate, hbasis, htwo⟩, he⟩
    exact ⟨gate, mem_keys_ofBackend.2 (.edge hbasis htwo he)⟩

theorem couplingMap?_ofBackend (h : ∃ gate ∈ b.configuration.basisGates, b.IsTwoQubit gate)
    (he : b.edges ≠ []) : (ofBackend b).couplingMap? = b.couplingMap? := by
  have hmem : ∀ e, e ∈ (ofBackend b).instructions.keys.filterMap edgeOf? ↔ e ∈ b.edges := by
    intro e
    rw [mem_filterMap_edgeOf?]
    exact and_iff_right h
  unfold couplingMap? Backend.couplingMap?
  unfold Backend.edges at he hmem
  cases hc : b.configuration.couplingEdges with
  | none => exact absurd (by rw [hc]; rfl) he
  | some edges =>
    rw [hc, Option.getD_some] at he hmem
    obtain ⟨e, rest, rfl⟩ := List.exists_cons_of_ne_nil he
    have hne : ((ofBackend b).instructions.keys.filterMap edgeOf?).isEmpty = false := by
      rw [List.isEmpty_eq_false_iff]
      exact List.ne_nil_of_mem ((hmem e).2 List.mem_cons_self)
    simp only [hne, Bool.false_eq_true, if_false, Option.map_some]
    exact congrArg some (CouplingMap.ofEdges_congr hmem)

/-- Without an edge, or without a gate that is known to need one, the graph is gone. -/
theorem couplingMap?_ofBackend_of_not
    (h : ¬(b.edges ≠ [] ∧ ∃ gate ∈ b.configuration.basisGates, b.IsTwoQubit gate)) :
    (ofBackend b).couplingMap? = none := by
  have hnil : (ofBackend b).instructions.keys.filterMap edgeOf? = [] := by
    rw [List.eq_nil_iff_forall_not_mem]
    intro e he
    obtain ⟨hgate, hedge⟩ := mem_filterMap_edgeOf?.1 he
    exact h ⟨List.ne_nil_of_mem hedge, hgate⟩
  unfold couplingMap?
  simp [hnil]

/-- **Which backends keep their graph**: those without one, and those with an edge whose properties
tell of some basis gate that it acts on two qubits. -/
theorem couplingMap?_ofBackend_eq_iff :
    (ofBackend b).couplingMap? = b.couplingMap? ↔
      b.configuration.couplingEdges = none ∨
        (b.edges ≠ [] ∧ ∃ gate ∈ b.configuration.basisGates, b.IsTwoQubit gate) := by
  by_cases h : b.edges ≠ [] ∧ ∃ gate ∈ b.configuration.basisGates, b.IsTwoQubit gate
  · simp only [couplingMap?_ofBackend h.2 h.1, h, ne_eq, not_false_eq_true, and_self, or_true]
  · rw [couplingMap?_ofBackend_of_not h, eq_comm, Backend.couplingMap?, Option.map_eq_none_iff]
    exact (or_iff_left h).symm

/-- A pair of qubits with an edge, of which nothing was measured. -/
def barePair : Backend where
  configuration := ⟨"pair", "", 2, ["sx", "cx"], some [⟨0, 1⟩], false, false, none, none⟩
  properties := none
  defaults := none
  edges_within := rfl
  qubits_counted := rfl
  commands_within := rfl

/-- The edge of the pair is lost, since no row tells that a gate needs it. -/
theorem couplingMap?_ofBackend_barePair :
    barePair.edges ≠ [] ∧ barePair.configuration.basisGates ≠ [] ∧
      (ofBackend barePair).couplingMap? ≠ barePair.couplingMap? := by
  have hnone : (ofBackend barePair).couplingMap? = none := by
    apply couplingMap?_ofBackend_of_not
    rintro ⟨-, gate, -, p, hp, -⟩
    cases hp
  refine ⟨List.cons_ne_nil _ _, List.cons_ne_nil _ _, ?_⟩
  rw [hnone]
  exact (Option.some_ne_none _).symm

/-! ## Operations -/

/-- What the target can execute, in terms of the records of the backend. -/
theorem mem_operationNames_ofBackend {name : String} :
    name ∈ (ofBackend b).operationNames.toList ↔
      (name ∈ b.configuration.basisGates ∧ b.IsTwoQubit name ∧ b.edges ≠ []) ∨
        (name ∈ b.configuration.basisGates ∧ ¬b.IsTwoQubit name ∧ 0 < b.configuration.numQubits) ∨
        (name = "measure" ∧ b.properties.isSome = true ∧ 0 < b.configuration.numQubits) := by
  rw [mem_operationNames_iff]
  constructor
  · rintro ⟨qs, hmem⟩
    have hreg := mem_keys_ofBackend.1 hmem
    cases hreg with
    | edge hbasis htwo he => exact .inl ⟨hbasis, htwo, List.ne_nil_of_mem he⟩
    | single hbasis hone hq => exact .inr (.inl ⟨hbasis, hone, UInt32.lt_of_le_of_lt UInt32.zero_le hq⟩)
    | measure hsome hq => exact .inr (.inr ⟨rfl, hsome, UInt32.lt_of_le_of_lt UInt32.zero_le hq⟩)
  · rintro (⟨hbasis, htwo, he⟩ | ⟨hbasis, hone, hn⟩ | ⟨rfl, hsome, hn⟩)
    · obtain ⟨e, he⟩ := List.exists_mem_of_ne_nil _ he
      exact ⟨_, mem_keys_ofBackend.2 (.edge hbasis htwo he)⟩
    · exact ⟨_, mem_keys_ofBackend.2 (.single hbasis hone hn)⟩
    · exact ⟨_, mem_keys_ofBackend.2 (.measure hsome hn)⟩

/-- **Which backends keep their operations**: those with an edge, and those with a qubit whose
properties tell of no basis gate but the measurement that it acts on two qubits. Only the measurement
is ever added. -/
theorem operationNames_ofBackend_iff :
    ((∀ name ∈ b.basisGates.toList, name ∈ (ofBackend b).operationNames.toList) ↔
      b.edges ≠ [] ∨ ∀ gate ∈ b.configuration.basisGates,
        0 < b.configuration.numQubits ∧ (b.IsTwoQubit gate → gate = "measure")) ∧
    ∀ name ∈ (ofBackend b).operationNames.toList,
      name ∈ b.basisGates.toList ∨ name = "measure" := by
  unfold Backend.basisGates
  simp only [SortedSet.mem_ofList, mem_operationNames_ofBackend]
  refine ⟨⟨?_, ?_⟩, ?_⟩
  · intro h
    by_cases hedges : b.edges = []
    · right
      intro gate hbasis
      rcases h gate hbasis with ⟨_, _, he⟩ | ⟨_, hone, hn⟩ | ⟨hname, _, hn⟩
      · exact absurd hedges he
      · exact ⟨hn, fun htwo => absurd htwo hone⟩
      · exact ⟨hn, fun _ => hname⟩
    · exact .inl hedges
  · rintro h gate hbasis
    by_cases htwo : b.IsTwoQubit gate
    · rcases h with he | hmeasure
      · exact .inl ⟨hbasis, htwo, he⟩
      · obtain ⟨hn, hname⟩ := hmeasure gate hbasis
        exact .inr (.inr ⟨hname htwo, htwo.isSome_properties, hn⟩)
    · rcases h with he | hmeasure
      · exact .inr (.inl ⟨hbasis, htwo, Backend.numQubits_pos he⟩)
      · exact .inr (.inl ⟨hbasis, htwo, (hmeasure gate hbasis).1⟩)
  · rintro name (⟨hbasis, _⟩ | ⟨hbasis, _⟩ | ⟨hname, _⟩)
    · exact .inl hbasis
    · exact .inl hbasis
    · exact .inr hname

/-- A pair of qubits without a list of edges, with a row that has a gate on both. -/
def openPair : Backend where
  configuration := ⟨"pair", "", 2, ["sx", "cx"], none, false, false, none, none⟩
  properties := some (.new "pair" [.unknown, .unknown] [⟨"cx", [0, 1], none, none⟩])
  defaults := none
  edges_within := rfl
  qubits_counted := rfl
  commands_within := rfl

/-- The gate on both qubits is lost, since a list that is absent is taken to have no edge. -/
theorem operationNames_ofBackend_openPair :
    0 < openPair.configuration.numQubits ∧ "cx" ∈ openPair.basisGates.toList ∧
      "cx" ∉ (ofBackend openPair).operationNames.toList := by
  have htwo : openPair.IsTwoQubit "cx" := ⟨_, rfl, _, List.mem_cons_self, rfl, rfl⟩
  refine ⟨by decide, SortedSet.mem_ofList.2 (List.mem_cons_of_mem _ List.mem_cons_self), ?_⟩
  rw [mem_operationNames_ofBackend]
  rintro (⟨_, _, hedges⟩ | ⟨_, hone, _⟩ | ⟨hname, _⟩)
  · exact hedges rfl
  · exact hone htwo
  · exact absurd hname (by decide)

end Target

end PresetPipeline
