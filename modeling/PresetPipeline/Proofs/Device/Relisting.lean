import PresetPipeline.Proofs.Device.Conversion
import PresetPipeline.Device.Descriptor

/-!
# Devices listed in another order

The lists that a device is made from are read as sets: neither the order of their members nor their
repetitions count.

* `SameMembers` — two lists of the same set.
* `GraphConstructor.graph?_congr` — a constructor of graphs makes the same graph of the same edges.
* `Target.SameSteps` — the same settings in the same order, and the same registrations in any order.
  `cleared_after`, `instructions_after` — a target is what the settings make, with the table that the
  registrations make. `after_congr` — so the same steps make the same target.
* `Backend.Relisted` — the records of a device with the basis gates and the edges listed otherwise.
  `descriptor_relisted`, `ofBackend_relisted` — the descriptor and the target stay the same.
* `DeviceRecords.Relisted.backend?` — and the records are accepted, or refused, as before.
-/

set_option autoImplicit false

namespace PresetPipeline

/-- The lists have the same members, in any order and with any repetitions. -/
def SameMembers {α : Type} (l l' : List α) : Prop := ∀ a, a ∈ l ↔ a ∈ l'

namespace SameMembers

variable {α β : Type} {l l' : List α}

instance [DecidableEq α] (l l' : List α) : Decidable (SameMembers l l') :=
  decidable_of_iff ((∀ a ∈ l, a ∈ l') ∧ ∀ a ∈ l', a ∈ l)
    ⟨fun h a => ⟨h.1 a, h.2 a⟩, fun h => ⟨fun a => (h a).1, fun a => (h a).2⟩⟩

theorem flatMap (h : SameMembers l l') (f : α → List β) :
    SameMembers (l.flatMap f) (l'.flatMap f) := by
  intro b
  simp only [List.mem_flatMap, h _]

theorem any_eq (h : SameMembers l l') (p : α → Bool) : l.any p = l'.any p := by
  rw [Bool.eq_iff_iff, List.any_eq_true, List.any_eq_true]
  simp only [h _]

/-- A test fails for all members of both lists, or of neither. -/
theorem find?_eq_none_iff (h : SameMembers l l') (p : α → Bool) :
    l.find? p = none ↔ l'.find? p = none := by
  simp only [List.find?_eq_none, h _]

theorem ofList_eq [Ord α] [Std.TransOrd α] [Std.LawfulEqOrd α] (h : SameMembers l l') :
    SortedSet.ofList l = SortedSet.ofList l' := by
  apply SortedSet.ext_mem
  intro a
  rw [SortedSet.mem_ofList, SortedSet.mem_ofList, h]

/-- An absent list has no members. -/
theorem getD {o o' : Option (List α)} (h : Option.Rel SameMembers o o') :
    SameMembers (o.getD []) (o'.getD []) := by
  cases h with
  | some h => exact h
  | none => exact fun _ => Iff.rfl

end SameMembers

/-- What does not tell related values apart does not tell apart whether they are there. -/
theorem map_congr_rel {α β : Type} {r : α → α → Prop} {f : α → β} {o o' : Option α}
    (h : Option.Rel r o o') (hf : ∀ a a', r a a' → f a = f a') : o.map f = o'.map f := by
  cases h with
  | some h => exact congrArg some (hf _ _ h)
  | none => rfl

/-! ## Graphs -/

/-- The ways to make a graph of a list of edges. -/
inductive GraphConstructor where
  | ofEdges (numQubits : Qubit)
  | tryOfEdges (numQubits : Qubit)
  | bidirectional (numQubits : Qubit)
  | ofRecord (numQubits : Option Qubit)

/-- The graph that is made of the edges, if they are accepted. -/
def GraphConstructor.graph? (edges : List Edge) : GraphConstructor → Option CouplingMap
  | .ofEdges n => some (.ofEdges n edges)
  | .tryOfEdges n => (CouplingMap.tryOfEdges n edges).toOption
  | .bidirectional n => some (.bidirectional n edges)
  | .ofRecord n => (CouplingMap.ofRecord ⟨n, edges⟩).toOption

section Graphs

variable {edges edges' : List Edge}

theorem tryOfEdges_congr (n : Qubit) (h : SameMembers edges edges') :
    CouplingMap.tryOfEdges n edges = CouplingMap.tryOfEdges n edges' := by
  rw [CouplingMap.tryOfEdges_eq_ite, CouplingMap.tryOfEdges_eq_ite, h.any_eq,
    CouplingMap.ofEdges_congr h]

/-- Which edge is told to be outside is the only thing that the order decides. -/
theorem ofRecord_congr (n : Option Qubit) (h : SameMembers edges edges') :
    (CouplingMap.ofRecord ⟨n, edges⟩).toOption = (CouplingMap.ofRecord ⟨n, edges'⟩).toOption := by
  cases n with
  | none => exact congrArg Except.toOption (tryOfEdges_congr 0 h)
  | some n =>
    have hnone := h.find?_eq_none_iff fun e => !e.within n
    simp only [CouplingMap.ofRecord]
    cases hfind : edges.find? fun e => !e.within n with
    | none =>
      rw [hnone.1 hfind]
      exact congrArg Except.toOption (tryOfEdges_congr n h)
    | some e =>
      cases hfind' : edges'.find? fun e => !e.within n with
      | none =>
        rw [hnone.2 hfind'] at hfind
        cases hfind
      | some e' => rfl

theorem GraphConstructor.graph?_congr (h : SameMembers edges edges') (c : GraphConstructor) :
    c.graph? edges = c.graph? edges' := by
  cases c with
  | ofEdges n => exact congrArg some (CouplingMap.ofEdges_congr h)
  | tryOfEdges n => exact congrArg Except.toOption (tryOfEdges_congr n h)
  | bidirectional n => exact congrArg some (CouplingMap.ofEdges_congr (h.flatMap _))
  | ofRecord n => exact ofRecord_congr n h

end Graphs

/-! ## Targets -/

namespace Target

variable {steps steps' : List Step} {t u : Target}

/-- The target without its instructions. -/
def cleared (t : Target) : Target := { t with instructions := .empty }

/-- The steps that replace a setting. -/
def settings (steps : List Step) : List Step := steps.filter (·.registration?.isNone)

theorem ext_cleared (h : t.cleared = u.cleared) (hi : t.instructions = u.instructions) : t = u := by
  cases t
  cases u
  simp only [cleared, mk.injEq] at h hi ⊢
  exact ⟨h.1, h.2.1, h.2.2.1, h.2.2.2.1, hi, h.2.2.2.2.2⟩

/-- Settings alone decide everything but the table. -/
theorem cleared_after (t : Target) (steps : List Step) :
    (t.after steps).cleared = t.cleared.after (settings steps) := by
  induction steps generalizing t with
  | nil => rfl
  | cons step rest ih =>
    have hrest : (t.after (step :: rest)).cleared = (t.apply step).cleared.after (settings rest) :=
      ih (t.apply step)
    rw [hrest]
    cases step with
    | register i data => rfl
    | sampleTime dt => rfl
    | timing constraints => rfl
    | qubits records => rfl

/-- The same settings in the same order, and the same registrations in any order and with any
repetitions, none of which replaces another. -/
structure SameSteps (steps steps' : List Step) : Prop where
  settings : settings steps = settings steps'
  registered : SameMembers (registered steps) (registered steps')
  consistent : ∀ i data data', .register i data ∈ steps → .register i data' ∈ steps → data = data'

theorem after_congr (h : SameSteps steps steps') (t : Target) : t.after steps = t.after steps' := by
  apply ext_cleared
  · rw [cleared_after, cleared_after, h.settings]
  · rw [instructions_after, instructions_after]
    refine SortedMap.insertAll_congr _ ?_ h.registered
    intro i data data' hdata hdata'
    exact h.consistent i data data' (mem_registered.1 hdata) (mem_registered.1 hdata')

end Target

/-! ## Backends -/

/-- A configuration with the basis gates and the edges listed otherwise. -/
inductive Configuration.Relisted (c : Configuration) : Configuration → Prop where
  | mk {gates : List String} {edges : Option (List Edge)} : SameMembers c.basisGates gates →
      Option.Rel SameMembers c.couplingEdges edges →
      Relisted c { c with basisGates := gates, couplingEdges := edges }

/-- A backend with another configuration of the same gates and edges. -/
inductive Backend.Relisted (b : Backend) : Backend → Prop where
  | mk {c : Configuration} {edges_within qubits_counted commands_within} :
      b.configuration.Relisted c →
      Relisted b ⟨c, b.properties, b.defaults, edges_within, qubits_counted, commands_within⟩

variable {b b' : Backend}

theorem Backend.Relisted.edges (h : b.Relisted b') : SameMembers b.edges b'.edges := by
  obtain ⟨⟨_, hedges⟩⟩ := h
  exact SameMembers.getD hedges

theorem Backend.descriptor_relisted (h : b.Relisted b') : b.descriptor = b'.descriptor := by
  obtain ⟨⟨hgates, hedges⟩⟩ := h
  have hgraph : b.couplingMap? = _ :=
    map_congr_rel hedges fun _ _ h => CouplingMap.ofEdges_congr (n := b.configuration.numQubits) h
  have hbasis : b.basisGates = _ := hgates.ofList_eq
  unfold descriptor
  rw [hgraph, hbasis]
  rfl

namespace Target

theorem instructions_ofBackend (b : Backend) :
    (ofBackend b).instructions =
      (SortedMap.empty.insertAll (gateRegistrations b)).insertAll (measureRegistrations b) :=
  SortedMap.insertAll_append _ _ _

theorem ofBackend_relisted (h : b.Relisted b') : ofBackend b = ofBackend b' := by
  have hedges := h.edges
  obtain ⟨⟨hgates, -⟩⟩ := h
  apply ext_cleared
  · rfl
  · rw [instructions_ofBackend, instructions_ofBackend]
    refine congrArg (SortedMap.insertAll · (measureRegistrations b)) ?_
    apply SortedMap.insertAll_congr
    · intro i data data' hdata hdata'
      exact (mem_gateRegistrations.1 hdata).2.trans (mem_gateRegistrations.1 hdata').2.symm
    · rintro ⟨i, data⟩
      simp only [mem_gateRegistrations, mem_tuplesOfGate, hgates _, hedges _]
      rfl

end Target

/-- The records that a device publishes. -/
structure DeviceRecords where
  configuration : Configuration
  properties : Option Properties
  defaults : Option PulseDefaults

namespace DeviceRecords

variable {r r' : DeviceRecords}

/-- The backend of the records, if they agree. -/
def backend? (r : DeviceRecords) : Option Backend :=
  (Backend.ofRecords r.configuration r.properties r.defaults).toOption

/-- The records agree with each other. -/
structure Agree (r : DeviceRecords) : Prop where
  edges_within : r.configuration.edgeOutside? = none
  qubits_counted : r.configuration.miscounted? r.properties = none
  commands_within : r.configuration.commandOutside? r.defaults = none

theorem backend?_of_agree (h : r.Agree) :
    r.backend? = some ⟨r.configuration, r.properties, r.defaults, h.edges_within, h.qubits_counted,
      h.commands_within⟩ := by
  unfold backend? Backend.ofRecords
  split
  · rename_i hedge
    rw [h.edges_within] at hedge
    cases hedge
  · split
    · rename_i hcount
      rw [h.qubits_counted] at hcount
      cases hcount
    · split
      · rename_i hcommand
        rw [h.commands_within] at hcommand
        cases hcommand
      · rfl

theorem backend?_of_not_agree (h : ¬r.Agree) : r.backend? = none := by
  unfold backend? Backend.ofRecords
  split
  · rfl
  · rename_i hedges
    split
    · rfl
    · rename_i hcount
      split
      · rfl
      · rename_i hcommands
        exact absurd ⟨hedges, hcount, hcommands⟩ h

/-- The records with the basis gates and the edges listed otherwise. -/
inductive Relisted (r : DeviceRecords) : DeviceRecords → Prop where
  | mk {c : Configuration} : r.configuration.Relisted c → Relisted r { r with configuration := c }

/-- The edges are all within the device if those of one list are. -/
theorem Relisted.agree_iff (h : r.Relisted r') : r.Agree ↔ r'.Agree := by
  obtain ⟨⟨-, hedges⟩⟩ := h
  have hwithin := (SameMembers.getD hedges).find?_eq_none_iff
    fun e => !e.within r.configuration.numQubits
  constructor
  · rintro ⟨hedge, hcount, hcommands⟩
    exact ⟨hwithin.1 hedge, hcount, hcommands⟩
  · rintro ⟨hedge, hcount, hcommands⟩
    exact ⟨hwithin.2 hedge, hcount, hcommands⟩

/-- The records are accepted as before, or refused as before. -/
theorem Relisted.backend? (h : r.Relisted r') :
    Option.Rel Backend.Relisted r.backend? r'.backend? := by
  by_cases hagree : r.Agree
  · rw [backend?_of_agree hagree, backend?_of_agree (h.agree_iff.1 hagree)]
    obtain ⟨hc⟩ := h
    exact .some ⟨hc⟩
  · rw [backend?_of_not_agree hagree, backend?_of_not_agree fun h' => hagree (h.agree_iff.2 h')]
    exact .none

end DeviceRecords

end PresetPipeline
