import PresetPipeline.Proofs.Device.Conversion

/-!
# Durations of backends and targets

A backend makes its duration table from its rows, a converted target from its instructions. They need
not agree.

* `Properties.rows`, `Properties.lengths` — the rows of an instruction and what they report.
* `Backend.duration?_eq` — a backend answers the readout length, else the last reported length, else
  the last length that is reported for all qubits.
* `find?_instructions_ofBackend` — what a target holds of an instruction. `duration_ofBackend` — it
  answers the readout length of a measured qubit, and of another instruction the length of its first
  row.
* `Properties.TellsOneLength` — the records leave no doubt about a duration.
* `duration_ofBackend_eq_iff` — both kinds of devices agree exactly if there is no doubt.
  `duration_ofBackend_measuredPair`: they can differ.
-/

set_option autoImplicit false

namespace PresetPipeline

/-! ## What the records say -/

/-- The instruction that a row is about. -/
def GateProperties.instruction (g : GateProperties) : Instruction := ⟨g.gate, g.qubits⟩

/-- The qubit whose measurement an instruction is. -/
def Instruction.measured? (i : Instruction) : Option Qubit :=
  match i.name == "measure", i.qubits with
  | true, [q] => some q
  | _, _ => none

namespace Properties

variable {p : Properties} {i : Instruction}

/-- The rows of an instruction, in order. -/
def rows (p : Properties) (i : Instruction) : List GateProperties :=
  p.gates.filter (·.instruction == i)

/-- The lengths that the rows of an instruction report, in order. -/
def lengths (p : Properties) (i : Instruction) : List Float := (p.rows i).filterMap (·.length)

def readoutLength? (p : Properties) (q : Qubit) : Option Float := (p.qubit? q).bind (·.readoutLength)

/-- The records leave no doubt about the duration of an instruction. A measured qubit has a readout
length, or no row reports a length for it. Of another instruction the first row has the length that is
reported last, and if no length is reported, none is reported for all qubits either. -/
def TellsOneLength (p : Properties) (i : Instruction) : Prop :=
  match i.measured? with
  | some q => p.readoutLength? q = none → p.lengths i = [] ∧ p.lengths ⟨i.name, []⟩ = []
  | none =>
    (p.lengths i ≠ [] → (p.rows i).head?.bind (·.length) = (p.lengths i).getLast?) ∧
      (p.lengths i = [] → p.lengths ⟨i.name, []⟩ = [])

/-- The length of a gate is that of its first row. -/
theorem gateLength?_eq : p.gateLength? i.name i.qubits = (p.rows i).head?.bind (·.length) := by
  unfold gateLength? gate? rows
  rw [List.head?_filter]
  congr 2
  funext g
  rw [Bool.eq_iff_iff, Bool.and_eq_true, beq_iff_eq, beq_iff_eq, beq_iff_eq]
  cases i
  exact (Instruction.mk.injEq ..).symm.to_iff

theorem head?_bind_length (h : p.lengths i = []) : (p.rows i).head?.bind (·.length) = none := by
  unfold lengths at h
  rw [List.filterMap_eq_nil_iff] at h
  cases hrows : p.rows i with
  | nil => rfl
  | cons g rest =>
    rw [hrows] at h
    exact h g List.mem_cons_self

end Properties

namespace Instruction

theorem measured?_eq_some {i : Instruction} {q : Qubit} :
    i.measured? = some q ↔ i = ⟨"measure", [q]⟩ := by
  obtain ⟨name, qubits⟩ := i
  unfold measured?
  split
  · rename_i q' hname hqubits
    have hname : name = "measure" := by simpa using hname
    have hqubits : qubits = [q'] := hqubits
    simp [hname, hqubits]
  · rename_i hnot
    constructor
    · intro h
      cases h
    · intro h
      cases h
      exact absurd rfl (hnot q rfl)

theorem measured?_nil (name : String) : measured? ⟨name, []⟩ = none := by
  unfold measured?
  split
  · rename_i h
    cases h
  · rfl

end Instruction

/-- Of records that are numbered, a measurement finds the one of its qubit. -/
theorem lookup_measurements {ρ β : Type} {records : List ρ} (hlen : records.length ≤ UInt32.size)
    (f : ρ → Qubit → Option β) (i : Instruction) :
    (records.zipIdx.filterMap fun e =>
        (f e.1 e.2.toUInt32).map ((⟨"measure", [e.2.toUInt32]⟩ : Instruction), ·)).reverse.lookup i =
      i.measured?.bind fun q => records[q.toNat]?.bind (f · q) := by
  apply lookup_eq_of_mem_iff
  intro v
  simp only [List.mem_reverse, List.mem_filterMap, Prod.exists, List.mem_zipIdx_iff_getElem?,
    Option.map_eq_some_iff, Option.bind_eq_some_iff, Instruction.measured?_eq_some]
  constructor
  · rintro ⟨r, k, hr, w, hw, heq⟩
    cases heq
    -- a number of a record fits in 32 bits, so it is the number of one qubit only
    obtain ⟨hk, -⟩ := List.getElem?_eq_some_iff.1 hr
    refine ⟨_, rfl, r, ?_, hw⟩
    rw [Nat.toUInt32_eq, UInt32.toNat_ofNat_of_lt' (by omega)]
    exact hr
  · rintro ⟨q, rfl, r, hr, hv⟩
    refine ⟨r, q.toNat, hr, v, ?_, ?_⟩
    · rw [Nat.toUInt32_eq, UInt32.ofNat_toNat]
      exact hv
    · rw [Nat.toUInt32_eq, UInt32.ofNat_toNat]

/-! ## The durations of a backend -/

/-- A table made from properties has the readout length of a measured qubit, and else the last length
that a row of the instruction reports. -/
theorem Durations.find?_ofProperties {p : Properties} {i : Instruction}
    (hlen : p.qubits.length ≤ UInt32.size) (dt : Option Float) :
    (ofProperties p dt).table.find? i =
      (i.measured?.bind p.readoutLength?).or (p.lengths i).getLast? := by
  show (SortedMap.ofList (reported p)).find? i = _
  rw [SortedMap.find?_ofList, reported, List.reverse_append, List.lookup_append]
  congr 1
  · exact lookup_measurements hlen (fun r _ => r.readoutLength) i
  · exact lookup_reverse_filterMap GateProperties.instruction (·.length) i p.gates

namespace Backend

variable {b : Backend} {p : Properties} {i : Instruction}

theorem length_qubits_le (hp : b.properties = some p) : p.qubits.length ≤ UInt32.size := by
  rw [length_qubits hp]
  exact Nat.le_of_lt b.configuration.numQubits.toNat_lt

theorem duration?_eq (hp : b.properties = some p) (i : Instruction) :
    b.durations?.bind (·.find? i.name i.qubits) =
      ((i.measured?.bind p.readoutLength?).or (p.lengths i).getLast?).or
        (p.lengths ⟨i.name, []⟩).getLast? := by
  have hlen := length_qubits_le hp
  rw [durations?, hp, Option.map_some, Option.bind_some, Durations.find?,
    Durations.find?_ofProperties hlen, Durations.find?_ofProperties hlen, Instruction.measured?_nil]
  rfl

/-- Every registered instruction has qubits. -/
theorem Registers.qubits_ne (h : b.Registers i) : i.qubits ≠ [] := by
  cases h with
  | edge _ _ _ => exact List.cons_ne_nil _ _
  | single _ _ _ => exact List.cons_ne_nil _ _
  | measure _ _ => exact List.cons_ne_nil _ _

/-- A registered measurement is of a qubit that has a record. -/
theorem exists_qubit (hp : b.properties = some p) {q : Qubit} (h : b.Registers ⟨"measure", [q]⟩) :
    ∃ r, p.qubit? q = some r := by
  have hq : q < b.configuration.numQubits := by
    cases h with
    | single _ _ hq => exact hq
    | measure _ hq => exact hq
  refine ⟨_, List.getElem?_eq_getElem ?_⟩
  rw [length_qubits hp]
  exact UInt32.lt_iff_toNat_lt.1 hq

end Backend

/-! ## The durations of a target -/

namespace Target

variable {b : Backend} {p : Properties} {i : Instruction}

/-- Whichever registration of a basis gate is looked up, it has the data of the gate. -/
theorem lookup_gateRegistrations :
    (gateRegistrations b).reverse.lookup i =
      if i.name ∈ b.configuration.basisGates ∧ i.qubits ∈ tuplesOfGate b i.name then
        some (gateData b (b.schedules?.getD .empty) i)
      else none := by
  apply lookup_eq_of_mem_iff
  intro data
  rw [List.mem_reverse, mem_gateRegistrations]
  constructor
  · rintro ⟨hgate, rfl⟩
    exact if_pos hgate
  · intro h
    split at h
    · rename_i hgate
      cases h
      exact ⟨hgate, rfl⟩
    · cases h

/-- What a target holds of an instruction: of a measured qubit what its record says, even if that is
nothing, and of another basis gate what its rows say. -/
theorem find?_instructions_ofBackend (hp : b.properties = some p) :
    (ofBackend b).instructions.find? i =
      (i.measured?.bind fun q => (p.qubit? q).map (measureData (b.schedules?.getD .empty) i)).or
        (if i.name ∈ b.configuration.basisGates ∧ i.qubits ∈ tuplesOfGate b i.name then
          some (gateData b (b.schedules?.getD .empty) i)
        else none) := by
  show (SortedMap.ofList (registrations b)).find? i = _
  rw [SortedMap.find?_ofList, registrations_eq, List.reverse_append, List.lookup_append,
    lookup_gateRegistrations, measureRegistrations, hp]
  congr 1
  have hlookup := lookup_measurements (Backend.length_qubits_le hp) (fun r q =>
    some (measureData (b.schedules?.getD .empty) ⟨"measure", [q]⟩ r)) i
  simp only [Option.map_some, List.filterMap_eq_map'] at hlookup
  refine Eq.trans hlookup ?_
  cases hi : i.measured? with
  | none => rfl
  | some q =>
    obtain rfl := Instruction.measured?_eq_some.1 hi
    exact Option.map_eq_bind.symm

theorem duration_ofBackend (hp : b.properties = some p) (h : b.Registers i) :
    (ofBackend b).durations.find? i.name i.qubits =
      match i.measured? with
      | some q => p.readoutLength? q
      | none => (p.rows i).head?.bind (·.length) := by
  have hagnostic : (ofBackend b).instructions.find? ⟨i.name, []⟩ = none := by
    rw [SortedMap.find?_eq_none_iff, mem_keys_ofBackend]
    intro hreg
    exact hreg.qubits_ne rfl
  rw [find?_durations, hagnostic, Option.bind_none, Option.or_none, find?_instructions_ofBackend hp]
  show ((i.measured?.bind _).or (if i.name ∈ _ ∧ i.qubits ∈ _ then _ else _)).bind _ = _
  cases hi : i.measured? with
  | some q =>
    obtain rfl := Instruction.measured?_eq_some.1 hi
    obtain ⟨r, hr⟩ := Backend.exists_qubit hp h
    have hread : p.readoutLength? q = r.readoutLength := by
      rw [Properties.readoutLength?, hr, Option.bind_some]
    rw [Option.bind_some, hr]
    exact hread.symm
  | none =>
    have hgate : i.name ∈ b.configuration.basisGates ∧ i.qubits ∈ tuplesOfGate b i.name := by
      cases h with
      | edge hbasis htwo he => exact ⟨hbasis, mem_tuplesOfGate.2 (.inl ⟨htwo, _, he, rfl⟩)⟩
      | single hbasis hone hq => exact ⟨hbasis, mem_tuplesOfGate.2 (.inr ⟨hone, _, hq, rfl⟩)⟩
      | measure _ _ =>
        rw [Instruction.measured?_eq_some.2 rfl] at hi
        cases hi
    rw [Option.bind_none, Option.none_or, if_pos hgate, Option.bind_some]
    show b.properties.bind (·.gateLength? i.name i.qubits) = _
    rw [hp, Option.bind_some, Properties.gateLength?_eq]

/-! ## Agreement -/

/-- **Both kinds of devices know the same duration of an instruction exactly if the records leave no
doubt about it.** -/
theorem duration_ofBackend_eq_iff (hp : b.properties = some p) (h : b.Registers i) :
    (ofBackend b).durations.find? i.name i.qubits =
        b.durations?.bind (·.find? i.name i.qubits) ↔
      p.TellsOneLength i := by
  rw [duration_ofBackend hp h, Backend.duration?_eq hp, Properties.TellsOneLength]
  cases hi : i.measured? with
  | some q =>
    rw [Option.bind_some]
    cases hread : p.readoutLength? q with
    | some t => simp [hread]
    | none =>
      simp only [hread, Option.none_or, forall_const]
      rw [eq_comm, Option.or_eq_none_iff, List.getLast?_eq_none_iff, List.getLast?_eq_none_iff]
  | none =>
    rw [Option.bind_none, Option.none_or]
    by_cases hlengths : p.lengths i = []
    · rw [Properties.head?_bind_length hlengths]
      simp [hlengths, eq_comm (a := none)]
    · obtain ⟨t, ht⟩ := Option.ne_none_iff_exists'.1 (mt List.getLast?_eq_none_iff.1 hlengths)
      simp [hlengths, ht]

/-- A pair of qubits whose measurements have rows. Only the first qubit has a readout length. -/
def measuredPair : Backend where
  configuration := ⟨"pair", "", 2, ["sx", "measure"], none, false, false, none, none⟩
  properties := some (.new "pair" [⟨none, none, none, none, some 1e-6⟩, .unknown]
    [⟨"measure", [0], none, some 2e-6⟩, ⟨"measure", [1], none, some 2e-6⟩])
  defaults := none
  edges_within := rfl
  qubits_counted := rfl
  commands_within := rfl

/-- The readout length settles the measurement of the first qubit, whatever its row says. -/
theorem duration_ofBackend_measuredPair_first :
    measuredPair.properties.isSome = true ∧ measuredPair.Registers ⟨"measure", [0]⟩ ∧
      (ofBackend measuredPair).durations.find? "measure" [0] =
        measuredPair.durations?.bind (·.find? "measure" [0]) := by
  have hreg : measuredPair.Registers ⟨"measure", [0]⟩ := .measure rfl (by decide)
  refine ⟨rfl, hreg, (duration_ofBackend_eq_iff rfl hreg).2 ?_⟩
  intro hnone
  cases hnone

/-- The record of the second qubit says nothing, and the length in its row is lost. -/
theorem duration_ofBackend_measuredPair :
    measuredPair.properties.isSome = true ∧ measuredPair.Registers ⟨"measure", [1]⟩ ∧
      (ofBackend measuredPair).durations.find? "measure" [1] ≠
        measuredPair.durations?.bind (·.find? "measure" [1]) := by
  have hreg : measuredPair.Registers ⟨"measure", [1]⟩ := .measure rfl (by decide)
  refine ⟨rfl, hreg, ?_⟩
  have htarget := duration_ofBackend rfl hreg
  have hbackend := Backend.duration?_eq (b := measuredPair) rfl ⟨"measure", [1]⟩
  intro heq
  rw [htarget, hbackend] at heq
  cases heq

end Target

end PresetPipeline
