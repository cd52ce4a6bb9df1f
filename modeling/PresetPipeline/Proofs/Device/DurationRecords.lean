import PresetPipeline.Device.Writing
import PresetPipeline.Proofs.Device.Durations
import PresetPipeline.Proofs.Settings.Placement

/-!
# Records of duration tables

A duration table is written as its sample time and a list of entries. It is read from entries in any
order, some of which may be for the same instruction.

* `DurationRecord` — a table as it is written. `DurationRecord.table`, `Durations.toRecord` — the table
  of a record, and the record of a table. `DurationRecord.last?` — the last entry of an instruction.
* `find?_table` — a table answers the last entry of an instruction, else the last one of its operation
  for any qubits.
* `Instruction.Before` — the order of the entries. `isNormalFormOf_toRecord` — the record of a table
  lists each instruction once, in this order.
* `toRecord_table` — the table of that record is the same.
* `Properties.lastReadout?` — the readout length of a qubit, for any number of records.
  `find?_table_ofProperties` — what the table of a property table holds.
* `durations_exact` — all of this, and the number of entries.
-/

set_option autoImplicit false

namespace PresetPipeline

/-! ## Records -/

/-- A duration table as it is written. -/
structure DurationRecord where
  /-- The sample time of the device, in seconds. -/
  dt : Option Float
  /-- Instructions with their durations in seconds. -/
  entries : List (Instruction × Float)

namespace DurationRecord

/-- The table of a record. -/
def table (r : DurationRecord) : Durations := .ofEntries r.dt r.entries

/-- The duration in the last entry of an instruction. -/
def last? (r : DurationRecord) (i : Instruction) : Option Float :=
  (r.entries.filter (·.1 == i)).getLast?.map (·.2)

/-- The instructions of the entries, in order. -/
def instructions (r : DurationRecord) : List Instruction := r.entries.map (·.1)

end DurationRecord

/-- The record of a table. -/
def Durations.toRecord (d : Durations) : DurationRecord := ⟨d.dt, d.table.entries⟩

namespace DurationRecord

variable {r : DurationRecord} {i : Instruction} {t : Float}

/-! ## Look-ups -/

theorem find?_table_eq_last? (r : DurationRecord) (i : Instruction) :
    r.table.table.find? i = r.last? i := by
  have hlookup := lookup_reverse_filterMap Prod.fst (fun e => some e.2) i r.entries
  simp only [Option.map_some, List.filterMap_eq_map', List.map_id', List.getLast?_map] at hlookup
  show (SortedMap.ofList r.entries).find? i = _
  rw [SortedMap.find?_ofList]
  exact hlookup

theorem find?_table (r : DurationRecord) (name : String) (qubits : List Qubit) :
    r.table.find? name qubits = (r.last? ⟨name, qubits⟩).or (r.last? ⟨name, []⟩) := by
  rw [Durations.find?, find?_table_eq_last?, find?_table_eq_last?]

theorem mem_keys_table : i ∈ r.table.table.keys ↔ i ∈ r.instructions := by
  show i ∈ (SortedMap.ofList r.entries).keys ↔ _
  rw [SortedMap.mem_keys_ofList, instructions, List.mem_map]
  constructor
  · rintro ⟨t, ht⟩
    exact ⟨_, ht, rfl⟩
  · rintro ⟨⟨_, t⟩, ht, rfl⟩
    exact ⟨t, ht⟩

end DurationRecord

/-! ## The order of the entries -/

/-- Instructions are in order by name, and those of one name by their qubits. -/
def Instruction.Before (i j : Instruction) : Prop :=
  i.name < j.name ∨ i.name = j.name ∧ i.qubits < j.qubits

/-- Tuples are compared qubit by qubit. -/
theorem compare_qubits_eq_lt {l l' : List Qubit} : compare l l' = .lt ↔ l < l' := by
  rw [List.compare_eq_compareLex]
  induction l generalizing l' with
  | nil => cases l' <;> simp [List.compareLex]
  | cons a l ih =>
    cases l' with
    | nil => simp [List.compareLex]
    | cons b l' =>
      rw [List.cons_lt_cons_iff, ← ih, List.compareLex, ← Std.compare_eq_lt]
      cases h : compare a b with
      | lt => simp
      | eq => simp [Std.LawfulEqOrd.eq_of_compare h]
      | gt =>
        have hne : a ≠ b := by
          rintro rfl
          rw [compare_self_eq] at h
          cases h
        simp [hne]

theorem Instruction.compare_eq_lt {i j : Instruction} : compare i j = .lt ↔ i.Before j := by
  have hcompare : compare i j = (compare i.name j.name).then (compare i.qubits j.qubits) := rfl
  have hname : compare i.name j.name = .lt ↔ i.name < j.name := compareOfLessAndEq_eq_lt
  rw [hcompare, Ordering.then_eq_lt, hname, compare_qubits_eq_lt, Std.LawfulEqOrd.compare_eq_iff_eq]
  rfl

/-! ## The record of a table -/

/-- The record of a table makes the table again. -/
theorem Durations.table_toRecord (d : Durations) : d.toRecord.table = d := by
  cases d with
  | mk dt table => exact congrArg (Durations.mk dt) (SortedMap.ofList_entries table)

namespace DurationRecord

variable {r : DurationRecord}

/-- The record of the table of a record. -/
def normal (r : DurationRecord) : DurationRecord := r.table.toRecord

/-- A record lists the instructions of another one in order and once each, with the durations of their
last entries. -/
structure IsNormalFormOf (n r : DurationRecord) : Prop where
  dt : n.dt = r.dt
  increasing : n.entries.Pairwise fun a b => a.1.Before b.1
  nodup : n.instructions.Nodup
  instructions : ∀ i, i ∈ n.instructions ↔ i ∈ r.instructions
  listed : ∀ i t, (i, t) ∈ n.entries ↔ r.last? i = some t

theorem isNormalFormOf_normal (r : DurationRecord) : r.normal.IsNormalFormOf r where
  dt := rfl
  increasing := r.table.table.sorted.imp Instruction.compare_eq_lt.1
  nodup := r.table.table.nodup_keys
  instructions _ := mem_keys_table
  listed i t := by
    rw [← find?_table_eq_last?]
    exact SortedMap.find?_eq_some_iff.symm

theorem table_normal (r : DurationRecord) : r.normal.table = r.table := r.table.table_toRecord

theorem normal_normal (r : DurationRecord) : r.normal.normal = r.normal :=
  congrArg Durations.toRecord r.table_normal

/-- A table has as many entries as its record has different instructions. -/
theorem size_table (r : DurationRecord) : r.table.table.size = r.instructions.toFinset.card := by
  have hkeys : r.instructions.toFinset = r.table.table.keys.toFinset := by
    ext i
    rw [List.mem_toFinset, List.mem_toFinset, mem_keys_table]
  rw [hkeys, List.toFinset_card_of_nodup r.table.table.nodup_keys]
  exact (List.length_map _).symm

end DurationRecord

/-! ## The table of a property table -/

namespace Properties

variable {p : Properties} {q : Qubit}

/-- The readout length of a qubit. The records are numbered with 32 bits, and of records with one number
the last that reports a length counts. -/
def lastReadout? (p : Properties) (q : Qubit) : Option Float :=
  ((p.qubits.zipIdx.filter (·.2.toUInt32 == q)).filterMap (·.1.readoutLength)).getLast?

/-- The readouts among the reported durations, last first, answer a measured qubit only. -/
theorem lookup_readouts (p : Properties) (i : Instruction) :
    (p.qubits.zipIdx.filterMap fun e => e.1.readoutLength.map
        ((⟨"measure", [e.2.toUInt32]⟩ : Instruction), ·)).reverse.lookup i =
      i.measured?.bind p.lastReadout? := by
  have hlookup := lookup_reverse_filterMap
    (fun e : QubitProperties × Nat => (⟨"measure", [e.2.toUInt32]⟩ : Instruction))
    (·.1.readoutLength) i p.qubits.zipIdx
  refine hlookup.trans ?_
  cases hi : i.measured? with
  | some q =>
    obtain rfl := Instruction.measured?_eq_some.1 hi
    have hkey : ∀ q' : Qubit,
        ((⟨"measure", [q']⟩ : Instruction) == ⟨"measure", [q]⟩) = (q' == q) := by
      intro q'
      rw [Bool.eq_iff_iff, beq_iff_eq, beq_iff_eq]
      simp
    simp only [hkey, Option.bind_some]
    rfl
  | none =>
    have hkey : ∀ q' : Qubit, ((⟨"measure", [q']⟩ : Instruction) == i) = false := by
      intro q'
      rw [beq_eq_false_iff_ne]
      rintro rfl
      rw [Instruction.measured?_eq_some.2 rfl] at hi
      cases hi
    simp only [hkey]
    simp

/-- Where every record has a number of its own, a qubit has the readout length of its record. -/
theorem lastReadout?_eq (h : p.qubits.length ≤ UInt32.size) (q : Qubit) :
    p.lastReadout? q = p.readoutLength? q := by
  have hlast := p.lookup_readouts ⟨"measure", [q]⟩
  have hlookup := lookup_measurements h (fun r _ => r.readoutLength) ⟨"measure", [q]⟩
  rw [Instruction.measured?_eq_some.2 rfl] at hlast hlookup
  exact hlast.symm.trans hlookup

end Properties

namespace Durations

/-- A readout length goes before every row of the measurement, and a later row before an earlier one. -/
theorem find?_table_ofProperties (p : Properties) (dt : Option Float) (i : Instruction) :
    (ofProperties p dt).table.find? i =
      (i.measured?.bind p.lastReadout?).or (p.lengths i).getLast? := by
  show (SortedMap.ofList (reported p)).find? i = _
  rw [SortedMap.find?_ofList, reported, List.reverse_append, List.lookup_append]
  congr 1
  · exact p.lookup_readouts i
  · exact lookup_reverse_filterMap GateProperties.instruction (·.length) i p.gates

/-- A table has as many entries as there are instructions that it answers. -/
theorem ncard_answered (d : Durations) : {i | (d.table.find? i).isSome = true}.ncard = d.table.size := by
  have hkeys : ∀ i, i ∈ {i | (d.table.find? i).isSome = true} ↔ i ∈ d.table.keys :=
    fun _ => SortedMap.mem_keys_iff.symm
  rw [Layout.ncard_of_nodup d.table.nodup_keys hkeys]
  exact List.length_map _

/-- **A duration table answers the last entries that it is made of, and its record is a normal form.** The
record lists each instruction once and makes the same table. The table of a property table holds the
readout lengths and, of other instructions, the lengths that are reported last. -/
theorem durations_exact (r : DurationRecord) (p : Properties) (dt : Option Float) :
    (r.table.dt = r.dt ∧ ∀ name qubits, r.table.find? name qubits =
        (r.last? ⟨name, qubits⟩).or (r.last? ⟨name, []⟩)) ∧
      (r.normal.IsNormalFormOf r ∧ r.normal.table = r.table ∧ r.normal.normal = r.normal) ∧
      ((ofProperties p dt).dt = dt ∧ ∀ i, (ofProperties p dt).table.find? i =
        (i.measured?.bind p.lastReadout?).or (p.lengths i).getLast?) ∧
      (p.qubits.length ≤ UInt32.size → ∀ q, p.lastReadout? q = p.readoutLength? q) ∧
      r.table.table.size = r.instructions.toFinset.card ∧
      {i | ((ofProperties p dt).table.find? i).isSome = true}.ncard = (ofProperties p dt).table.size :=
  ⟨⟨rfl, r.find?_table⟩, ⟨r.isNormalFormOf_normal, r.table_normal, r.normal_normal⟩,
    ⟨rfl, find?_table_ofProperties p dt⟩, Properties.lastReadout?_eq, r.size_table,
    (ofProperties p dt).ncard_answered⟩

/-- Two entries of one instruction, and between them one for any qubits. -/
def timedTwice : DurationRecord :=
  ⟨none, [(⟨"x", [0]⟩, 1e-8), (⟨"x", []⟩, 2e-8), (⟨"x", [0]⟩, 3e-8)]⟩

/-- Two qubits with rows for their measurements. Only the first has a readout length, and the last row
of the second reports nothing. -/
def measuredRows : Properties :=
  .new "pair" [⟨none, none, none, none, some 1e-6⟩, .unknown]
    [⟨"measure", [0], none, some 2e-6⟩, ⟨"measure", [1], none, some 3e-6⟩,
      ⟨"measure", [1], none, none⟩]

/-- The last entry of the first qubit counts, and any other qubit has the entry without qubits. The
readout length of the first qubit counts, and of the second the row with a length. -/
theorem durations_exact_timedTwice :
    (timedTwice.table.find? "x" [0] = some 3e-8 ∧ timedTwice.table.find? "x" [1] = some 2e-8 ∧
        timedTwice.table.table.size = 2 ∧ timedTwice.normal.normal = timedTwice.normal) ∧
      measuredRows.qubits.length ≤ UInt32.size ∧ measuredRows.lastReadout? 0 = some 1e-6 ∧
      (ofProperties measuredRows none).table.find? ⟨"measure", [0]⟩ = some 1e-6 ∧
      (ofProperties measuredRows none).table.find? ⟨"measure", [1]⟩ = some 3e-6 := by
  obtain ⟨⟨-, hfind⟩, ⟨-, -, hnormal⟩, ⟨-, hreported⟩, hreadout, hsize, -⟩ :=
    durations_exact timedTwice measuredRows none
  have hnumbered : measuredRows.qubits.length ≤ UInt32.size := by decide
  refine ⟨⟨(hfind _ _).trans rfl, (hfind _ _).trans rfl, hsize.trans rfl, hnormal⟩, hnumbered,
    (hreadout hnumbered 0).trans rfl, ?_, ?_⟩
  · rw [hreported, Instruction.measured?_eq_some.2 rfl, Option.bind_some, hreadout hnumbered]
    rfl
  · rw [hreported, Instruction.measured?_eq_some.2 rfl, Option.bind_some, hreadout hnumbered]
    rfl

end Durations

end PresetPipeline
