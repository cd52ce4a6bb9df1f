import PresetPipeline.Proofs.Device.Durations

/-!
# The property table of a target

What the rows and the qubit records of the table tell of the instructions and the records of the target.

* `projectQubits_cases` — an instruction writes the readout of one qubit, or changes nothing.
* `length_foldl_le_iff`, `sameButReadout_foldl`, `recordAt_foldl_of_unread` — what any run of
  instructions makes of the records: how many there are, what is never touched, and what is not written.
* `recordAt_readouts` — since an instruction is in the table once, a record has the readout of the
  measurement of its qubit, if that reports anything.
* `readout_properties?_iff` — the readout of a qubit is the reported one completed by its record exactly
  if nothing is missing from what is reported, or from the record. `readout_properties?_timedQubit`: a
  value of the record can be lost.
* `gate?_properties?` — the row of an instruction is what the target reports of it.
* `Properties.IsReportOf` — the rows, the count of the records and the rest of the records.
  `properties?_isReport` — the table of every target is such a report, and it is absent exactly if there
  is nothing to report.
-/

set_option autoImplicit false

namespace PresetPipeline

/-! ## Records -/

/-- The record of a number; unknown where there is none. -/
def recordAt (qubits : List QubitProperties) (k : Nat) : QubitProperties := qubits[k]?.getD .unknown

/-- The record with the readout of a measurement. -/
def QubitProperties.withReadout (r : QubitProperties) (data : InstructionData) : QubitProperties :=
  { r with readoutError := data.error, readoutLength := data.duration }

/-- The records agree on everything but the readout. -/
structure QubitProperties.SameButReadout (r r' : QubitProperties) : Prop where
  t1 : r.t1 = r'.t1
  t2 : r.t2 = r'.t2
  frequency : r.frequency = r'.frequency

theorem recordAt_of_getElem? {qubits : List QubitProperties} {k : Nat} {r : QubitProperties}
    (h : qubits[k]? = some r) : recordAt qubits k = r := by
  rw [recordAt, h, Option.getD_some]

theorem recordAt_of_length_le {qubits : List QubitProperties} {k : Nat} (h : qubits.length ≤ k) :
    recordAt qubits k = .unknown := by
  rw [recordAt, List.getElem?_eq_none h, Option.getD_none]

namespace Target

variable {t : Target} {qubits : List QubitProperties} {entry : Instruction × InstructionData}
  {entries : List (Instruction × InstructionData)} {i : Instruction} {data : InstructionData}
  {q : Qubit} {r : QubitProperties} {p : Properties}

/-! ## One instruction -/

theorem length_setReadout (qubits : List QubitProperties) (k : Nat) (data : InstructionData) :
    (setReadout qubits k data).length = max qubits.length (k + 1) := by
  simp only [setReadout, List.length_modify, List.length_append, List.length_replicate]
  omega

theorem recordAt_setReadout (qubits : List QubitProperties) (k j : Nat) (data : InstructionData) :
    recordAt (setReadout qubits k data) j =
      if j = k then (recordAt qubits j).withReadout data else recordAt qubits j := by
  have hpadded : ∀ j, recordAt
      (qubits ++ List.replicate (k + 1 - qubits.length) QubitProperties.unknown) j =
        recordAt qubits j := by
    intro j
    unfold recordAt
    rw [List.getElem?_append]
    split
    · rfl
    · rename_i hj
      rw [List.getElem?_eq_none (by omega : qubits.length ≤ j), List.getElem?_replicate]
      split <;> rfl
  rw [← hpadded j]
  unfold recordAt setReadout
  rw [List.getElem?_modify]
  by_cases hj : j = k
  · have hlt : j < (qubits ++
        List.replicate (k + 1 - qubits.length) QubitProperties.unknown).length := by
      rw [List.length_append, List.length_replicate]
      omega
    rw [if_pos hj, List.getElem?_eq_getElem hlt]
    simp [hj, QubitProperties.withReadout]
  · simp [hj, Ne.symm hj]

theorem isReported_iff :
    InstructionData.isReported data = true ↔ data.error ≠ none ∨ data.duration ≠ none := by
  rw [InstructionData.isReported, Bool.or_eq_true, Option.isSome_iff_ne_none,
    Option.isSome_iff_ne_none]

/-- The entry is a measurement of the qubit that reports something. -/
def Reads (entry : Instruction × InstructionData) (q : Qubit) : Prop :=
  entry.1 = ⟨"measure", [q]⟩ ∧ InstructionData.isReported entry.2 = true

theorem Reads.unique {q' : Qubit} (h : Reads entry q) (h' : Reads entry q') : q = q' := by
  have heq := h.1.symm.trans h'.1
  cases heq
  rfl

/-- An instruction writes the readout of the qubit that it reads, and nothing else. -/
theorem projectQubits_cases (qubits : List QubitProperties)
    (entry : Instruction × InstructionData) :
    (∃ q, Reads entry q ∧ projectQubits qubits entry = setReadout qubits q.toNat entry.2) ∨
      ((∀ q, ¬Reads entry q) ∧ projectQubits qubits entry = qubits) := by
  obtain ⟨⟨name, tuple⟩, data⟩ := entry
  unfold projectQubits
  split
  · rename_i q hreported htuple
    rw [Bool.and_eq_true, beq_iff_eq] at hreported
    have hname : name = "measure" := hreported.1
    have htuple : tuple = [q] := htuple
    exact .inl ⟨q, ⟨by rw [hname, htuple], hreported.2⟩, rfl⟩
  · rename_i hnot
    refine .inr ⟨?_, rfl⟩
    rintro q ⟨hi, hreported⟩
    cases hi
    exact hnot q (Bool.and_eq_true_iff.2 ⟨beq_self_eq_true _, hreported⟩) rfl

/-! ## A run of instructions -/

/-- There are as many records as there were, or as many as the highest qubit that is read needs. -/
theorem length_foldl_le_iff (entries : List (Instruction × InstructionData))
    (qubits : List QubitProperties) (bound : Nat) :
    (entries.foldl projectQubits qubits).length ≤ bound ↔
      qubits.length ≤ bound ∧ ∀ entry ∈ entries, ∀ q, Reads entry q → q.toNat + 1 ≤ bound := by
  induction entries generalizing qubits with
  | nil => simp
  | cons entry rest ih =>
    rw [List.foldl_cons, ih, List.forall_mem_cons]
    rcases projectQubits_cases qubits entry with ⟨q, hread, heq⟩ | ⟨hunread, heq⟩
    · have hq : (∀ q', Reads entry q' → q'.toNat + 1 ≤ bound) ↔ q.toNat + 1 ≤ bound := by
        constructor
        · exact fun h => h q hread
        · rintro h q' hread'
          rwa [← hread.unique hread']
      rw [heq, length_setReadout, Nat.max_le, hq, and_assoc]
    · have hq : ∀ q, Reads entry q → q.toNat + 1 ≤ bound := fun q hread => absurd hread (hunread q)
      rw [heq, and_iff_right hq]

/-- Only readouts are written. -/
theorem sameButReadout_foldl (entries : List (Instruction × InstructionData))
    (qubits : List QubitProperties) (k : Nat) :
    (recordAt (entries.foldl projectQubits qubits) k).SameButReadout (recordAt qubits k) := by
  induction entries generalizing qubits with
  | nil => exact ⟨rfl, rfl, rfl⟩
  | cons entry rest ih =>
    have hstep : (recordAt (projectQubits qubits entry) k).SameButReadout (recordAt qubits k) := by
      rcases projectQubits_cases qubits entry with ⟨q, -, heq⟩ | ⟨-, heq⟩
      · rw [heq, recordAt_setReadout]
        split
        · exact ⟨rfl, rfl, rfl⟩
        · exact ⟨rfl, rfl, rfl⟩
      · rw [heq]
        exact ⟨rfl, rfl, rfl⟩
    have hrest := ih (projectQubits qubits entry)
    exact ⟨hrest.t1.trans hstep.t1, hrest.t2.trans hstep.t2, hrest.frequency.trans hstep.frequency⟩

/-- What is not read is not written. -/
theorem recordAt_foldl_of_unread (h : ∀ entry ∈ entries, ¬Reads entry q) :
    recordAt (entries.foldl projectQubits qubits) q.toNat = recordAt qubits q.toNat := by
  induction entries generalizing qubits with
  | nil => rfl
  | cons entry rest ih =>
    obtain ⟨hentry, hrest⟩ := List.forall_mem_cons.1 h
    rw [List.foldl_cons, ih hrest]
    rcases projectQubits_cases qubits entry with ⟨q', hread, heq⟩ | ⟨-, heq⟩
    · have hne : q.toNat ≠ q'.toNat := fun hq => hentry (UInt32.toNat_inj.1 hq ▸ hread)
      rw [heq, recordAt_setReadout, if_neg hne]
    · rw [heq]

/-! ## The instructions of a target -/

/-- The instruction is in the table, with an error or a duration. -/
def Reports (t : Target) (i : Instruction) (data : InstructionData) : Prop :=
  t.instruction? i.name i.qubits = some data ∧ (data.error ≠ none ∨ data.duration ≠ none)

theorem reports_iff :
    t.Reports i data ↔
      (i, data) ∈ t.instructions.entries ∧ InstructionData.isReported data = true := by
  rw [isReported_iff, ← SortedMap.find?_eq_some_iff]
  rfl

theorem exists_reads_iff :
    (∃ entry ∈ t.instructions.entries, Reads entry q) ↔
      ∃ data, t.Reports ⟨"measure", [q]⟩ data := by
  simp only [reports_iff]
  constructor
  · rintro ⟨⟨i, data⟩, hmem, hi, hreported⟩
    have hi : i = ⟨"measure", [q]⟩ := hi
    exact ⟨data, hi ▸ hmem, hreported⟩
  · rintro ⟨data, hmem, hreported⟩
    exact ⟨_, hmem, rfl, hreported⟩

/-- The records after all instructions of the table. -/
def readouts (t : Target) : List QubitProperties := t.instructions.entries.foldl projectQubits t.qubits

theorem recordAt_readouts_of_not (h : ∀ data, ¬t.Reports ⟨"measure", [q]⟩ data) :
    recordAt t.readouts q.toNat = recordAt t.qubits q.toNat := by
  apply recordAt_foldl_of_unread
  intro entry hmem hread
  obtain ⟨data, hreports⟩ := exists_reads_iff.1 ⟨entry, hmem, hread⟩
  exact h data hreports

/-- The measurement of a qubit is one entry of the table, so nothing before or after it writes the
record. -/
theorem recordAt_readouts (h : t.Reports ⟨"measure", [q]⟩ data) :
    recordAt t.readouts q.toNat = (recordAt t.qubits q.toNat).withReadout data := by
  obtain ⟨hmem, hreported⟩ := reports_iff.1 h
  have hread : Reads (⟨"measure", [q]⟩, data) q := ⟨rfl, hreported⟩
  have hsorted := t.instructions.sorted
  unfold readouts
  obtain ⟨before, after, hsplit⟩ := List.append_of_mem hmem
  rw [hsplit] at hsorted ⊢
  obtain ⟨-, hafter, hbefore⟩ := List.pairwise_append.1 hsorted
  have hbefore : ∀ entry ∈ before, ¬Reads entry q := by
    rintro entry hentry ⟨hi, -⟩
    have hlt := hbefore entry hentry _ List.mem_cons_self
    rw [hi, compare_self_eq] at hlt
    cases hlt
  have hafter : ∀ entry ∈ after, ¬Reads entry q := by
    rintro entry hentry ⟨hi, -⟩
    have hlt := (List.pairwise_cons.1 hafter).1 entry hentry
    rw [hi, compare_self_eq] at hlt
    cases hlt
  rw [List.foldl_append, List.foldl_cons, recordAt_foldl_of_unread hafter]
  rcases projectQubits_cases (before.foldl projectQubits t.qubits) (⟨"measure", [q]⟩, data)
    with ⟨q', hread', heq⟩ | ⟨hunread, -⟩
  · obtain rfl := hread.unique hread'
    rw [heq, recordAt_setReadout, if_pos rfl, recordAt_foldl_of_unread hbefore]
  · exact absurd hread (hunread q)

theorem length_readouts :
    IsGreatest (insert t.qubits.length
        {k | ∃ q data, t.Reports ⟨"measure", [q]⟩ data ∧ k = q.toNat + 1})
      t.readouts.length := by
  apply isGreatest_of_le_iff (Set.insert_nonempty _ _)
  intro bound
  rw [readouts, length_foldl_le_iff, Set.forall_mem_insert]
  refine and_congr_right fun _ => ⟨?_, ?_⟩
  · rintro h k ⟨q, data, hreports, rfl⟩
    obtain ⟨entry, hmem, hread⟩ := exists_reads_iff.2 ⟨data, hreports⟩
    exact h entry hmem q hread
  · intro h entry hmem q hread
    obtain ⟨data, hreports⟩ := exists_reads_iff.1 ⟨entry, hmem, hread⟩
    exact h _ ⟨q, data, hreports, rfl⟩

theorem properties?_eq_some (h : t.properties? = some p) :
    p = .new t.name t.readouts (t.instructions.entries.filterMap gateRow?) := by
  simp only [properties?] at h
  split at h
  · cases h
  · cases h
    rfl

theorem properties?_eq_none_iff :
    t.properties? = none ↔ t.readouts = [] ∧ t.instructions.entries.filterMap gateRow? = [] := by
  rw [← List.isEmpty_iff, ← List.isEmpty_iff, ← Bool.and_eq_true_iff]
  simp only [properties?]
  split
  · rename_i hempty
    exact iff_of_true rfl hempty
  · rename_i hfull
    exact iff_of_false (Option.some_ne_none _) hfull

/-! ## Readouts -/

/-- A target with a record of a qubit has a table, and the table has a record of the qubit. -/
theorem exists_properties? (hr : t.qubits[q.toNat]? = some r) :
    ∃ p, t.properties? = some p ∧ p.qubit? q = some (recordAt t.readouts q.toNat) := by
  obtain ⟨hlt, -⟩ := List.getElem?_eq_some_iff.1 hr
  have hle : t.qubits.length ≤ t.readouts.length := length_readouts.2 (Set.mem_insert _ _)
  have hlt' : q.toNat < t.readouts.length := Nat.lt_of_lt_of_le hlt hle
  have hsome : t.properties? ≠ none := by
    rw [ne_eq, properties?_eq_none_iff]
    rintro ⟨hnil, -⟩
    rw [hnil] at hlt'
    exact Nat.not_lt_zero _ hlt'
  obtain ⟨p, hp⟩ := Option.ne_none_iff_exists'.1 hsome
  refine ⟨p, hp, ?_⟩
  rw [properties?_eq_some hp]
  show t.readouts[q.toNat]? = _
  rw [recordAt, List.getElem?_eq_getElem hlt', Option.getD_some]

/-- What is completed by something else stays as it is exactly if there is nothing to complete. -/
theorem eq_or_self_iff {α : Type} {x y : Option α} : x = x.or y ↔ (x = none → y = none) := by
  cases x with
  | none => simp [eq_comm]
  | some a => simp

/-- One of the two values of a readout: `get` takes it from a measurement, and `value` from a record. -/
theorem readout_eq_or_iff {get : InstructionData → Option Float}
    {value : QubitProperties → Option Float} (hr : t.qubits[q.toNat]? = some r)
    (hvalue : ∀ (r : QubitProperties) data, value (r.withReadout data) = get data)
    (hget : ∀ data, get data ≠ none → data.error ≠ none ∨ data.duration ≠ none) :
    value (recordAt t.readouts q.toNat) =
        ((t.instruction? "measure" [q]).bind get).or (value r) ↔
      ∀ data, t.Reports ⟨"measure", [q]⟩ data → get data = none → value r = none := by
  by_cases h : ∃ data, t.Reports ⟨"measure", [q]⟩ data
  · obtain ⟨data, hreports⟩ := h
    have hdata : t.instruction? "measure" [q] = some data := hreports.1
    rw [recordAt_readouts hreports, hvalue, hdata, Option.bind_some, eq_or_self_iff]
    constructor
    · intro hnone data' hreports'
      have heq : data' = data := Option.some.inj (hreports'.1.symm.trans hdata)
      rwa [heq]
    · intro hnone
      exact hnone data hreports
  · have hnot : ∀ data, ¬t.Reports ⟨"measure", [q]⟩ data := fun data hdata => h ⟨data, hdata⟩
    have hbind : (t.instruction? "measure" [q]).bind get = none := by
      rw [Option.bind_eq_none_iff]
      intro data hdata
      exact Classical.byContradiction fun hne => hnot data ⟨hdata, hget data hne⟩
    rw [recordAt_readouts_of_not hnot, recordAt_of_getElem? hr, hbind, Option.none_or]
    exact iff_of_true rfl fun data hdata => absurd hdata (hnot data)

/-- **When a readout is told whole.** The error of a qubit with a record is the error of its
measurement, or else the one of the record, exactly if the record has none where the measurement reports
a duration only; and the same the other way round for its length. -/
theorem readout_properties?_iff (hr : t.qubits[q.toNat]? = some r) :
    ∃ p, t.properties? = some p ∧
      (p.readoutError? q =
          ((t.instruction? "measure" [q]).bind (·.error)).or r.readoutError ↔
        ∀ data, t.Reports ⟨"measure", [q]⟩ data → data.error = none → r.readoutError = none) ∧
      (p.readoutLength? q =
          ((t.instruction? "measure" [q]).bind (·.duration)).or r.readoutLength ↔
        ∀ data, t.Reports ⟨"measure", [q]⟩ data → data.duration = none →
          r.readoutLength = none) := by
  obtain ⟨p, hp, hrecord⟩ := exists_properties? hr
  refine ⟨p, hp, ?_, ?_⟩
  · rw [Properties.readoutError?, hrecord, Option.bind_some]
    exact readout_eq_or_iff hr (fun _ _ => rfl) fun _ => .inl
  · rw [Properties.readoutLength?, hrecord, Option.bind_some]
    exact readout_eq_or_iff hr (fun _ _ => rfl) fun _ => .inr

/-- The record of a qubit that was read out with some errors. -/
def misreadRecord : QubitProperties := ⟨none, none, none, some 0.02, none⟩

/-- A qubit with this record, whose measurement has a duration. -/
def timedQubit : Target :=
  (new "bare" 1).after [.qubits [misreadRecord], .register ⟨"measure", [0]⟩ ⟨some 1e-6, none, none⟩]

/-- The duration of the measurement is the length of the readout. -/
theorem readout_properties?_timedQubit_length :
    timedQubit.qubits[(0 : Qubit).toNat]? = some misreadRecord ∧
      ∃ p, timedQubit.properties? = some p ∧ p.readoutLength? 0 = some 1e-6 := by
  have hr : timedQubit.qubits[(0 : Qubit).toNat]? = some misreadRecord := rfl
  obtain ⟨p, hp, -, hlength⟩ := readout_properties?_iff hr
  exact ⟨hr, p, hp, hlength.2 fun _ _ _ => rfl⟩

/-- The measurement has no error, and the one of the record is lost. -/
theorem readout_properties?_timedQubit :
    timedQubit.qubits[(0 : Qubit).toNat]? = some misreadRecord ∧
      ∃ p, timedQubit.properties? = some p ∧
        p.readoutError? 0 ≠
          ((timedQubit.instruction? "measure" [0]).bind (·.error)).or
            misreadRecord.readoutError := by
  refine ⟨rfl, _, rfl, ?_⟩
  intro hsame
  cases hsame

/-! ## Rows -/

theorem gateRow?_eq_some {g : GateProperties} :
    gateRow? (i, data) = some g ↔
      i.name ≠ "measure" ∧ InstructionData.isReported data = true ∧
        g = ⟨i.name, i.qubits, data.error, data.duration⟩ := by
  unfold gateRow?
  split
  · rename_i h
    rw [Bool.and_eq_true, bne_iff_ne] at h
    simp [h.1, h.2, eq_comm]
  · rename_i h
    rw [Bool.and_eq_true, bne_iff_ne] at h
    constructor
    · intro hrow
      cases hrow
    · rintro ⟨hname, hreported, -⟩
      exact absurd ⟨hname, hreported⟩ h

/-- A row of a target's table is what the target reports of the instruction. -/
theorem gate?_properties? (h : t.properties? = some p) (name : String) (tuple : List Qubit) :
    p.gate? name tuple =
      (t.instruction? name tuple).bind fun data => gateRow? (⟨name, tuple⟩, data) := by
  have hgates : p.gates = t.instructions.entries.filterMap gateRow? := by
    rw [properties?_eq_some h]
    rfl
  unfold Properties.gate? instruction?
  rw [hgates]
  apply find?_eq_of_mem_iff
  intro g
  rw [List.mem_filterMap, Bool.and_eq_true, beq_iff_eq, beq_iff_eq, Option.bind_eq_some_iff]
  constructor
  · rintro ⟨⟨⟨i, data⟩, hmem, hrow⟩, hname, htuple⟩
    obtain ⟨-, -, hg⟩ := gateRow?_eq_some.1 hrow
    have hi : i = ⟨name, tuple⟩ := by rw [← hname, ← htuple, hg]
    subst hi
    exact ⟨data, SortedMap.find?_eq_some_iff.2 hmem, hrow⟩
  · rintro ⟨data, hdata, hrow⟩
    have hmem := SortedMap.find?_eq_some_iff.1 hdata
    obtain ⟨-, -, hg⟩ := gateRow?_eq_some.1 hrow
    subst hg
    exact ⟨⟨_, hmem, hrow⟩, rfl, rfl⟩

theorem pairwise_rows (t : Target) :
    (t.instructions.entries.filterMap gateRow?).Pairwise fun g h =>
      compare g.instruction h.instruction = .lt := by
  rw [List.pairwise_filterMap]
  refine t.instructions.sorted.imp ?_
  intro entry entry' hlt g hg h hh
  obtain ⟨-, -, rfl⟩ := gateRow?_eq_some.1 hg
  obtain ⟨-, -, rfl⟩ := gateRow?_eq_some.1 hh
  exact hlt

theorem rows_eq_nil_iff :
    t.instructions.entries.filterMap gateRow? = [] ↔
      ∀ i data, t.Reports i data → i.name = "measure" := by
  rw [List.filterMap_eq_nil_iff]
  simp only [reports_iff]
  constructor
  · rintro h i data ⟨hmem, hreported⟩
    refine Classical.byContradiction fun hname => ?_
    have hrow := gateRow?_eq_some.2 ⟨hname, hreported, rfl⟩
    rw [h _ hmem] at hrow
    cases hrow
  · rintro h ⟨i, data⟩ hmem
    rw [Option.eq_none_iff_forall_ne_some]
    intro g hrow
    obtain ⟨hname, hreported, -⟩ := gateRow?_eq_some.1 hrow
    exact hname (h i data ⟨hmem, hreported⟩)

theorem readouts_eq_nil_iff :
    t.readouts = [] ↔ t.qubits = [] ∧ ∀ q data, ¬t.Reports ⟨"measure", [q]⟩ data := by
  rw [← List.length_eq_zero_iff, ← Nat.le_zero, readouts, length_foldl_le_iff, Nat.le_zero,
    List.length_eq_zero_iff]
  refine and_congr_right fun _ => ⟨?_, ?_⟩
  · intro h q data hreports
    obtain ⟨entry, hmem, hread⟩ := exists_reads_iff.2 ⟨data, hreports⟩
    exact Nat.not_succ_le_zero _ (h entry hmem q hread)
  · intro h entry hmem q hread
    obtain ⟨data, hreports⟩ := exists_reads_iff.1 ⟨entry, hmem, hread⟩
    exact absurd hreports (h q data)

end Target

/-- The rows of the table are what a target reports of its operations but the measurement, in order. The
table has the records of the target, and more if the measurement of a higher qubit is reported. All but
the readouts is as it was, and unknown in the records that were added. -/
structure Properties.IsReportOf (p : Properties) (t : Target) : Prop where
  increasing : p.gates.Pairwise fun g h => compare g.instruction h.instruction = .lt
  unmeasured : ∀ g ∈ p.gates, g.gate ≠ "measure"
  rows : ∀ name tuple g, name ≠ "measure" → (p.gate? name tuple = some g ↔
    ∃ data, t.Reports ⟨name, tuple⟩ data ∧ g = ⟨name, tuple, data.error, data.duration⟩)
  counted : IsGreatest (insert t.qubits.length
      {k | ∃ q data, t.Reports ⟨"measure", [q]⟩ data ∧ k = q.toNat + 1})
    p.qubits.length
  kept : ∀ (k : Nat) (r : QubitProperties), t.qubits[k]? = some r →
    ∃ r' : QubitProperties, p.qubits[k]? = some r' ∧ r'.SameButReadout r
  added : ∀ (k : Nat) (r : QubitProperties), t.qubits.length ≤ k → p.qubits[k]? = some r →
    r.SameButReadout .unknown

namespace Target

variable {t : Target} {p : Properties}

theorem isReportOf_properties? (h : t.properties? = some p) : p.IsReportOf t := by
  have hrow := gate?_properties? h
  obtain rfl := properties?_eq_some h
  constructor
  case increasing => exact pairwise_rows t
  case unmeasured =>
    intro g hg
    obtain ⟨⟨i, data⟩, -, hg⟩ := List.mem_filterMap.1 hg
    obtain ⟨hname, -, rfl⟩ := gateRow?_eq_some.1 hg
    exact hname
  case rows =>
    intro name tuple g hname
    rw [hrow, Option.bind_eq_some_iff]
    simp only [gateRow?_eq_some, Reports, isReported_iff]
    constructor
    · rintro ⟨data, hdata, -, hreported, hg⟩
      exact ⟨data, ⟨hdata, hreported⟩, hg⟩
    · rintro ⟨data, ⟨hdata, hreported⟩, hg⟩
      exact ⟨data, hdata, hname, hreported, hg⟩
  case counted => exact length_readouts
  case kept =>
    intro k r hr
    obtain ⟨hlt, -⟩ := List.getElem?_eq_some_iff.1 hr
    have hle : t.qubits.length ≤ t.readouts.length := length_readouts.2 (Set.mem_insert _ _)
    have hr' := List.getElem?_eq_getElem (Nat.lt_of_lt_of_le hlt hle)
    refine ⟨_, hr', ?_⟩
    have hsame := sameButReadout_foldl t.instructions.entries t.qubits k
    rwa [recordAt_of_getElem? hr, ← readouts, recordAt_of_getElem? hr'] at hsame
  case added =>
    intro k r hk hr
    have hr : t.readouts[k]? = some r := hr
    have hsame := sameButReadout_foldl t.instructions.entries t.qubits k
    rwa [recordAt_of_length_le hk, ← readouts, recordAt_of_getElem? hr] at hsame

/-- **The property table of a target is a report of its instructions and records.** There is none exactly
if no qubit has a record, and neither an operation but the measurement nor the measurement of one qubit
has an error or a duration. -/
theorem properties?_isReport (t : Target) :
    (t.properties? = none ↔
      t.qubits = [] ∧ (∀ i data, t.Reports i data → i.name = "measure") ∧
        ∀ q data, ¬t.Reports ⟨"measure", [q]⟩ data) ∧
      ∀ p, t.properties? = some p → p.IsReportOf t := by
  refine ⟨?_, fun p hp => isReportOf_properties? hp⟩
  rw [properties?_eq_none_iff, readouts_eq_nil_iff, rows_eq_nil_iff, and_assoc, and_comm (a := ∀ _, _)]

/-- A target with a record of one qubit, a gate of known error, and a measurement of the third qubit. -/
def measuredLine : Target :=
  (new "line" 3).after
    [.qubits [misreadRecord], .register ⟨"measure", [2]⟩ ⟨none, some 0.1, none⟩,
      .register ⟨"cx", [0, 1]⟩ ⟨none, some 0.01, none⟩]

/-- The table has records up to that of the third qubit, and a row of the gate. -/
theorem properties?_isReport_measuredLine :
    ∃ p, measuredLine.properties? = some p ∧ 3 ≤ p.qubits.length ∧
      p.gate? "cx" [0, 1] = some ⟨"cx", [0, 1], some 0.01, none⟩ := by
  have hmeasure : measuredLine.Reports ⟨"measure", [2]⟩ ⟨none, some 0.1, none⟩ :=
    ⟨rfl, .inl (Option.some_ne_none _)⟩
  have hgate : measuredLine.Reports ⟨"cx", [0, 1]⟩ ⟨none, some 0.01, none⟩ :=
    ⟨rfl, .inl (Option.some_ne_none _)⟩
  have hsome : measuredLine.properties? ≠ none := by
    intro hnone
    obtain ⟨hnil, -⟩ := (properties?_isReport measuredLine).1.1 hnone
    cases hnil
  obtain ⟨p, hp⟩ := Option.ne_none_iff_exists'.1 hsome
  have hreport := (properties?_isReport measuredLine).2 p hp
  have hlength : 3 ≤ p.qubits.length := hreport.counted.2 (.inr ⟨2, _, hmeasure, rfl⟩)
  have hrow := (hreport.rows "cx" [0, 1] _ (by decide)).2 ⟨_, hgate, rfl⟩
  exact ⟨p, hp, hlength, hrow⟩

end Target

end PresetPipeline
