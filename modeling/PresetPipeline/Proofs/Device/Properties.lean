import PresetPipeline.Proofs.Device.Readout

/-!
# Properties of converted backends

The property table of a backend survives its conversion to a target and back.

* `projectQubits_ofBackend` — the measurements of a converted backend write into the records of the
  qubits what these already say, so `foldl_projectQubits_ofBackend` leaves them as they are.
* `gateError?_properties?`, `gateLength?_properties?` — of any target, the row of an instruction has what
  the instruction has.
* `Properties.SurvivesAs` — another table has the same records of the qubits, and of the gates it
  tells the same as far as a target has the instructions.
* `properties?_ofBackend` — the table of a converted backend survives, if there is any qubit.
-/

set_option autoImplicit false

namespace PresetPipeline

/-- A fold of which no step changes anything changes nothing. -/
theorem foldl_eq_self {α β : Type} {f : α → β → α} {a : α} {l : List β} (h : ∀ b ∈ l, f a b = a) :
    l.foldl f a = a := by
  induction l with
  | nil => rfl
  | cons b rest ih =>
    rw [List.foldl_cons, h b List.mem_cons_self]
    exact ih fun b hb => h b (List.mem_cons_of_mem _ hb)

namespace Target

variable {b : Backend} {p : Properties} {t : Target} {i : Instruction} {data : InstructionData}
  {name : String} {tuple : List Qubit}

/-! ## The records of the qubits -/

/-- Nothing changes if a record is given the readout data that it has. -/
theorem setReadout_eq_self {qubits : List QubitProperties} {q : Nat} {r : QubitProperties}
    (hr : qubits[q]? = some r) (herror : data.error = r.readoutError)
    (hlength : data.duration = r.readoutLength) : setReadout qubits q data = qubits := by
  obtain ⟨hlt, -⟩ := List.getElem?_eq_some_iff.1 hr
  have hpadding : q + 1 - qubits.length = 0 := by omega
  unfold setReadout
  rw [hpadding, List.replicate_zero, List.append_nil, herror, hlength]
  apply List.ext_getElem?
  intro k
  rw [List.getElem?_modify]
  by_cases hk : q = k
  · subst hk
    simp [hr]
  · simp [hk]

/-- A reported measurement of one qubit is the only instruction that touches the records. -/
theorem projectQubits_eq_self {qubits : List QubitProperties} {entry : Instruction × InstructionData}
    (h : ∀ q, entry.1 = ⟨"measure", [q]⟩ → setReadout qubits q.toNat entry.2 = qubits) :
    projectQubits qubits entry = qubits := by
  rcases projectQubits_cases qubits entry with ⟨q, hread, heq⟩ | ⟨-, heq⟩
  · rw [heq]
    exact h q hread.1
  · exact heq

/-- A measurement of the target has the readout data of the record of its qubit, whether or not it is
a basis gate too. -/
theorem measureData_of_mem (hp : b.properties = some p) {q : Qubit}
    (h : (⟨"measure", [q]⟩, data) ∈ (ofBackend b).instructions.entries) :
    ∃ r, p.qubits[q.toNat]? = some r ∧ data.error = r.readoutError ∧
      data.duration = r.readoutLength := by
  have hfind := SortedMap.find?_eq_some_iff.2 h
  have hkey : (⟨"measure", [q]⟩ : Instruction) ∈ (ofBackend b).instructions.keys :=
    SortedMap.mem_keys_iff.2 (by rw [hfind]; rfl)
  obtain ⟨r, hr⟩ := Backend.exists_qubit hp (mem_keys_ofBackend.1 hkey)
  rw [find?_instructions_ofBackend hp, Instruction.measured?_eq_some.2 rfl, Option.bind_some, hr,
    Option.map_some, Option.some_or] at hfind
  cases hfind
  exact ⟨r, hr, rfl, rfl⟩

theorem projectQubits_ofBackend (hp : b.properties = some p) :
    ∀ entry ∈ (ofBackend b).instructions.entries, projectQubits p.qubits entry = p.qubits := by
  rintro ⟨i, data⟩ hmem
  apply projectQubits_eq_self
  intro q hi
  have hi : i = ⟨"measure", [q]⟩ := hi
  subst hi
  obtain ⟨r, hr, herror, hlength⟩ := measureData_of_mem hp hmem
  exact setReadout_eq_self hr herror hlength

theorem foldl_projectQubits_ofBackend (hp : b.properties = some p) :
    (ofBackend b).instructions.entries.foldl projectQubits (ofBackend b).qubits = p.qubits := by
  have hqubits : (ofBackend b).qubits = p.qubits := by
    show (b.properties.map (·.qubits)).getD [] = p.qubits
    rw [hp]
    rfl
  rw [hqubits]
  exact foldl_eq_self (projectQubits_ofBackend hp)

/-! ## The rows of the gates -/

/-- What an instruction has, its row has; without a row it has neither an error nor a duration. -/
theorem gateRow?_bind (hname : i.name ≠ "measure") :
    (gateRow? (i, data)).bind (·.error) = data.error ∧
      (gateRow? (i, data)).bind (·.length) = data.duration := by
  cases hreported : InstructionData.isReported data with
  | true =>
    rw [gateRow?_eq_some.2 ⟨hname, hreported, rfl⟩]
    exact ⟨rfl, rfl⟩
  | false =>
    have hnone : gateRow? (i, data) = none := by
      rw [Option.eq_none_iff_forall_ne_some]
      intro g hrow
      obtain ⟨-, htrue, -⟩ := gateRow?_eq_some.1 hrow
      rw [hreported] at htrue
      cases htrue
    rw [InstructionData.isReported, Bool.or_eq_false_iff, Option.isSome_eq_false_iff,
      Option.isSome_eq_false_iff, Option.isNone_iff_eq_none, Option.isNone_iff_eq_none] at hreported
    rw [hnone, hreported.1, hreported.2]
    exact ⟨rfl, rfl⟩

theorem gateError?_properties? (h : t.properties? = some p) (hname : name ≠ "measure") :
    p.gateError? name tuple = (t.instruction? name tuple).bind (·.error) := by
  rw [Properties.gateError?, gate?_properties? h, Option.bind_assoc]
  congr 1
  funext data
  exact (gateRow?_bind (i := ⟨name, tuple⟩) hname).1

theorem gateLength?_properties? (h : t.properties? = some p) (hname : name ≠ "measure") :
    p.gateLength? name tuple = (t.instruction? name tuple).bind (·.duration) := by
  rw [Properties.gateLength?, gate?_properties? h, Option.bind_assoc]
  congr 1
  funext data
  exact (gateRow?_bind (i := ⟨name, tuple⟩) hname).2

/-! ## Conversion and back -/

/-- Data that agree with the records where there is an instruction are those of the records, as far as
there are instructions. -/
theorem instruction?_bind {α : Type} {get : InstructionData → Option α} {o : Option α}
    (h : ∀ data, t.instruction? name tuple = some data → get data = o) :
    (t.instruction? name tuple).bind get =
      if (t.instruction? name tuple).isSome then o else none := by
  cases hi : t.instruction? name tuple with
  | none => rfl
  | some data => exact h data hi

/-- What a converted backend has of an instruction that is no measurement is what the rows say. -/
theorem instruction?_ofBackend (hp : b.properties = some p) (hname : name ≠ "measure")
    (h : (ofBackend b).instruction? name tuple = some data) :
    data.error = p.gateError? name tuple ∧ data.duration = p.gateLength? name tuple := by
  have hmeasured : Instruction.measured? ⟨name, tuple⟩ = none := by
    rw [Option.eq_none_iff_forall_ne_some]
    intro q hq
    exact hname (congrArg Instruction.name (Instruction.measured?_eq_some.1 hq))
  rw [instruction?, find?_instructions_ofBackend hp, hmeasured, Option.bind_none,
    Option.none_or] at h
  split at h
  · cases h
    unfold gateData
    rw [hp]
    exact ⟨rfl, rfl⟩
  · cases h

end Target

/-- Another table has the same records of the qubits, and of the gates it tells the same as far as a
target has the instructions. -/
structure Properties.SurvivesAs (p : Properties) (t : Target) (p' : Properties) : Prop where
  qubits : p'.qubits = p.qubits
  gateError : ∀ name tuple, name ≠ "measure" →
    p'.gateError? name tuple =
      if (t.instruction? name tuple).isSome then p.gateError? name tuple else none
  gateLength : ∀ name tuple, name ≠ "measure" →
    p'.gateLength? name tuple =
      if (t.instruction? name tuple).isSome then p.gateLength? name tuple else none

namespace Target

variable {b : Backend} {p : Properties}

/-- **The properties of a device with qubits survive the conversion to a target and back.** -/
theorem properties?_ofBackend (hp : b.properties = some p) (hn : 0 < b.configuration.numQubits) :
    ∃ p', (ofBackend b).properties? = some p' ∧ p.SurvivesAs (ofBackend b) p' := by
  have hfold := foldl_projectQubits_ofBackend hp
  have hqubits : p.qubits.isEmpty = false := by
    rw [List.isEmpty_eq_false_iff, ← List.length_pos_iff, Backend.length_qubits hp]
    exact UInt32.lt_iff_toNat_lt.1 hn
  have hsome : (ofBackend b).properties? =
      some (.new (ofBackend b).name p.qubits
        ((ofBackend b).instructions.entries.filterMap gateRow?)) := by
    simp only [properties?]
    rw [hfold, hqubits]
    rfl
  refine ⟨_, hsome, rfl, ?_, ?_⟩
  · intro name tuple hname
    rw [gateError?_properties? hsome hname]
    exact instruction?_bind fun data hi => (instruction?_ofBackend hp hname hi).1
  · intro name tuple hname
    rw [gateLength?_properties? hsome hname]
    exact instruction?_bind fun data hi => (instruction?_ofBackend hp hname hi).2

/-- Rows that have a gate on one qubit and, repeatedly, on two. Only the first qubit was measured. -/
def spreadRows : Properties :=
  .new "pair" [⟨some 5e-5, none, none, some 0.02, some 1e-6⟩, .unknown]
    [⟨"cx", [0], some 0.1, none⟩, ⟨"cx", [0, 1], none, some 3e-7⟩, ⟨"cx", [0, 1], some 0.2, none⟩,
      ⟨"measure", [0], some 0.5, none⟩]

/-- A connected pair of qubits with these rows, with the measurement among its basis gates. -/
def spreadPair : Backend where
  configuration := ⟨"pair", "", 2, ["cx", "measure"], some [⟨0, 1⟩], false, false, none, none⟩
  properties := some spreadRows
  defaults := none
  edges_within := rfl
  qubits_counted := rfl
  commands_within := rfl

/-- The first row of the gate on both qubits is kept, as are the records of the qubits. The row on one
qubit is about nothing that the target has, and it is gone. -/
theorem properties?_ofBackend_spreadPair :
    spreadPair.properties = some spreadRows ∧ 0 < spreadPair.configuration.numQubits ∧
      ∃ p', (ofBackend spreadPair).properties? = some p' ∧ p'.qubits = spreadRows.qubits ∧
        p'.gateLength? "cx" [0, 1] = some 3e-7 ∧ p'.gateError? "cx" [0, 1] = none ∧
        spreadRows.gateError? "cx" [0] = some 0.1 ∧ p'.gateError? "cx" [0] = none := by
  obtain ⟨p', hp', hsurvives⟩ := properties?_ofBackend (b := spreadPair) rfl (by decide)
  have htwo : spreadPair.IsTwoQubit "cx" :=
    ⟨_, rfl, _, List.mem_cons_of_mem _ List.mem_cons_self, rfl, rfl⟩
  have hedge : ((ofBackend spreadPair).instruction? "cx" [0, 1]).isSome = true :=
    SortedMap.mem_keys_iff.1 (mem_keys_ofBackend.2
      (.edge (e := ⟨0, 1⟩) List.mem_cons_self htwo List.mem_cons_self))
  have hsingle : ¬((ofBackend spreadPair).instruction? "cx" [0]).isSome = true := by
    intro hsome
    have hreg := mem_keys_ofBackend.1 (SortedMap.mem_keys_iff.2 hsome)
    exact absurd (hreg.length_eq_two htwo (by decide)) (by decide)
  have hlength := hsurvives.gateLength "cx" [0, 1] (by decide)
  have herror := hsurvives.gateError "cx" [0, 1] (by decide)
  have hgone := hsurvives.gateError "cx" [0] (by decide)
  rw [if_pos hedge] at hlength herror
  rw [if_neg hsingle] at hgone
  exact ⟨rfl, by decide, p', hp', hsurvives.qubits, hlength, herror, rfl, hgone⟩

end Target

end PresetPipeline
