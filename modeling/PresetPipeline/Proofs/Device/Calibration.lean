import PresetPipeline.Proofs.Device.Conversion

/-!
# Calibrations of converted backends

Which pulse schedules a target keeps of the backend that it is made from.

* `Backend.commands` — the pulse commands of an instruction, in order.
* `Backend.find?_schedules` — a backend has the schedule of the last command.
* `Target.calibration_of_mem` — whatever else two registrations of an instruction say, they have the
  same schedule.
* `Target.find?_schedules_ofBackend` — a target has the schedules of its instructions, and no others.
* `Backend.IsCarriedBy` — a target has the instructions of a backend, and their schedules.
* `isCarriedBy_ofBackend` — the target that a backend is converted to has them.
-/

set_option autoImplicit false

namespace PresetPipeline

/-! ## The schedules of a backend -/

/-- The instruction that a command is for. -/
def Command.instruction (c : Command) : Instruction := ⟨c.name, c.qubits⟩

def Command.schedule (c : Command) : Schedule := ⟨c.pulses⟩

/-- Of repeated commands the last one counts. -/
theorem PulseDefaults.find?_schedules {d : PulseDefaults} {i : Instruction} :
    d.schedules.find? i =
      (d.commands.filter (·.instruction == i)).getLast?.map Command.schedule := by
  have hlookup := lookup_reverse_filterMap Command.instruction (fun c => some c.schedule) i d.commands
  simp only [Option.map_some, List.filterMap_eq_map', List.getLast?_map] at hlookup
  rw [schedules, SortedMap.find?_ofList]
  exact hlookup

namespace Backend

variable {b : Backend} {i : Instruction}

/-- The pulse commands of an instruction, in order. -/
def commands (b : Backend) (i : Instruction) : List Command :=
  ((b.defaults.map (·.commands)).getD []).filter (·.instruction == i)

theorem find?_schedules :
    b.schedules?.bind (·.find? i) = (b.commands i).getLast?.map Command.schedule := by
  unfold schedules? commands
  cases b.defaults with
  | none => rfl
  | some d => exact PulseDefaults.find?_schedules

theorem find?_getD_schedules :
    (b.schedules?.getD .empty).find? i = b.schedules?.bind (·.find? i) := by
  cases b.schedules? with
  | none => rfl
  | some schedules => rfl

instance (b : Backend) : DecidablePred b.Registers :=
  fun _ => decidable_of_iff _ Target.mem_keys_ofBackend

end Backend

/-! ## The schedules of a target -/

namespace Target

variable {b : Backend} {i : Instruction} {data : InstructionData}

/-- A measurement may be registered as a basis gate and again from its qubit, but its schedule is the
same. -/
theorem calibration_of_mem (h : (i, data) ∈ registrations b) :
    data.calibration = (b.schedules?.getD .empty).find? i := by
  rcases List.mem_append.1 h with hgate | hmeasure
  · obtain ⟨gate, -, hg⟩ := List.mem_flatMap.1 hgate
    obtain ⟨qubits, -, heq⟩ := List.mem_map.1 hg
    cases heq
    rfl
  · obtain ⟨r, -, heq⟩ := List.mem_map.1 hmeasure
    cases heq
    rfl

theorem find?_schedules_ofBackend (b : Backend) (i : Instruction) :
    (ofBackend b).schedules.find? i =
      if b.Registers i then (b.schedules?.getD .empty).find? i else none := by
  rw [find?_schedules]
  cases hdata : (ofBackend b).instructions.find? i with
  | none =>
    have hnot : ¬b.Registers i := fun hreg =>
      SortedMap.find?_eq_none_iff.1 hdata (mem_keys_ofBackend.2 hreg)
    rw [if_neg hnot, Option.bind_none]
  | some data =>
    have hreg : b.Registers i := mem_keys_ofBackend.1 (SortedMap.mem_keys_iff.2 (by rw [hdata]; rfl))
    have hmem : (i, data) ∈ registrations b := SortedMap.mem_of_find?_ofList hdata
    rw [if_pos hreg, Option.bind_some]
    exact calibration_of_mem hmem

end Target

/-! ## What is carried over -/

/-- A target has the instructions of a backend. Its schedules are those of the backend, restricted to
these instructions: each has the pulses of the last command that is for it. -/
structure Backend.IsCarriedBy (b : Backend) (t : Target) : Prop where
  registered : ∀ i, i ∈ t.instructions.keys ↔ b.Registers i
  restricted : t.schedules = (b.schedules?.getD .empty).filter fun e => decide (b.Registers e.1)
  calibrated : ∀ i schedule, t.schedules.find? i = some schedule ↔
    b.Registers i ∧ ∃ c, (b.commands i).getLast? = some c ∧ schedule = ⟨c.pulses⟩

/-- **A converted backend carries over its instructions and their schedules, and nothing else.** -/
theorem isCarriedBy_ofBackend (b : Backend) : b.IsCarriedBy (.ofBackend b) := by
  constructor
  case registered => exact fun _ => Target.mem_keys_ofBackend
  case restricted =>
    apply SortedMap.ext_find?
    intro i
    have hfilter := SortedMap.find?_filter_key (b.schedules?.getD .empty)
      (fun i => decide (b.Registers i)) i
    rw [Target.find?_schedules_ofBackend, hfilter]
    simp only [decide_eq_true_eq]
  case calibrated =>
    intro i schedule
    rw [Target.find?_schedules_ofBackend, Backend.find?_getD_schedules, Backend.find?_schedules]
    by_cases hreg : b.Registers i
    · rw [if_pos hreg, Option.map_eq_some_iff]
      simp only [hreg, true_and, eq_comm]
      rfl
    · simp [hreg]

end PresetPipeline
