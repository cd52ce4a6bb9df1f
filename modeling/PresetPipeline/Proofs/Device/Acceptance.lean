import PresetPipeline.Device.Error
import PresetPipeline.Proofs.Device.Calibration
import PresetPipeline.Proofs.Device.Record

/-!
# Records that make a backend

The records of a device are accepted if everything that they name is on the device. From then on
nothing that they list is lost.

* `Configuration.EdgesWithin`, `QubitsCounted`, `CommandsWithin` — the three conditions.
  `edgeOutside?_eq_none_iff`, `miscounted?_eq_none_iff`, `commandOutside?_eq_none_iff` — each has its
  check.
* `IsFirstAstray` — the first command that leaves the device.
* `RecordFault.Says` — the words for a disagreement.
* `Configuration.Disagree` — what is reported of records in disagreement: of the conditions the first
  that fails, and of a list the first member that is outside.
* `ofRecords_eq_ok_iff`, `ofRecords_eq_error_iff` — the check of the records, both ways.
* `Backend.TellsRecords` — the graph has the listed edges on the qubits of the device, the schedules
  are those of the last commands. `tellsRecords` — this holds of every backend.
* `ofRecords_exact` — which records are accepted, what is reported of the others, and what a backend
  tells.
-/

set_option autoImplicit false

namespace PresetPipeline

/-! ## The conditions -/

/-- The first command of a list that names a qubit outside a count. -/
def IsFirstAstray (n : Qubit) (commands : List Command) (k : Command) : Prop :=
  ∃ before after, commands = before ++ k :: after ∧ (∀ k' ∈ before, ∀ q ∈ k'.qubits, q < n) ∧
    ∃ q ∈ k.qubits, n ≤ q

theorem any_le_eq_true_iff {n : Qubit} {qubits : List Qubit} :
    (qubits.any fun q => decide (n ≤ q)) = true ↔ ∃ q ∈ qubits, n ≤ q := by
  simp

theorem any_le_eq_false_iff {n : Qubit} {qubits : List Qubit} :
    (qubits.any fun q => decide (n ≤ q)) = false ↔ ∀ q ∈ qubits, q < n := by
  simp

namespace Configuration

variable {c : Configuration} {properties : Option Properties} {defaults : Option PulseDefaults}

/-- Both ends of every listed edge are on the device. -/
def EdgesWithin (c : Configuration) : Prop :=
  ∀ edges ∈ c.couplingEdges, ∀ e ∈ edges, e.control < c.numQubits ∧ e.target < c.numQubits

/-- The properties have a record for each qubit. -/
def QubitsCounted (c : Configuration) (properties : Option Properties) : Prop :=
  ∀ p ∈ properties, p.qubits.length = c.numQubits.toNat

/-- Every command names qubits of the device only. -/
def CommandsWithin (c : Configuration) (defaults : Option PulseDefaults) : Prop :=
  ∀ d ∈ defaults, ∀ k ∈ d.commands, ∀ q ∈ k.qubits, q < c.numQubits

/-- How records disagree. A later condition is told of only if the earlier ones hold. -/
inductive Disagree (c : Configuration) (properties : Option Properties)
    (defaults : Option PulseDefaults) : RecordFault → Prop where
  | edge {edges : List Edge} {e : Edge} : c.couplingEdges = some edges →
      CouplingMap.IsFirstOutside c.numQubits edges e →
      Disagree c properties defaults (.edgeOutside e c.numQubits)
  | count {p : Properties} : c.EdgesWithin → properties = some p →
      p.qubits.length ≠ c.numQubits.toNat →
      Disagree c properties defaults (.qubitRecords p.qubits.length c.numQubits)
  | command {d : PulseDefaults} {k : Command} : c.EdgesWithin → c.QubitsCounted properties →
      defaults = some d → IsFirstAstray c.numQubits d.commands k →
      Disagree c properties defaults (.commandOutside k.name k.qubits c.numQubits)

/-! ## The checks -/

theorem edgeOutside?_eq_none_iff : c.edgeOutside? = none ↔ c.EdgesWithin := by
  unfold edgeOutside? EdgesWithin
  rw [CouplingMap.find?_outside_eq_none_iff]
  cases c.couplingEdges with
  | none => simp [Covers]
  | some edges => simp [Covers, UInt32.lt_iff_toNat_lt]

theorem edgeOutside?_eq_some_iff {e : Edge} :
    c.edgeOutside? = some e ↔
      ∃ edges, c.couplingEdges = some edges ∧ CouplingMap.IsFirstOutside c.numQubits edges e := by
  unfold edgeOutside?
  cases c.couplingEdges with
  | none => simp
  | some edges => simp [CouplingMap.find?_outside_eq_some_iff]

theorem miscounted?_eq_none_iff : c.miscounted? properties = none ↔ c.QubitsCounted properties := by
  unfold miscounted? QubitsCounted
  cases properties with
  | none => simp
  | some p => simp

theorem miscounted?_eq_some_iff {k : Nat} :
    c.miscounted? properties = some k ↔
      ∃ p, properties = some p ∧ p.qubits.length ≠ c.numQubits.toNat ∧ p.qubits.length = k := by
  unfold miscounted?
  cases properties with
  | none => simp
  | some p => simp

theorem commandOutside?_eq_none_iff :
    c.commandOutside? defaults = none ↔ c.CommandsWithin defaults := by
  unfold commandOutside? CommandsWithin
  cases defaults with
  | none => simp
  | some d =>
    simp only [Option.bind_some, List.find?_eq_none, Bool.not_eq_true, any_le_eq_false_iff,
      Option.mem_some_iff, forall_eq']

theorem commandOutside?_eq_some_iff {k : Command} :
    c.commandOutside? defaults = some k ↔
      ∃ d, defaults = some d ∧ IsFirstAstray c.numQubits d.commands k := by
  unfold commandOutside? IsFirstAstray
  cases defaults with
  | none => simp
  | some d =>
    simp only [Option.bind_some, List.find?_eq_some_iff_append, any_le_eq_true_iff,
      Bool.not_eq_true', any_le_eq_false_iff, Option.some.injEq, exists_eq_left']
    constructor
    · rintro ⟨hout, before, after, heq, hbefore⟩
      exact ⟨before, after, heq, hbefore, hout⟩
    · rintro ⟨before, after, heq, hbefore, hout⟩
      exact ⟨hout, before, after, heq, hbefore⟩

end Configuration

/-- The instructions with a schedule are those of the commands. -/
theorem PulseDefaults.mem_keys_schedules {d : PulseDefaults} {i : Instruction} :
    i ∈ d.schedules.keys ↔ ∃ k ∈ d.commands, k.instruction = i := by
  unfold PulseDefaults.schedules
  rw [SortedMap.mem_keys_ofList]
  simp only [List.mem_map, Prod.mk.injEq]
  constructor
  · rintro ⟨schedule, k, hk, hi, -⟩
    exact ⟨k, hk, hi⟩
  · rintro ⟨k, hk, hi⟩
    exact ⟨_, k, hk, hi, rfl⟩

/-- How records disagree, in words. -/
inductive RecordFault.Says : RecordFault → String → Prop where
  | declared (configured label : Qubit) :
      Says (.declared configured label)
        ("configuration has " ++ toString configured ++ " qubits, record declares " ++ toString label)
  | edgeOutside (a b n : Qubit) :
      Says (.edgeOutside ⟨a, b⟩ n)
        ("coupling edge " ++ ("(" ++ toString a ++ ", " ++ toString b ++ ")") ++ " outside " ++
          toString n ++ " qubits")
  | qubitRecords (k : Nat) (n : Qubit) :
      Says (.qubitRecords k n)
        ("properties describe " ++ toString k ++ " qubits, configuration has " ++ toString n)
  | commandOutside (name : String) (qubits : List Qubit) (n : Qubit) :
      Says (.commandOutside name qubits n)
        ("calibration '" ++ name ++ "' on " ++ ("[" ++ ", ".intercalate (qubits.map toString) ++ "]") ++
          " outside " ++ toString n ++ " qubits")

theorem RecordFault.says_message (fault : RecordFault) : fault.Says fault.message := by
  cases fault with
  | declared configured label => exact .declared configured label
  | edgeOutside e n => exact .edgeOutside e.control e.target n
  | qubitRecords k n => exact .qubitRecords k n
  | commandOutside name qubits n => exact .commandOutside name qubits n

namespace Backend

variable {c : Configuration} {properties : Option Properties} {defaults : Option PulseDefaults}
  {b : Backend} {fault : RecordFault}

/-! ## Acceptance -/

/-- Records of which each check finds nothing are those of a backend. -/
theorem ofRecords_eq_ok_iff :
    ofRecords c properties defaults = .ok b ↔
      b.configuration = c ∧ b.properties = properties ∧ b.defaults = defaults := by
  constructor
  · intro h
    unfold ofRecords at h
    split at h
    · cases h
    · split at h
      · cases h
      · split at h
        · cases h
        · cases h
          exact ⟨rfl, rfl, rfl⟩
  · rintro ⟨rfl, rfl, rfl⟩
    unfold ofRecords
    split
    · rename_i e he
      rw [b.edges_within] at he
      cases he
    · split
      · rename_i k hk
        rw [b.qubits_counted] at hk
        cases hk
      · split
        · rename_i k hk
          rw [b.commands_within] at hk
          cases hk
        · rfl

theorem exists_ofRecords_iff :
    (∃ b, ofRecords c properties defaults = .ok b) ↔
      c.EdgesWithin ∧ c.QubitsCounted properties ∧ c.CommandsWithin defaults := by
  rw [← Configuration.edgeOutside?_eq_none_iff, ← Configuration.miscounted?_eq_none_iff,
    ← Configuration.commandOutside?_eq_none_iff]
  constructor
  · rintro ⟨b, hb⟩
    obtain ⟨rfl, rfl, rfl⟩ := ofRecords_eq_ok_iff.1 hb
    exact ⟨b.edges_within, b.qubits_counted, b.commands_within⟩
  · rintro ⟨hedges, hcount, hcommands⟩
    exact ⟨⟨c, properties, defaults, hedges, hcount, hcommands⟩,
      ofRecords_eq_ok_iff.2 ⟨rfl, rfl, rfl⟩⟩

/-- The first check that finds something decides what is reported. -/
theorem ofRecords_eq_error_iff_found :
    ofRecords c properties defaults = .error fault ↔
      (∃ e, c.edgeOutside? = some e ∧ .edgeOutside e c.numQubits = fault) ∨
        c.edgeOutside? = none ∧ ((∃ k, c.miscounted? properties = some k ∧
            .qubitRecords k c.numQubits = fault) ∨
          c.miscounted? properties = none ∧ ∃ k, c.commandOutside? defaults = some k ∧
            .commandOutside k.name k.qubits c.numQubits = fault) := by
  unfold ofRecords
  split
  · rename_i e he
    simp [he]
  · rename_i hedges
    split
    · rename_i k hk
      simp [hedges, hk]
    · rename_i hcount
      split
      · rename_i k hk
        simp [hedges, hcount, hk]
      · rename_i hcommands
        simp [hedges, hcount, hcommands]

theorem ofRecords_eq_error_iff :
    ofRecords c properties defaults = .error fault ↔ c.Disagree properties defaults fault := by
  rw [ofRecords_eq_error_iff_found, Configuration.edgeOutside?_eq_none_iff,
    Configuration.miscounted?_eq_none_iff]
  simp only [Configuration.edgeOutside?_eq_some_iff, Configuration.miscounted?_eq_some_iff,
    Configuration.commandOutside?_eq_some_iff]
  constructor
  · rintro (⟨e, ⟨edges, hedges, hfirst⟩, rfl⟩ | ⟨hwithin, ⟨k, ⟨p, hp, hne, rfl⟩, rfl⟩ |
      ⟨hcount, k, ⟨d, hd, hfirst⟩, rfl⟩⟩)
    · exact .edge hedges hfirst
    · exact .count hwithin hp hne
    · exact .command hwithin hcount hd hfirst
  · intro h
    cases h with
    | edge hedges hfirst => exact .inl ⟨_, ⟨_, hedges, hfirst⟩, rfl⟩
    | count hwithin hp hne => exact .inr ⟨hwithin, .inl ⟨_, ⟨_, hp, hne, rfl⟩, rfl⟩⟩
    | command hwithin hcount hd hfirst =>
      exact .inr ⟨hwithin, .inr ⟨hcount, _, ⟨_, hd, hfirst⟩, rfl⟩⟩

/-! ## What a backend tells -/

/-- A backend tells what its records list. The graph has exactly the qubits of the device and the listed
edges; an instruction has the pulses of the last command that is for it, and no other one has any. -/
structure TellsRecords (b : Backend) : Prop where
  graphless : b.configuration.couplingEdges = none → b.couplingMap? = none
  graph : ∀ edges ∈ b.configuration.couplingEdges, ∃ m ∈ b.couplingMap?,
    m.numQubits = b.configuration.numQubits ∧
      (∀ e, e ∈ m.edges.toList ↔ e ∈ edges) ∧ ∀ x y, m.isConnected x y = true ↔ ⟨x, y⟩ ∈ edges
  unscheduled : b.defaults = none → b.schedules? = none
  schedules : ∀ d ∈ b.defaults, ∃ schedules ∈ b.schedules?,
    (∀ i schedule, schedules.find? i = some schedule ↔
      ∃ k, (d.commands.filter (·.instruction == i)).getLast? = some k ∧ schedule = ⟨k.pulses⟩) ∧
    ∀ i, i ∈ schedules.keys ↔ ∃ k ∈ d.commands, k.instruction = i

/-- The ends of the listed edges are below the count of qubits, so no edge has to be left out and the
count need not be widened. -/
theorem covers_edges (b : Backend) : Covers b.configuration.numQubits.toNat b.edges := by
  intro e he
  obtain ⟨hcontrol, htarget⟩ := lt_of_mem_edges he
  exact ⟨UInt32.lt_iff_toNat_lt.1 hcontrol, UInt32.lt_iff_toNat_lt.1 htarget⟩

theorem isConnected_couplingMap? {edges : List Edge}
    (h : b.configuration.couplingEdges = some edges) :
    ∃ m ∈ b.couplingMap?, m.numQubits = b.configuration.numQubits ∧
      (∀ e, e ∈ m.edges.toList ↔ e ∈ edges) ∧
        ∀ x y, m.isConnected x y = true ↔ ⟨x, y⟩ ∈ edges := by
  have hcovers : Covers b.configuration.numQubits.toNat edges := by
    have hedges := b.covers_edges
    rwa [Backend.edges, h] at hedges
  have hgraph := CouplingMap.isGraphOf_ofEdges b.configuration.numQubits edges
  have hlisted : ∀ e, e ∈ (CouplingMap.ofEdges b.configuration.numQubits edges).edges.toList ↔
      e ∈ edges := fun e =>
    (hgraph.listed e).trans (and_iff_left_of_imp (CouplingMap.off_of_covers hcovers e))
  refine ⟨.ofEdges b.configuration.numQubits edges, ?_,
    CouplingMap.numQubits_ofEdges_of_covers hcovers, hlisted, fun x y => ?_⟩
  · rw [couplingMap?, h]
    rfl
  · rw [hgraph.connected, hlisted]

theorem tellsRecords (b : Backend) : b.TellsRecords where
  graphless h := by
    rw [couplingMap?, h]
    rfl
  graph _ h := isConnected_couplingMap? h
  unscheduled h := by
    rw [schedules?, h]
    rfl
  schedules d h := by
    refine ⟨d.schedules, ?_, fun i schedule => ?_, fun i => PulseDefaults.mem_keys_schedules⟩
    · rw [schedules?, h]
      rfl
    · rw [PulseDefaults.find?_schedules, Option.map_eq_some_iff]
      simp only [eq_comm]
      rfl

/-- **Records are accepted exactly if all that they name is on the device, and then nothing is lost.** Of
records in disagreement the first condition that fails is reported, with the first edge or command
outside. -/
theorem ofRecords_exact (c : Configuration) (properties : Option Properties)
    (defaults : Option PulseDefaults) :
    ((∃ b, ofRecords c properties defaults = .ok b) ↔
        c.EdgesWithin ∧ c.QubitsCounted properties ∧ c.CommandsWithin defaults) ∧
      (∀ fault, ofRecords c properties defaults = .error fault ↔
        c.Disagree properties defaults fault) ∧
      (∀ fault, ofRecords c properties defaults = .error fault → ∃ text, fault.Says text ∧
        (DeviceError.invalidRecord c.name fault).message =
          "Invalid record for device '" ++ c.name ++ "': " ++ text) ∧
      ∀ b, ofRecords c properties defaults = .ok b →
        b.configuration = c ∧ b.properties = properties ∧ b.defaults = defaults ∧
          b.TellsRecords :=
  ⟨exists_ofRecords_iff, fun _ => ofRecords_eq_error_iff,
    fun fault _ => ⟨_, fault.says_message, rfl⟩, fun b h => by
    obtain ⟨hc, hproperties, hdefaults⟩ := ofRecords_eq_ok_iff.1 h
    exact ⟨hc, hproperties, hdefaults, b.tellsRecords⟩⟩

/-- A pair of qubits with an edge, listed twice, from the second to the first. -/
def returnPair : Configuration :=
  ⟨"pair", "", 2, ["cx"], some [⟨1, 0⟩, ⟨1, 0⟩], false, false, none, none⟩

/-- A pulse on the second of two qubits. -/
def secondDrive : Pulse := ⟨"Xp_d1", "d1", 0, 160⟩

/-- Two commands for the second qubit, the later one with a pulse. -/
def calibratedTwice : PulseDefaults := ⟨[], [], [⟨"x", [1], []⟩, ⟨"x", [1], [secondDrive]⟩]⟩

/-- Of wrong edges, a wrong count and a wrong command the edge is reported, and of two wrong edges the
first. Without them the pair is accepted, with its edge in one direction and the pulse of the later
command. -/
theorem ofRecords_exact_returnPair :
    ofRecords { returnPair with couplingEdges := some [⟨1, 0⟩, ⟨1, 2⟩, ⟨3, 0⟩] }
        (some (.new "pair" [] [])) (some ⟨[], [], [⟨"x", [2], []⟩]⟩) =
      .error (.edgeOutside ⟨1, 2⟩ 2) ∧
      ∃ b, ofRecords returnPair none (some calibratedTwice) = .ok b ∧
        ∃ m ∈ b.couplingMap?, m.isConnected 1 0 = true ∧ m.isConnected 0 1 = false ∧
          ∃ schedules ∈ b.schedules?, schedules.find? ⟨"x", [1]⟩ = some ⟨[secondDrive]⟩ := by
  obtain ⟨-, hrefused, -, -⟩ :=
    ofRecords_exact { returnPair with couplingEdges := some [⟨1, 0⟩, ⟨1, 2⟩, ⟨3, 0⟩] }
      (some (.new "pair" [] [])) (some ⟨[], [], [⟨"x", [2], []⟩]⟩)
  obtain ⟨haccepted, -, -, htells⟩ := ofRecords_exact returnPair none (some calibratedTwice)
  refine ⟨(hrefused _).2 (.edge rfl ⟨[⟨1, 0⟩], [⟨3, 0⟩], rfl, by decide, by decide⟩), ?_⟩
  have hagree : returnPair.EdgesWithin ∧ returnPair.QubitsCounted none ∧
      returnPair.CommandsWithin (some calibratedTwice) := by
    refine ⟨?_, ?_, ?_⟩
    · rintro edges ⟨⟩
      decide
    · rintro p ⟨⟩
    · rintro d ⟨⟩
      have hsecond : ∀ q ∈ ([1] : List Qubit), q < returnPair.numQubits :=
        List.forall_mem_singleton.2 (show (1 : Qubit) < 2 by decide)
      exact List.forall_mem_cons.2 ⟨hsecond, List.forall_mem_singleton.2 hsecond⟩
  obtain ⟨b, hb⟩ := haccepted.2 hagree
  obtain ⟨hc, -, hdefaults, htells⟩ := htells b hb
  obtain ⟨m, hm, -, -, hconnected⟩ := htells.graph [⟨1, 0⟩, ⟨1, 0⟩] (by rw [hc]; rfl)
  obtain ⟨schedules, hschedules, hfind, -⟩ := htells.schedules calibratedTwice (by rw [hdefaults]; rfl)
  refine ⟨b, hb, m, hm, ?_, ?_, schedules, hschedules, ?_⟩
  · rw [hconnected]
    decide
  · rw [Bool.eq_false_iff, ne_eq, hconnected]
    decide
  · exact (hfind _ _).2 ⟨⟨"x", [1], [secondDrive]⟩, by decide, rfl⟩

end Backend

end PresetPipeline
