import PresetPipeline.Device.Error
import PresetPipeline.Proofs.Device.Connectivity

/-!
# Records of coupling maps

A record declares a count of qubits or leaves it open, and lists edges in any order.

* `Covers` — every end of the edges is below a count.
* `isGraphOf_edges`, `ofRecord_toRecord` — a map is the map of its count and its edges, so it is read
  back from its record.
* `CouplingMap.IsFirstOutside` — the first edge that a declared count does not cover.
* `CouplingMap.Says`, `CouplingMap.Tells` — the words for a fault. `tells` — every fault is told in them.
* `CouplingMap.ReadsDeclared` — a declared count must cover the edges; the first edge outside is
  reported.
* `CouplingMap.ReadsOpen` — without a count there must be one that covers the edges; the least is taken.
* `record_exact` — the way there and back, and both kinds of records.
-/

set_option autoImplicit false

namespace PresetPipeline

/-- Every end of the edges is below the count. -/
def Covers (k : Nat) (edges : List Edge) : Prop :=
  ∀ e ∈ edges, e.control.toNat < k ∧ e.target.toNat < k

instance (k : Nat) (edges : List Edge) : Decidable (Covers k edges) :=
  inferInstanceAs (Decidable (∀ e ∈ edges, _ ∧ _))

namespace CouplingMap

variable {m : CouplingMap} {n : Qubit} {edges : List Edge} {e : Edge} {fault : CouplingFault}

theorem within_iff : e.within n = true ↔ e.control.toNat < n.toNat ∧ e.target.toNat < n.toNat := by
  simp [Edge.within, UInt32.lt_iff_toNat_lt]

/-- The highest number is below no count of 32 bits. -/
theorem ne_topQubit_of_lt {q : Qubit} (h : q.toNat < n.toNat) : q ≠ topQubit := by
  rintro rfl
  have hn := n.toNat_lt
  have htop : topQubit.toNat = 4294967295 := rfl
  omega

theorem off_of_covers (h : Covers n.toNat edges) :
    ∀ e ∈ edges, e.control ≠ topQubit ∧ e.target ≠ topQubit :=
  fun e he => ⟨ne_topQubit_of_lt (h e he).1, ne_topQubit_of_lt (h e he).2⟩

/-- A map covers its edges. -/
theorem covers_edges (m : CouplingMap) : Covers m.numQubits.toNat m.edges.toList := by
  intro e he
  obtain ⟨hcontrol, htarget⟩ := m.inRange e he
  exact ⟨UInt32.lt_iff_toNat_lt.1 hcontrol, UInt32.lt_iff_toNat_lt.1 htarget⟩

/-! ## The way there and back -/

/-- A map is the map of its count and its edges. -/
theorem isGraphOf_edges (m : CouplingMap) : m.IsGraphOf m.numQubits m.edges.toList where
  increasing := m.edges.sorted
  listed e := (and_iff_left_of_imp (off_of_covers m.covers_edges e)).symm
  connected _ _ := isConnected_iff
  inRange := m.inRange
  atLeast := UInt32.le_refl _
  least _ hk _ := hk

theorem ofEdges_edges (m : CouplingMap) : ofEdges m.numQubits m.edges.toList = m :=
  (isGraphOf_ofEdges _ _).unique m.isGraphOf_edges fun _ _ => Iff.rfl

/-! ## Records with a count -/

theorem tryOfEdges_of_off (h : ∀ e ∈ edges, e.control ≠ topQubit ∧ e.target ≠ topQubit) :
    tryOfEdges n edges = .ok (ofEdges n edges) := by
  rw [tryOfEdges_eq, if_neg]
  rintro ⟨e, he, htop⟩
  exact not_or.2 (h e he) htop

theorem find?_outside_eq_none_iff :
    (edges.find? fun e => !e.within n) = none ↔ Covers n.toNat edges := by
  rw [List.find?_eq_none]
  refine forall₂_congr fun e _ => ?_
  rw [Bool.not_eq_true', Bool.not_eq_false, within_iff]

/-- The first edge of a list that a count does not cover. -/
def IsFirstOutside (n : Qubit) (edges : List Edge) (e : Edge) : Prop :=
  ∃ before after, edges = before ++ e :: after ∧ Covers n.toNat before ∧
    (n ≤ e.control ∨ n ≤ e.target)

theorem find?_outside_eq_some_iff :
    (edges.find? fun e => !e.within n) = some e ↔ IsFirstOutside n edges e := by
  rw [List.find?_eq_some_iff_append]
  constructor
  · rintro ⟨hout, before, after, heq, hbefore⟩
    refine ⟨before, after, heq, fun a ha => ?_, ?_⟩
    · rw [← within_iff]
      simpa using hbefore a ha
    · simpa [Edge.within, Decidable.imp_iff_not_or] using hout
  · rintro ⟨before, after, heq, hcovers, hout⟩
    refine ⟨?_, before, after, heq, fun a ha => ?_⟩
    · simpa [Edge.within, Decidable.imp_iff_not_or] using hout
    · simpa using within_iff.2 (hcovers a ha)

theorem ofRecord_declared_of_covers (h : Covers n.toNat edges) :
    ofRecord ⟨some n, edges⟩ = .ok (ofEdges n edges) := by
  simp only [ofRecord, find?_outside_eq_none_iff.2 h]
  exact tryOfEdges_of_off (off_of_covers h)

/-- A declared count must cover the edges. -/
theorem ofRecord_declared_eq_ok_iff :
    ofRecord ⟨some n, edges⟩ = .ok m ↔ Covers n.toNat edges ∧ ofEdges n edges = m := by
  constructor
  · intro h
    have hcovers : Covers n.toNat edges := by
      rw [← find?_outside_eq_none_iff]
      simp only [ofRecord] at h
      split at h
      · cases h
      · assumption
    rw [ofRecord_declared_of_covers hcovers] at h
    exact ⟨hcovers, Except.ok.inj h⟩
  · rintro ⟨hcovers, rfl⟩
    exact ofRecord_declared_of_covers hcovers

/-- The first edge that the declared count does not cover is reported. -/
theorem ofRecord_declared_eq_error_iff :
    ofRecord ⟨some n, edges⟩ = .error fault ↔
      ∃ e, IsFirstOutside n edges e ∧ fault = .outside e n := by
  simp only [← find?_outside_eq_some_iff]
  constructor
  · intro h
    cases hfind : edges.find? fun e => !e.within n with
    | none =>
      rw [ofRecord_declared_of_covers (find?_outside_eq_none_iff.1 hfind)] at h
      cases h
    | some e =>
      simp only [ofRecord, hfind] at h
      cases h
      exact ⟨e, rfl, rfl⟩
  · rintro ⟨e, hfind, rfl⟩
    simp only [ofRecord, hfind]

/-- A count that covers the edges is the count of the map: nothing has to be widened. -/
theorem IsGraphOf.numQubits_eq (hgraph : m.IsGraphOf n edges) (h : Covers n.toNat m.edges.toList) :
    m.numQubits = n := by
  apply UInt32.le_antisymm
  · exact UInt32.le_iff_toNat_le.2 (hgraph.least _ (Nat.le_refl _) h)
  · exact hgraph.atLeast

theorem numQubits_ofEdges_of_covers (h : Covers n.toNat edges) : (ofEdges n edges).numQubits = n := by
  have hgraph := isGraphOf_ofEdges n edges
  exact hgraph.numQubits_eq fun e he => h e ((hgraph.listed e).1 he).1

/-- A map is read back from its record. -/
theorem ofRecord_toRecord (m : CouplingMap) : ofRecord m.toRecord = .ok m :=
  ofRecord_declared_eq_ok_iff.2 ⟨m.covers_edges, m.ofEdges_edges⟩

/-! ## Records without a count -/

/-- Without a count, an edge is refused only if no count could cover it. -/
theorem ofRecord_open_eq_ok_iff :
    ofRecord ⟨none, edges⟩ = .ok m ↔
      (∀ e ∈ edges, e.control ≠ topQubit ∧ e.target ≠ topQubit) ∧ ofEdges 0 edges = m := by
  show tryOfEdges 0 edges = .ok m ↔ _
  constructor
  · intro h
    rw [tryOfEdges_eq] at h
    split at h
    · cases h
    · rename_i hoff
      simp only [not_exists, not_and, not_or] at hoff
      exact ⟨hoff, Except.ok.inj h⟩
  · rintro ⟨hoff, rfl⟩
    exact tryOfEdges_of_off hoff

/-- Without edges that are left out, the count is the least that covers the list. -/
theorem isLeast_numQubits (h : ∀ e ∈ edges, e.control ≠ topQubit ∧ e.target ≠ topQubit) :
    IsLeast {k | Covers k edges} (ofEdges 0 edges).numQubits.toNat := by
  have hgraph := isGraphOf_ofEdges 0 edges
  have hlisted : ∀ e, e ∈ (ofEdges 0 edges).edges.toList ↔ e ∈ edges :=
    fun e => (hgraph.listed e).trans (and_iff_left_of_imp (h e))
  constructor
  · intro e he
    exact (ofEdges 0 edges).covers_edges e ((hlisted e).2 he)
  · intro k hk
    exact hgraph.least k (Nat.zero_le k) fun e he => hk e ((hlisted e).1 he)

/-- What is made of a record has its edges. -/
theorem mem_edges_of_ofRecord {r : CouplingRecord} (h : ofRecord r = .ok m) :
    e ∈ m.edges.toList ↔ e ∈ r.edges := by
  have hoff : ∀ e ∈ r.edges, e.control ≠ topQubit ∧ e.target ≠ topQubit := by
    obtain ⟨_ | n, edges⟩ := r
    · exact (ofRecord_open_eq_ok_iff.1 h).1
    · exact off_of_covers (ofRecord_declared_eq_ok_iff.1 h).1
  exact ((isGraphOf_ofRecord h).listed e).trans (and_iff_left_of_imp (hoff e))

/-! ## Both kinds of records -/

/-- Why a list of edges is no map, in words. -/
inductive Says : CouplingFault → String → Prop where
  | topQubit : Says .topQubit "qubit index 4294967295 is out of range"
  | outside (a b n : Qubit) :
      Says (.outside ⟨a, b⟩ n)
        ("edge " ++ ("(" ++ toString a ++ ", " ++ toString b ++ ")") ++ " outside " ++ toString n ++
          " qubits")

/-- The error says that, and that it is about a map. -/
def Tells (fault : CouplingFault) : Prop :=
  ∃ text, Says fault text ∧
    (DeviceError.invalidCouplingMap fault).message = "Invalid coupling map: " ++ text

theorem tells (fault : CouplingFault) : Tells fault := by
  cases fault with
  | topQubit =>
    have hmessage : CouplingFault.topQubit.message = "qubit index 4294967295 is out of range" := by
      decide +kernel
    exact ⟨_, .topQubit, congrArg ("Invalid coupling map: " ++ ·) hmessage⟩
  | outside e n => exact ⟨_, .outside e.control e.target n, rfl⟩

/-- A declared count must cover the edges, and is then the count of the map. -/
structure ReadsDeclared (n : Qubit) (edges : List Edge) : Prop where
  accepted_iff : (∃ m, ofRecord ⟨some n, edges⟩ = .ok m) ↔ ∀ e ∈ edges, e.control < n ∧ e.target < n
  numQubits : ∀ m, ofRecord ⟨some n, edges⟩ = .ok m → m.numQubits = n
  refused_iff : ∀ fault, ofRecord ⟨some n, edges⟩ = .error fault ↔
    ∃ e, IsFirstOutside n edges e ∧ fault = .outside e n
  told : ∀ fault, ofRecord ⟨some n, edges⟩ = .error fault → Tells fault

/-- Without a count, some count must cover the edges, and the least one is that of the map. -/
structure ReadsOpen (edges : List Edge) : Prop where
  accepted_iff : (∃ m, ofRecord ⟨none, edges⟩ = .ok m) ↔
    ∀ e ∈ edges, e.control ≠ topQubit ∧ e.target ≠ topQubit
  numQubits : ∀ m, ofRecord ⟨none, edges⟩ = .ok m → IsLeast {k | Covers k edges} m.numQubits.toNat
  refused : ∀ fault, ofRecord ⟨none, edges⟩ = .error fault → fault = .topQubit
  told : ∀ fault, ofRecord ⟨none, edges⟩ = .error fault → Tells fault

theorem readsDeclared (n : Qubit) (edges : List Edge) : ReadsDeclared n edges where
  accepted_iff := by
    simp only [ofRecord_declared_eq_ok_iff, exists_and_left, exists_eq', and_true, Covers,
      UInt32.lt_iff_toNat_lt]
  numQubits m h := by
    obtain ⟨hcovers, rfl⟩ := ofRecord_declared_eq_ok_iff.1 h
    exact numQubits_ofEdges_of_covers hcovers
  refused_iff _ := ofRecord_declared_eq_error_iff
  told fault _ := tells fault

theorem readsOpen (edges : List Edge) : ReadsOpen edges where
  accepted_iff := by
    simp only [ofRecord_open_eq_ok_iff, exists_and_left, exists_eq', and_true]
  numQubits m h := by
    obtain ⟨hoff, rfl⟩ := ofRecord_open_eq_ok_iff.1 h
    exact isLeast_numQubits hoff
  refused fault h := by
    change tryOfEdges 0 edges = .error fault at h
    rw [tryOfEdges_eq_ite] at h
    split at h
    · exact (Except.error.inj h).symm
    · cases h
  told fault _ := tells fault

/-- **A map is read back from its record, and a record is checked for exactly what a map needs.** A
declared count must cover every edge, an open one must exist; the map that is made has the edges of the
record. -/
theorem record_exact (m : CouplingMap) (n : Qubit) (edges : List Edge) :
    ofRecord m.toRecord = .ok m ∧ ReadsDeclared n edges ∧ ReadsOpen edges ∧
      ∀ r m', ofRecord r = .ok m' → ∀ e, e ∈ m'.edges.toList ↔ e ∈ r.edges :=
  ⟨ofRecord_toRecord m, readsDeclared n edges, readsOpen edges,
    fun _ _ h _ => mem_edges_of_ofRecord h⟩

/-- Three edges of which two qubits cover the first, and no count covers the last. -/
def wideEdges : List Edge := [⟨1, 0⟩, ⟨0, 2⟩, ⟨topQubit, 1⟩]

/-- Of the three edges, two qubits leave the second outside. Without a count the third is refused; the
other two need three qubits. -/
theorem record_exact_wideEdges :
    ofRecord ⟨some 2, wideEdges⟩ = .error (.outside ⟨0, 2⟩ 2) ∧
      (DeviceError.invalidCouplingMap (.outside ⟨0, 2⟩ 2)).message =
        "Invalid coupling map: edge (0, 2) outside 2 qubits" ∧
      (¬∃ m, ofRecord ⟨none, wideEdges⟩ = .ok m) ∧
      ∃ m, ofRecord ⟨none, [⟨1, 0⟩, ⟨0, 2⟩]⟩ = .ok m ∧ m.numQubits.toNat = 3 ∧
        ofRecord m.toRecord = .ok m ∧ (⟨0, 2⟩ : Edge) ∈ m.edges.toList := by
  obtain ⟨-, hdeclared, hopen, -⟩ := record_exact (.new 0) 2 wideEdges
  have herror : ofRecord ⟨some 2, wideEdges⟩ = .error (.outside ⟨0, 2⟩ 2) :=
    (hdeclared.refused_iff _).2 ⟨_, ⟨[⟨1, 0⟩], [⟨topQubit, 1⟩], rfl, by decide, by decide⟩, rfl⟩
  refine ⟨herror, ?_, ?_, ?_⟩
  · obtain ⟨text, hsays, hmessage⟩ := hdeclared.told _ herror
    cases hsays
    exact hmessage.trans (by decide +kernel)
  · rw [hopen.accepted_iff]
    decide
  · obtain ⟨-, -, hopen, -⟩ := record_exact (.new 0) 0 [⟨1, 0⟩, ⟨0, 2⟩]
    obtain ⟨m, hm⟩ := hopen.accepted_iff.2 (by decide)
    obtain ⟨hback, -, -, hedges⟩ := record_exact m 0 []
    refine ⟨m, hm, ?_, hback, (hedges _ m hm _).2 (by decide)⟩
    obtain ⟨hcovers, hleast⟩ := hopen.numQubits m hm
    have hthree : Covers 3 [⟨1, 0⟩, ⟨0, 2⟩] := by decide
    exact Nat.le_antisymm (hleast hthree) (hcovers ⟨0, 2⟩ (by decide)).2

end CouplingMap

end PresetPipeline
