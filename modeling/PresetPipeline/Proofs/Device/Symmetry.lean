import PresetPipeline.Proofs.Device.Record

/-!
# Directions of edges

* `CouplingMap.isSymmetric_iff` — the test looks for the reverse of every edge.
* `isConnected_bidirectional` — both directions of every edge that a count of qubits can cover.
* `isConnected_linear` — the neighbours on a chain, in both directions.
* `checkedLinear` — the chain, with a check for overflow wherever a number is made.
  `checkedLinear_eq` — no check ever fails.
-/

set_option autoImplicit false

namespace PresetPipeline.CouplingMap

variable {m : CouplingMap} {n a b : Qubit} {edges : List Edge} {e : Edge}

/-- A map is symmetric if its edges are closed under reversal. -/
theorem isSymmetric_iff : m.isSymmetric = true ↔ ∀ e ∈ m.edges.toList, e.reverse ∈ m.edges.toList := by
  simp only [isSymmetric, List.all_eq_true, isConnected_iff]
  rfl

/-! ## Both directions -/

theorem mem_flatMap_reverse :
    e ∈ (edges.flatMap fun e => [e, e.reverse]) ↔ e ∈ edges ∨ e.reverse ∈ edges := by
  rw [List.mem_flatMap]
  constructor
  · rintro ⟨e', he', he⟩
    rcases List.mem_cons.1 he with rfl | he
    · exact .inl he'
    · rw [List.mem_singleton.1 he]
      exact .inr he'
  · rintro (he | he)
    · exact ⟨e, he, List.mem_cons_self⟩
    · exact ⟨e.reverse, he, List.mem_cons_of_mem _ List.mem_cons_self⟩

/-- Only an edge on the highest number has no direction left. -/
theorem isConnected_bidirectional :
    (bidirectional n edges).isConnected a b = true ↔
      (⟨a, b⟩ ∈ edges ∨ ⟨b, a⟩ ∈ edges) ∧ a ≠ topQubit ∧ b ≠ topQubit := by
  rw [isConnected_iff, bidirectional, mem_edges_ofEdges, mem_flatMap_reverse,
    Edge.touchesTop_eq_false]
  rfl

theorem isSymmetric_bidirectional (n : Qubit) (edges : List Edge) :
    (bidirectional n edges).isSymmetric = true := by
  rw [isSymmetric_iff]
  rintro ⟨a, b⟩ he
  rw [← isConnected_iff, isConnected_bidirectional] at he
  show (⟨b, a⟩ : Edge) ∈ _
  rw [← isConnected_iff, isConnected_bidirectional]
  exact ⟨he.1.symm, he.2.2, he.2.1⟩

/-! ## The chain -/

/-- The steps from each of the first `n` qubits to the next one. -/
def steps (n : Qubit) : List Edge :=
  (List.range (n.toNat - 1)).map fun i => ⟨i.toUInt32, (i + 1).toUInt32⟩

theorem toNat_toUInt32 {i : Nat} (h : i < n.toNat) : i.toUInt32.toNat = i := by
  have hn := n.toNat_lt
  rw [Nat.toUInt32_eq, UInt32.toNat_ofNat_of_lt']
  simp only [UInt32.size]
  omega

theorem mem_steps : ⟨a, b⟩ ∈ steps n ↔ a.toNat + 1 = b.toNat ∧ b < n := by
  rw [steps, List.mem_map, UInt32.lt_iff_toNat_lt]
  constructor
  · rintro ⟨i, hi, heq⟩
    rw [List.mem_range] at hi
    cases heq
    rw [toNat_toUInt32 (n := n) (by omega), toNat_toUInt32 (n := n) (by omega)]
    exact ⟨rfl, by omega⟩
  · rintro ⟨hstep, hb⟩
    refine ⟨a.toNat, List.mem_range.2 (by omega), ?_⟩
    rw [hstep, Nat.toUInt32_eq, Nat.toUInt32_eq, UInt32.ofNat_toNat, UInt32.ofNat_toNat]

/-- On the chain a qubit is connected to the one before it and the one after it. -/
theorem isConnected_linear :
    (linear n).isConnected a b = true ↔
      a < n ∧ b < n ∧ ((a.toNat : Int) - b.toNat).natAbs = 1 := by
  have hn := n.toNat_lt
  have htop : topQubit.toNat = 4294967295 := rfl
  rw [linear, isConnected_bidirectional]
  change (⟨a, b⟩ ∈ steps n ∨ ⟨b, a⟩ ∈ steps n) ∧ _ ↔ _
  rw [mem_steps, mem_steps]
  simp only [UInt32.lt_iff_toNat_lt, ne_eq, ← UInt32.toNat_inj, htop]
  -- both ends are below a count, so neither is the highest number and no edge is left out
  omega

theorem numQubits_linear (n : Qubit) : (linear n).numQubits = n := by
  apply (isGraphOf_linear n).numQubits_eq
  rintro ⟨a, b⟩ he
  rw [← isConnected_iff, isConnected_linear, UInt32.lt_iff_toNat_lt, UInt32.lt_iff_toNat_lt] at he
  exact ⟨he.1, he.2.1⟩

/-- One less, or zero. -/
def saturatingPred (n : Qubit) : Qubit := if n = 0 then 0 else n - 1

/-- The chain, with a check for overflow at every step from a qubit to the next, and in the width of the
edges. -/
def checkedLinear (n : Qubit) : Option CouplingMap := do
  let steps ← (List.range (saturatingPred n).toNat).mapM fun i =>
    (checkedSucc i.toUInt32).map fun next => (⟨i.toUInt32, next⟩ : Edge)
  let m := bidirectional n steps
  let _ ← checkedWidth m.edges.toList
  some m

/-- Where every element has a value, the whole list has. -/
theorem mapM_eq_some {α β : Type} {f : α → Option β} {g : α → β} {l : List α}
    (h : ∀ a ∈ l, f a = some (g a)) : l.mapM f = some (l.map g) := by
  induction l with
  | nil => rfl
  | cons a rest ih =>
    obtain ⟨ha, hrest⟩ := List.forall_mem_cons.1 h
    rw [List.mapM_cons, ha, ih hrest]
    rfl

theorem saturatingPred_toNat (n : Qubit) : (saturatingPred n).toNat = n.toNat - 1 := by
  unfold saturatingPred
  split
  · rename_i hn
    rw [hn]
    rfl
  · rename_i hn
    have hpos : n.toNat ≠ 0 := fun h => hn (UInt32.toNat_inj.1 h)
    have hone : (1 : UInt32) ≤ n := by
      rw [UInt32.le_iff_toNat_le]
      exact Nat.one_le_iff_ne_zero.2 hpos
    rw [UInt32.toNat_sub_of_le _ _ hone]
    rfl

/-- The qubit before the last one is not the highest number. -/
theorem checkedSucc_step {i : Nat} (h : i < n.toNat - 1) :
    checkedSucc i.toUInt32 = some (i + 1).toUInt32 := by
  have hn := n.toNat_lt
  have hi : i.toUInt32.toNat = i := toNat_toUInt32 (n := n) (by omega)
  have hsucc : (i + 1).toUInt32.toNat = i + 1 := toNat_toUInt32 (n := n) (by omega)
  have hoff : i.toUInt32 ≠ topQubit := ne_topQubit_of_lt (n := n) (by omega)
  rw [checkedSucc, if_neg hoff, Option.some.injEq]
  apply UInt32.toNat_inj.1
  rw [hsucc, UInt32.toNat_add, hi]
  simp only [UInt32.reduceToNat]
  omega

/-- The edges that are left after those on the highest number have a width. -/
theorem checkedWidth_ofEdges (n : Qubit) (edges : List Edge) :
    checkedWidth (ofEdges n edges).edges.toList = some (edgesWidth (ofEdges n edges).edges.toList) := by
  rw [checkedWidth_eq, if_neg]
  rintro htop
  obtain ⟨e, he, htop⟩ := List.any_eq_true.1 htop
  rw [(mem_edges_ofEdges.1 he).2] at htop
  cases htop

/-- No check fails, at whatever count. -/
theorem checkedLinear_eq (n : Qubit) : checkedLinear n = some (linear n) := by
  have hsteps : ((List.range (saturatingPred n).toNat).mapM fun i =>
      (checkedSucc i.toUInt32).map fun next => (⟨i.toUInt32, next⟩ : Edge)) = some (steps n) := by
    rw [saturatingPred_toNat]
    apply mapM_eq_some
    intro i hi
    rw [checkedSucc_step (List.mem_range.1 hi)]
    rfl
  have hwidth : checkedWidth (bidirectional n (steps n)).edges.toList =
      some (edgesWidth (bidirectional n (steps n)).edges.toList) := checkedWidth_ofEdges n _
  unfold checkedLinear
  rw [hsteps]
  show (checkedWidth (bidirectional n (steps n)).edges.toList).bind (fun _ => some _) = _
  rw [hwidth]
  rfl

end PresetPipeline.CouplingMap
