import Mathlib.Order.Bounds.Basic
import PresetPipeline.Device.Reading
import PresetPipeline.Json.Document

/-!
# Coupling maps of edge lists

A coupling map is determined by the set of its listed edges and a least count of qubits.

* `CouplingMap.IsGraphOf` — a map has the listed edges that a count of qubits can cover, in order, and
  the least count that covers them. `IsGraphOf.unique` — there is only one such map.
* `IsGraphOf.isGreatest_numQubits` — its count is the given one, or one more than its highest end.
* `isGraphOf_ofEdges`, `isGraphOf_ofRecord`, `isGraphOf_read` — what is built from a list, from a
  record and from a document is such a map.
* `tryOfEdges_eq`, `tryOfEdges_kept` — the two ways to build a map differ in one edge that is on the
  highest number: it is refused or left out.
* `numQubits_tryOfEdges` — where a map is built, its count is the width that is counted with a check for
  overflow at each edge.
* `ofEdges_canonical` — all of this for any count and any list.
-/

set_option autoImplicit false

namespace PresetPipeline

variable {n : Qubit} {edges edges' : List Edge} {e : Edge}

/-- The least bound of a set of counts is one of them. -/
theorem isGreatest_of_le_iff {s : Set Nat} {k : Nat} (hs : s.Nonempty)
    (h : ∀ bound, k ≤ bound ↔ ∀ x ∈ s, x ≤ bound) : IsGreatest s k := by
  have hupper : ∀ x ∈ s, x ≤ k := (h k).1 (Nat.le_refl k)
  refine ⟨Classical.byContradiction fun hk => ?_, hupper⟩
  have hbelow : ∀ x ∈ s, x ≤ k - 1 := by
    intro x hx
    have hle := hupper x hx
    have hne : x ≠ k := fun heq => hk (heq ▸ hx)
    omega
  have hless : k ≤ k - 1 := (h (k - 1)).2 hbelow
  obtain ⟨x, hx⟩ := hs
  have hle := hbelow x hx
  have hzero : x = k := by omega
  exact hk (hzero ▸ hx)

namespace CouplingMap

variable {m m' : CouplingMap}

/-! ## The map of a list -/

/-- The map has exactly the listed edges off the highest number, in increasing order. All their ends
are qubits of the map, and from `n` on no smaller count would do. -/
structure IsGraphOf (m : CouplingMap) (n : Qubit) (edges : List Edge) : Prop where
  increasing : StrictlySorted m.edges.toList
  listed : ∀ e, e ∈ m.edges.toList ↔ e ∈ edges ∧ e.control ≠ topQubit ∧ e.target ≠ topQubit
  connected : ∀ a b, m.isConnected a b = true ↔ ⟨a, b⟩ ∈ m.edges.toList
  inRange : ∀ e ∈ m.edges.toList, e.control < m.numQubits ∧ e.target < m.numQubits
  atLeast : n ≤ m.numQubits
  least : ∀ k : Nat, n.toNat ≤ k →
    (∀ e ∈ m.edges.toList, e.control.toNat < k ∧ e.target.toNat < k) → m.numQubits.toNat ≤ k

theorem isGraphOf_ofEdges (n : Qubit) (edges : List Edge) : (ofEdges n edges).IsGraphOf n edges where
  increasing := (ofEdges n edges).edges.sorted
  listed e := by rw [mem_edges_ofEdges, Edge.touchesTop_eq_false]
  connected _ _ := isConnected_iff
  inRange := (ofEdges n edges).inRange
  atLeast := by
    rw [numQubits_ofEdges, UInt32.le_iff_toNat_le, max_toNat]
    exact Nat.le_max_left _ _
  least k hk hcover := by
    rw [numQubits_ofEdges, max_toNat, Nat.max_le]
    refine ⟨hk, edgesWidth_le_iff.2 fun e he => ?_⟩
    have hkept := mem_kept.1 he
    have hends := hcover e (mem_edges_ofEdges.2 hkept)
    rw [Edge.width_toNat hkept.2]
    omega

/-- The count of the map is the given one, or one more than its highest end. -/
theorem IsGraphOf.isGreatest_numQubits (h : m.IsGraphOf n edges) :
    IsGreatest (insert n.toNat
        {k | ∃ e ∈ m.edges.toList, k = e.control.toNat + 1 ∨ k = e.target.toNat + 1})
      m.numQubits.toNat := by
  apply isGreatest_of_le_iff (Set.insert_nonempty _ _)
  intro bound
  rw [Set.forall_mem_insert]
  constructor
  · intro hbound
    have hn := UInt32.le_iff_toNat_le.1 h.atLeast
    refine ⟨by omega, ?_⟩
    rintro k ⟨e, he, hk⟩
    obtain ⟨hcontrol, htarget⟩ := h.inRange e he
    rw [UInt32.lt_iff_toNat_lt] at hcontrol htarget
    omega
  · rintro ⟨hn, hends⟩
    refine h.least bound hn fun e he => ?_
    have hcontrol := hends _ ⟨e, he, .inl rfl⟩
    have htarget := hends _ ⟨e, he, .inr rfl⟩
    omega

/-- The map is determined by its count and the set of the edges that it keeps. -/
theorem IsGraphOf.unique (h : m.IsGraphOf n edges) (h' : m'.IsGraphOf n edges')
    (hset : ∀ e, e.touchesTop = false → (e ∈ edges ↔ e ∈ edges')) : m = m' := by
  have hmem : ∀ e, e ∈ m.edges.toList ↔ e ∈ m'.edges.toList := by
    intro e
    rw [h.listed, h'.listed, ← Edge.touchesTop_eq_false]
    exact and_congr_left (hset e)
  have hends : ∀ {m : CouplingMap}, ∀ e ∈ m.edges.toList,
      e.control.toNat < m.numQubits.toNat ∧ e.target.toNat < m.numQubits.toNat := by
    intro m e he
    obtain ⟨hcontrol, htarget⟩ := m.inRange e he
    exact ⟨UInt32.lt_iff_toNat_lt.1 hcontrol, UInt32.lt_iff_toNat_lt.1 htarget⟩
  apply ext_edges
  · apply UInt32.toNat_inj.1
    apply Nat.le_antisymm
    · exact h.least _ (UInt32.le_iff_toNat_le.1 h'.atLeast) fun e he => hends e ((hmem e).1 he)
    · exact h'.least _ (UInt32.le_iff_toNat_le.1 h.atLeast) fun e he => hends e ((hmem e).2 he)
  · exact SortedSet.ext_mem hmem

/-! ## Refusing and leaving out -/

theorem any_touchesTop_iff :
    edges.any Edge.touchesTop = true ↔
      ∃ e ∈ edges, e.control = topQubit ∨ e.target = topQubit := by
  simp only [List.any_eq_true, Edge.touchesTop_iff]

theorem tryOfEdges_eq :
    tryOfEdges n edges =
      if ∃ e ∈ edges, e.control = topQubit ∨ e.target = topQubit then .error .topQubit
      else .ok (ofEdges n edges) := by
  simp only [tryOfEdges_eq_ite, any_touchesTop_iff]

/-- Of what is left, nothing is refused. -/
theorem tryOfEdges_kept :
    tryOfEdges n (edges.filter fun e => !e.touchesTop) = .ok (ofEdges n edges) := by
  have hoff : (edges.filter fun e => !e.touchesTop).any Edge.touchesTop = false := by
    simp
  have hkept : ofEdges n (edges.filter fun e => !e.touchesTop) = ofEdges n edges := by
    apply (isGraphOf_ofEdges n _).unique (isGraphOf_ofEdges n edges)
    intro e he
    simp [he]
  rw [tryOfEdges_eq_ite, hoff, if_neg Bool.false_ne_true, hkept]

/-- Where a map is built, its count is the one that is counted with a check, and nowhere else does the
check succeed. -/
theorem numQubits_tryOfEdges :
    (tryOfEdges n edges).toOption.map (·.numQubits) =
      (checkedWidth (sortUnique edges)).map (max n) := by
  unfold tryOfEdges
  split
  · rename_i hnone
    rw [hnone]
    rfl
  · rename_i w hw
    show some (max n w) = _
    rw [hw]
    rfl

/-! ## Every way to build a map -/

theorem isGraphOf_new (n : Qubit) : (new n).IsGraphOf n [] where
  increasing := .nil
  listed e := by
    show e ∈ [] ↔ _
    simp
  connected _ _ := isConnected_iff
  inRange := (new n).inRange
  atLeast := UInt32.le_refl n
  least _ hk _ := hk

/-- The neighbours on the chain of the first `n` qubits, in both directions. -/
def chain (n : Qubit) : List Edge :=
  (List.range (n.toNat - 1)).flatMap fun i =>
    [⟨i.toUInt32, (i + 1).toUInt32⟩, ⟨(i + 1).toUInt32, i.toUInt32⟩]

theorem isGraphOf_linear (n : Qubit) : (linear n).IsGraphOf n (chain n) := by
  have hchain : linear n = ofEdges n (chain n) := by
    rw [linear, bidirectional, List.flatMap_map]
    rfl
  rw [hchain]
  exact isGraphOf_ofEdges n (chain n)

/-- Where a map is built from a list at all, it has every edge of the list. -/
theorem isGraphOf_tryOfEdges (h : tryOfEdges n edges = .ok m) : m.IsGraphOf n edges := by
  rw [tryOfEdges_eq_ite] at h
  split at h
  · cases h
  · cases h
    exact isGraphOf_ofEdges n edges

theorem isGraphOf_ofRecord {r : CouplingRecord} (h : ofRecord r = .ok m) :
    m.IsGraphOf (r.numQubits.getD 0) r.edges := by
  unfold ofRecord at h
  split at h
  · rename_i hn
    rw [hn]
    exact isGraphOf_tryOfEdges h
  · rename_i k hn
    split at h
    · cases h
    · rw [hn]
      exact isGraphOf_tryOfEdges h

/-- A map that is read from a document is that of its record. -/
theorem isGraphOf_read {δ : Type} [Document δ] {d : δ} {k k' : Nat}
    (h : readCouplingMap d k = .ok (m, k')) :
    ∃ r, couplingShape.read d k = .ok (r, k') ∧ m.IsGraphOf (r.numQubits.getD 0) r.edges := by
  unfold readCouplingMap at h
  split at h
  · cases h
  · rename_i r k'' hread
    split at h
    · cases h
    · rename_i hrecord
      cases h
      exact ⟨r, hread, isGraphOf_ofRecord hrecord⟩

/-- **A coupling map is canonical and exact, however it is built.** It has the edges that are listed
and can be covered, in increasing order, and the least count that covers them; so neither the order of
the list nor its repetitions count. An edge on the highest number is refused or left out. -/
theorem ofEdges_canonical (n : Qubit) (edges : List Edge) :
    (ofEdges n edges).IsGraphOf n edges ∧
      (tryOfEdges n edges =
        if ∃ e ∈ edges, e.control = topQubit ∨ e.target = topQubit then .error .topQubit
        else .ok (ofEdges n edges)) ∧
      tryOfEdges n (edges.filter fun e => !e.touchesTop) = .ok (ofEdges n edges) ∧
      ((tryOfEdges n edges).toOption.map (·.numQubits) =
        (checkedWidth (sortUnique edges)).map (max n)) ∧
      (∀ edges', (∀ e, e ∈ edges' ↔ e ∈ edges) →
        ofEdges n edges' = ofEdges n edges ∧ tryOfEdges n edges' = tryOfEdges n edges) ∧
      (new n).IsGraphOf n [] ∧
      (bidirectional n edges).IsGraphOf n (edges.flatMap fun e => [e, e.reverse]) ∧
      (linear n).IsGraphOf n (chain n) ∧
      ∀ (δ : Type) [Document δ] (d : δ) (k k' : Nat) (m : CouplingMap),
        readCouplingMap d k = .ok (m, k') →
          ∃ r, couplingShape.read d k = .ok (r, k') ∧ m.IsGraphOf (r.numQubits.getD 0) r.edges := by
  refine ⟨isGraphOf_ofEdges n edges, tryOfEdges_eq, tryOfEdges_kept, numQubits_tryOfEdges, ?_,
    isGraphOf_new n, isGraphOf_ofEdges n _, isGraphOf_linear n, ?_⟩
  · intro edges' hset
    have hmap : ofEdges n edges' = ofEdges n edges :=
      (isGraphOf_ofEdges n edges').unique (isGraphOf_ofEdges n edges) fun e _ => hset e
    refine ⟨hmap, ?_⟩
    rw [tryOfEdges_eq, tryOfEdges_eq, hmap]
    simp only [hset]
  · intro δ _ d k k' m hread
    exact isGraphOf_read hread

/-- Two edges, one of them repeated, and one that no count of qubits covers. -/
def strayEdges : List Edge := [⟨1, 2⟩, ⟨0, topQubit⟩, ⟨0, 1⟩, ⟨1, 2⟩]

/-- A document that lists an edge twice and declares no count. -/
def twiceDocument : JsonSource :=
  let digit (c : Char) : JsonSource := .number ⟨false, [c], [], none⟩
  let edge : JsonSource := .array [digit '1', digit '0'] true
  .object [(some "edges", .array [edge, edge] true)] true

/-- Listed in order and once each, the edges are the same graph: two edges on three qubits. The edge
of the document runs in one direction. -/
theorem ofEdges_canonical_strayEdges :
    ofEdges 1 [⟨0, 1⟩, ⟨0, topQubit⟩, ⟨1, 2⟩] = ofEdges 1 strayEdges ∧
      tryOfEdges 1 strayEdges = .error .topQubit ∧
      (ofEdges 1 strayEdges).isConnected 1 2 = true ∧
      (ofEdges 1 strayEdges).isConnected 2 1 = false ∧
      (ofEdges 1 strayEdges).numQubits = 3 ∧
      ∃ m, readCouplingMap twiceDocument 0 = .ok (m, 0) ∧ m.isConnected 1 0 = true ∧
        m.isConnected 0 1 = false := by
  have hset : ∀ e, e ∈ [⟨0, 1⟩, ⟨0, topQubit⟩, ⟨1, 2⟩] ↔ e ∈ strayEdges := by
    have hto : ∀ e ∈ [⟨0, 1⟩, ⟨0, topQubit⟩, ⟨1, 2⟩], e ∈ strayEdges := by decide
    have hfrom : ∀ e ∈ strayEdges, e ∈ [⟨0, 1⟩, ⟨0, topQubit⟩, ⟨1, 2⟩] := by decide
    exact fun e => ⟨hto e, hfrom e⟩
  obtain ⟨hgraph, hrefused, -, -, hsame, -, -, -, hread⟩ := ofEdges_canonical 1 strayEdges
  refine ⟨(hsame _ hset).1, ?_, ?_, ?_, rfl, ?_⟩
  · rw [hrefused, if_pos (by decide)]
  · rw [hgraph.connected, hgraph.listed]
    decide
  · rw [Bool.eq_false_iff, ne_eq, hgraph.connected, hgraph.listed]
    decide
  · obtain ⟨m, hm⟩ : ∃ m, readCouplingMap twiceDocument 0 = .ok (m, 0) := ⟨_, rfl⟩
    obtain ⟨r, hr, hgraph⟩ := hread JsonSource twiceDocument 0 0 m hm
    have hrecord : couplingShape.read twiceDocument 0 = .ok (⟨none, [⟨1, 0⟩, ⟨1, 0⟩]⟩, 0) := rfl
    rw [hrecord] at hr
    cases hr
    refine ⟨m, hm, ?_, ?_⟩
    · rw [hgraph.connected, hgraph.listed]
      decide
    · rw [Bool.eq_false_iff, ne_eq, hgraph.connected, hgraph.listed]
      decide

end CouplingMap

end PresetPipeline
