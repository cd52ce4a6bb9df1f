import PresetPipeline.Device.Qubits

/-!
# Coupling maps

The directed graph of the two-qubit interactions that a device allows.

* `CouplingMap` — a count of qubits and a sorted set of edges, every end below the count.
* `checkedWidth` — the width of a list, counted with a check for overflow at each edge.
  `checkedWidth_eq` — the check fails exactly if an edge is on the highest number.
* `CouplingMap.tryOfEdges` — sorts the edges and widens the count to hold every one of them; fails where
  the width does.
* `CouplingMap.ofEdges` — the same, but leaves out edges on the highest number.
* `CouplingMap.ofRecord`, `CouplingMap.toRecord` — a map as it is written.
* `numQubits_ofEdges`, `tryOfEdges_eq_ite` — the two ways to build a map, without the check.
* `isConnected_iff` — a look-up answers membership in the set of edges.
* `ofEdges_congr` — only the set of the listed edges counts.
-/

set_option autoImplicit false

namespace PresetPipeline

/-- Why a list of edges is no coupling map. -/
inductive CouplingFault where
  /-- An edge names the highest number. -/
  | topQubit
  /-- An edge is outside the declared count of qubits. -/
  | outside (edge : Edge) (numQubits : Qubit)
  deriving DecidableEq, Repr

def CouplingFault.message : CouplingFault → String
  | .topQubit => "qubit index " ++ toString PresetPipeline.topQubit ++ " is out of range"
  | .outside e n => "edge " ++ e.text ++ " outside " ++ toString n ++ " qubits"

/-- A directed graph on the first `numQubits` qubits. -/
structure CouplingMap where
  numQubits : Qubit
  edges : SortedSet Edge
  inRange : ∀ e ∈ edges.toList, e.control < numQubits ∧ e.target < numQubits
  deriving DecidableEq

/-- A coupling map as it is written: an optional count of qubits, and edges in any order. -/
structure CouplingRecord where
  numQubits : Option Qubit
  edges : List Edge
  deriving DecidableEq, Repr

/-- The least count of qubits that holds both ends of an edge below the highest number. -/
def Edge.width (e : Edge) : Qubit := max e.control e.target + 1

/-- The least count of qubits that holds every edge. -/
def edgesWidth : List Edge → Qubit
  | [] => 0
  | e :: rest => max e.width (edgesWidth rest)

/-- The next number, if it has 32 bits. -/
def checkedSucc (q : Qubit) : Option Qubit := if q = topQubit then none else some (q + 1)

/-- The width of an edge, if it has 32 bits. -/
def Edge.checkedWidth (e : Edge) : Option Qubit := checkedSucc (max e.control e.target)

/-- The width of a list, counted edge by edge until a width has more than 32 bits. -/
def checkedWidth (edges : List Edge) : Option Qubit :=
  edges.foldlM (fun w e => e.checkedWidth.map (max w)) 0

theorem Edge.touchesTop_eq_false {e : Edge} :
    e.touchesTop = false ↔ e.control ≠ topQubit ∧ e.target ≠ topQubit := by
  simp [Edge.touchesTop]

theorem max_toNat (a b : Qubit) : (max a b).toNat = max a.toNat b.toNat := by
  have hmax : max a b = if a ≤ b then b else a := rfl
  rw [hmax, Nat.max_def]
  simp only [UInt32.le_iff_toNat_le]
  split <;> rfl

theorem Edge.width_toNat {e : Edge} (h : e.touchesTop = false) :
    e.width.toNat = max e.control.toNat e.target.toNat + 1 := by
  obtain ⟨hc, ht⟩ := Edge.touchesTop_eq_false.1 h
  have hc' : e.control.toNat ≠ 4294967295 := fun hn => hc (UInt32.toNat_inj.1 hn)
  have ht' : e.target.toNat ≠ 4294967295 := fun hn => ht (UInt32.toNat_inj.1 hn)
  have h1 := e.control.toNat_lt
  have h2 := e.target.toNat_lt
  rw [Edge.width, UInt32.toNat_add, max_toNat]
  simp only [UInt32.reduceToNat]
  omega

theorem lt_edgesWidth {l : List Edge} (hl : ∀ e ∈ l, e.touchesTop = false) {e : Edge} (he : e ∈ l) :
    e.control < edgesWidth l ∧ e.target < edgesWidth l := by
  induction l with
  | nil => exact absurd he List.not_mem_nil
  | cons a rest ih =>
    rw [edgesWidth, UInt32.lt_iff_toNat_lt, UInt32.lt_iff_toNat_lt, max_toNat]
    rcases List.mem_cons.1 he with rfl | he
    · have := Edge.width_toNat (hl e List.mem_cons_self)
      omega
    · have := ih (fun e h => hl e (List.mem_cons_of_mem _ h)) he
      rw [UInt32.lt_iff_toNat_lt, UInt32.lt_iff_toNat_lt] at this
      omega

/-- A count covers the width of a list if it covers every edge. -/
theorem edgesWidth_le_iff {l : List Edge} {w : Nat} :
    (edgesWidth l).toNat ≤ w ↔ ∀ e ∈ l, e.width.toNat ≤ w := by
  induction l with
  | nil => simp [edgesWidth]
  | cons a rest ih =>
    rw [edgesWidth, max_toNat, Nat.max_le, ih, List.forall_mem_cons]

theorem edgesWidth_congr {l₁ l₂ : List Edge} (h : ∀ e, e ∈ l₁ ↔ e ∈ l₂) :
    edgesWidth l₁ = edgesWidth l₂ := by
  apply UInt32.toNat_inj.1
  apply Nat.le_antisymm
  · exact edgesWidth_le_iff.2 fun e he => edgesWidth_le_iff.1 (Nat.le_refl _) e ((h e).1 he)
  · exact edgesWidth_le_iff.2 fun e he => edgesWidth_le_iff.1 (Nat.le_refl _) e ((h e).2 he)

theorem Edge.touchesTop_iff {e : Edge} :
    e.touchesTop = true ↔ e.control = topQubit ∨ e.target = topQubit := by
  simp [Edge.touchesTop]

theorem max_eq_topQubit {a b : Qubit} : max a b = topQubit ↔ a = topQubit ∨ b = topQubit := by
  have ha := a.toNat_lt
  have hb := b.toNat_lt
  have htop : topQubit.toNat = 4294967295 := rfl
  rw [← UInt32.toNat_inj, ← UInt32.toNat_inj, ← UInt32.toNat_inj, max_toNat]
  omega

theorem Edge.checkedWidth_eq {e : Edge} :
    e.checkedWidth = if e.touchesTop then none else some e.width := by
  unfold checkedWidth checkedSucc
  by_cases h : e.touchesTop = true
  · rw [if_pos (max_eq_topQubit.2 (touchesTop_iff.1 h)), if_pos h]
  · rw [if_neg fun hmax => h (touchesTop_iff.2 (max_eq_topQubit.1 hmax)), if_neg h]
    rfl

/-- The count so far is kept through the rest of the list, as long as no check fails. -/
theorem foldlM_checkedWidth (edges : List Edge) (w : Qubit) :
    edges.foldlM (fun w e => e.checkedWidth.map (max w)) w =
      if edges.any Edge.touchesTop then none else some (max w (edgesWidth edges)) := by
  induction edges generalizing w with
  | nil =>
    have hw : max w 0 = w := by
      apply UInt32.toNat_inj.1
      rw [max_toNat]
      exact Nat.max_zero _
    rw [List.foldlM_nil, edgesWidth, hw]
    rfl
  | cons e rest ih =>
    rw [List.foldlM_cons, Edge.checkedWidth_eq, List.any_cons]
    cases e.touchesTop with
    | true => rfl
    | false =>
      show rest.foldlM (fun w e => e.checkedWidth.map (max w)) (max w e.width) = _
      have hmax : max (max w e.width) (edgesWidth rest) = max w (edgesWidth (e :: rest)) := by
        apply UInt32.toNat_inj.1
        rw [edgesWidth, max_toNat, max_toNat, max_toNat, max_toNat]
        omega
      rw [ih, hmax, Bool.false_or]

theorem checkedWidth_eq (edges : List Edge) :
    checkedWidth edges = if edges.any Edge.touchesTop then none else some (edgesWidth edges) := by
  have hzero : max 0 (edgesWidth edges) = edgesWidth edges := by
    apply UInt32.toNat_inj.1
    rw [max_toNat]
    exact Nat.zero_max _
  rw [checkedWidth, foldlM_checkedWidth, hzero]

/-- A width that has been counted holds every edge of the list. -/
theorem lt_of_checkedWidth {edges : List Edge} {w : Qubit} (h : checkedWidth edges = some w) {e : Edge}
    (he : e ∈ edges) : e.control < w ∧ e.target < w := by
  rw [checkedWidth_eq] at h
  split at h
  · cases h
  · rename_i hoff
    cases h
    refine lt_edgesWidth (fun a ha => ?_) he
    exact Bool.eq_false_iff.2 fun htop => hoff (List.any_eq_true.2 ⟨a, ha, htop⟩)

/-- Off the highest number, no check fails. -/
theorem checkedWidth_of_off {edges : List Edge} (h : ∀ e ∈ edges, e.touchesTop = false) :
    checkedWidth edges = some (edgesWidth edges) := by
  rw [checkedWidth_eq, if_neg]
  rw [List.any_eq_true]
  rintro ⟨e, he, htop⟩
  exact absurd htop (Bool.eq_false_iff.1 (h e he))

namespace CouplingMap

/-- The map without edges. -/
def new (numQubits : Qubit) : CouplingMap :=
  ⟨numQubits, .empty, fun _ h => absurd h List.not_mem_nil⟩

/-- The map of all the edges on at least `numQubits` qubits, or the fault that no count holds them. -/
def tryOfEdges (numQubits : Qubit) (edges : List Edge) : Except CouplingFault CouplingMap :=
  match h : checkedWidth (sortUnique edges) with
  | none => .error .topQubit
  | some w =>
    .ok
      { numQubits := max numQubits w
        edges := .ofList edges
        inRange := fun e he => by
          have hends := lt_of_checkedWidth h (by rwa [SortedSet.toList_ofList] at he)
          rw [UInt32.lt_iff_toNat_lt, UInt32.lt_iff_toNat_lt] at hends ⊢
          rw [max_toNat]
          omega }

/-- The edges that are not on the highest number. -/
def kept (edges : List Edge) : List Edge := edges.filter fun e => !e.touchesTop

theorem mem_kept {edges : List Edge} {e : Edge} :
    e ∈ kept edges ↔ e ∈ edges ∧ e.touchesTop = false := by
  rw [kept, List.mem_filter, Bool.not_eq_true']

/-- The width of the edges that are kept can be counted. -/
theorem checkedWidth_kept (edges : List Edge) :
    checkedWidth (sortUnique (kept edges)) = some (edgesWidth (kept edges)) := by
  rw [checkedWidth_of_off fun e he => (mem_kept.1 (mem_sortUnique.1 he)).2,
    edgesWidth_congr fun _ => mem_sortUnique]

/-- The map of the edges that are not on the highest number, on at least `numQubits` qubits. -/
def ofEdges (numQubits : Qubit) (edges : List Edge) : CouplingMap where
  numQubits := max numQubits ((checkedWidth (sortUnique (kept edges))).getD 0)
  edges := .ofList (kept edges)
  inRange := fun e he => by
    rw [SortedSet.toList_ofList, mem_sortUnique] at he
    have hends := lt_edgesWidth (fun a ha => (mem_kept.1 ha).2) he
    rw [UInt32.lt_iff_toNat_lt, UInt32.lt_iff_toNat_lt] at hends ⊢
    rw [checkedWidth_kept, Option.getD_some, max_toNat]
    omega

/-- The map of the edges and their reverses. -/
def bidirectional (numQubits : Qubit) (edges : List Edge) : CouplingMap :=
  ofEdges numQubits (edges.flatMap fun e => [e, e.reverse])

/-- The chain of the first `n` qubits, in both directions. -/
def linear (n : Qubit) : CouplingMap :=
  bidirectional n ((List.range (n.toNat - 1)).map fun i => ⟨i.toUInt32, (i + 1).toUInt32⟩)

/-- The map of a record. A declared count must hold every edge; without one the least count that
does is taken. -/
def ofRecord (r : CouplingRecord) : Except CouplingFault CouplingMap :=
  match r.numQubits with
  | none => tryOfEdges 0 r.edges
  | some n =>
    match r.edges.find? fun e => !e.within n with
    | some e => .error (.outside e n)
    | none => tryOfEdges n r.edges

/-- The record of a map declares its count. -/
def toRecord (m : CouplingMap) : CouplingRecord := ⟨some m.numQubits, m.edges.toList⟩

/-- Whether a two-qubit gate may run from `a` to `b`. -/
def isConnected (m : CouplingMap) (a b : Qubit) : Bool := m.edges.contains ⟨a, b⟩

/-- Whether there is an edge in either direction. -/
def isAdjacent (m : CouplingMap) (a b : Qubit) : Bool := m.isConnected a b || m.isConnected b a

/-- Whether every edge is there in both directions. -/
def isSymmetric (m : CouplingMap) : Bool :=
  m.edges.toList.all fun e => m.isConnected e.target e.control

theorem isConnected_iff {m : CouplingMap} {a b : Qubit} :
    m.isConnected a b = true ↔ ⟨a, b⟩ ∈ m.edges.toList :=
  SortedSet.contains_iff_mem

/-- Exactly the edges off the highest number are kept. -/
theorem mem_edges_ofEdges {n : Qubit} {edges : List Edge} {e : Edge} :
    e ∈ (ofEdges n edges).edges.toList ↔ e ∈ edges ∧ e.touchesTop = false := by
  rw [ofEdges, SortedSet.mem_ofList, mem_kept]

theorem numQubits_ofEdges (n : Qubit) (edges : List Edge) :
    (ofEdges n edges).numQubits = max n (edgesWidth (kept edges)) := by
  show max n ((checkedWidth (sortUnique (kept edges))).getD 0) = _
  rw [checkedWidth_kept, Option.getD_some]

/-- A map is its count of qubits and its edges. -/
theorem ext_edges {m₁ m₂ : CouplingMap} (hn : m₁.numQubits = m₂.numQubits)
    (he : m₁.edges = m₂.edges) : m₁ = m₂ := by
  cases m₁
  cases m₂
  rw [mk.injEq]
  exact ⟨hn, he⟩

/-- Lists of the same edges, in any order and with any repetitions, give the same map. -/
theorem ofEdges_congr {n : Qubit} {l₁ l₂ : List Edge} (h : ∀ e, e ∈ l₁ ↔ e ∈ l₂) :
    ofEdges n l₁ = ofEdges n l₂ := by
  have hkept : ∀ e, e ∈ kept l₁ ↔ e ∈ kept l₂ := fun e => by rw [mem_kept, mem_kept, h]
  apply ext_edges
  · rw [numQubits_ofEdges, numQubits_ofEdges, edgesWidth_congr hkept]
  · exact SortedSet.ext_mem fun e => by rw [mem_edges_ofEdges, mem_edges_ofEdges, h]

/-- The width of a list cannot be counted exactly if an edge is on the highest number, and else nothing
is left out. -/
theorem tryOfEdges_eq_ite (n : Qubit) (edges : List Edge) :
    tryOfEdges n edges =
      if edges.any Edge.touchesTop then .error .topQubit else .ok (ofEdges n edges) := by
  have hany : (sortUnique edges).any Edge.touchesTop = edges.any Edge.touchesTop := by
    rw [Bool.eq_iff_iff, List.any_eq_true, List.any_eq_true]
    simp only [mem_sortUnique]
  unfold tryOfEdges
  split
  · rename_i hnone
    rw [checkedWidth_eq, hany] at hnone
    split at hnone
    · rename_i htop
      rw [if_pos htop]
    · cases hnone
  · rename_i w hw
    rw [checkedWidth_eq, hany] at hw
    split at hw
    · cases hw
    · rename_i hoff
      cases hw
      have hkept : kept edges = edges := by
        refine List.filter_eq_self.2 fun e he => ?_
        rw [Bool.not_eq_true']
        exact Bool.eq_false_iff.2 fun htop => hoff (List.any_eq_true.2 ⟨e, he, htop⟩)
      rw [if_neg hoff, Except.ok.injEq]
      apply ext_edges
      · show max n (edgesWidth (sortUnique edges)) = _
        rw [numQubits_ofEdges, hkept, edgesWidth_congr fun _ => mem_sortUnique]
      · show SortedSet.ofList edges = SortedSet.ofList (kept edges)
        rw [hkept]

end CouplingMap

end PresetPipeline
