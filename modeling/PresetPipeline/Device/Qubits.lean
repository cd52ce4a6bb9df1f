import PresetPipeline.Collection.SortedMap

/-!
# Qubits, edges and instructions

Physical qubits are numbered with 32 bits.

* `exists_toUInt32_iff` — counting qubits and counting numbers is the same.
* `Edge` — an ordered pair of qubits, sorted by control and then by target.
* `Instruction` — an operation on a tuple of qubits, sorted by name and then by the tuple.
* `operations`, `tuplesOf` — the names and the tuples that a table has entries for.
-/

set_option autoImplicit false

namespace PresetPipeline

abbrev Qubit := UInt32

/-- The highest number of 32 bits. No count of qubits is above it. -/
def topQubit : Qubit := 4294967295

/-- The numbers below a count, as qubits, are the qubits below it. -/
theorem exists_toUInt32_iff {n : Qubit} {p : Qubit → Prop} :
    (∃ k, k < n.toNat ∧ p k.toUInt32) ↔ ∃ q, q < n ∧ p q := by
  constructor
  · rintro ⟨k, hk, hp⟩
    have hlt : k < UInt32.size := Nat.lt_trans hk n.toNat_lt
    refine ⟨k.toUInt32, ?_, hp⟩
    rw [UInt32.lt_iff_toNat_lt, Nat.toUInt32_eq, UInt32.toNat_ofNat_of_lt' hlt]
    exact hk
  · rintro ⟨q, hq, hp⟩
    refine ⟨q.toNat, UInt32.lt_iff_toNat_lt.1 hq, ?_⟩
    rw [Nat.toUInt32_eq, UInt32.ofNat_toNat]
    exact hp

/-- A two-qubit gate may run with this control and this target. -/
structure Edge where
  control : Qubit
  target : Qubit
  deriving DecidableEq, Repr

instance : Ord Edge := ⟨compareLex (compareOn Edge.control) (compareOn Edge.target)⟩

instance : Std.TransOrd Edge :=
  inferInstanceAs (Std.TransCmp (compareLex (compareOn Edge.control) (compareOn Edge.target)))

instance : Std.LawfulEqOrd Edge where
  compare_self := Std.ReflCmp.compare_self
  eq_of_compare {a b} h := by
    have h := compareLex_eq_eq.1 h
    cases a
    cases b
    rw [Edge.mk.injEq]
    exact ⟨Std.LawfulEqOrd.eq_of_compare h.1, Std.LawfulEqOrd.eq_of_compare h.2⟩

/-- The edge with its ends exchanged. -/
def Edge.reverse (e : Edge) : Edge := ⟨e.target, e.control⟩

/-- Whether an end is the highest number, which no count of qubits covers. -/
def Edge.touchesTop (e : Edge) : Bool := e.control == topQubit || e.target == topQubit

/-- Whether both ends are among the first `n` qubits. -/
def Edge.within (e : Edge) (n : Qubit) : Bool := e.control < n && e.target < n

/-- An operation on a tuple of qubits. -/
structure Instruction where
  name : String
  qubits : List Qubit
  deriving DecidableEq, Repr

instance : Ord Instruction := ⟨compareLex (compareOn Instruction.name) (compareOn Instruction.qubits)⟩

instance : Std.TransOrd Instruction :=
  inferInstanceAs
    (Std.TransCmp (compareLex (compareOn Instruction.name) (compareOn Instruction.qubits)))

instance : Std.LawfulEqOrd Instruction where
  compare_self := Std.ReflCmp.compare_self
  eq_of_compare {a b} h := by
    have h := compareLex_eq_eq.1 h
    cases a
    cases b
    rw [Instruction.mk.injEq]
    exact ⟨Std.LawfulEqOrd.eq_of_compare h.1, Std.LawfulEqOrd.eq_of_compare h.2⟩

variable {β : Type}

/-- The operations that a table has an entry for, in increasing order. -/
def operations (table : SortedMap Instruction β) : List String :=
  sortUnique (table.keys.map (·.name))

/-- The qubit tuples that a table has an entry of this operation for, in increasing order. -/
def tuplesOf (table : SortedMap Instruction β) (name : String) : List (List Qubit) :=
  (table.keys.filter (·.name == name)).map (·.qubits)

/-- A list of qubits as it stands in a sentence. -/
def showQubits (qubits : List Qubit) : String :=
  "[" ++ ", ".intercalate (qubits.map toString) ++ "]"

def Edge.text (e : Edge) : String := "(" ++ toString e.control ++ ", " ++ toString e.target ++ ")"

end PresetPipeline
