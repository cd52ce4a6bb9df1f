import PresetPipeline.Device.Qubits

/-!
# Layouts

A one-to-one placement of the virtual qubits of a circuit on physical qubits.

* `Layout.add` — places a virtual qubit; whatever stood in its way is dropped.
* `Layout.physical?`, `Layout.virtual?` — the two directions.
* `Layout.ofPairs` — refuses a qubit that is used twice.
* `Layout.checkFits` — the physical qubits exist on a device.
* `checkFits_eq_ok_iff` — looking at the highest physical qubit is enough.
-/

set_option autoImplicit false

namespace PresetPipeline

/-- Why an initial layout is refused. -/
inductive LayoutFault where
  | physicalTaken (physical other virtual : Qubit)
  | virtualTwice (virtual : Qubit)
  | tooMany (count : Nat) (numQubits : Qubit)
  | outside (physical numQubits : Qubit)
  deriving DecidableEq, Repr

def LayoutFault.message : LayoutFault → String
  | .physicalTaken p w v =>
    "physical qubit " ++ toString p ++ " assigned to both virtual " ++ toString w ++ " and " ++
      toString v
  | .virtualTwice v => "virtual qubit " ++ toString v ++ " assigned twice"
  | .tooMany k n =>
    toString k ++ " virtual qubits cannot be placed on " ++ toString n ++ " physical qubits"
  | .outside p n =>
    "physical qubit " ++ toString p ++ " does not exist on a " ++ toString n ++ "-qubit device"

/-- Virtual qubits with their physical qubits, of which no two are equal. -/
structure Layout where
  placement : SortedMap Qubit Qubit
  injective : placement.entries.Pairwise fun a b => a.2 ≠ b.2
  deriving DecidableEq

/-- An insertion keeps a relation between all entries if the new entry has it with the old ones. -/
theorem pairwise_insertEntry {κ β : Type} [Ord κ] {r : κ × β → κ × β → Prop} {k : κ} {v : β}
    {l : List (κ × β)} (hl : l.Pairwise r) (h₁ : ∀ e ∈ l, r (k, v) e) (h₂ : ∀ e ∈ l, r e (k, v)) :
    (insertEntry k v l).Pairwise r := by
  induction l with
  | nil => exact List.pairwise_singleton _ _
  | cons a rest ih =>
    obtain ⟨ha, hr⟩ := List.pairwise_cons.1 hl
    rw [insertEntry]
    split
    · exact List.pairwise_cons.2 ⟨h₁, hl⟩
    · exact List.pairwise_cons.2 ⟨fun e he => h₁ e (List.mem_cons_of_mem _ he), hr⟩
    · refine List.pairwise_cons.2 ⟨fun e he => ?_, ih hr ?_ ?_⟩
      · rcases mem_insertEntry he with rfl | he
        · exact h₂ a List.mem_cons_self
        · exact ha e he
      · exact fun e he => h₁ e (List.mem_cons_of_mem _ he)
      · exact fun e he => h₂ e (List.mem_cons_of_mem _ he)

namespace Layout

/-- Nothing is placed. -/
def empty : Layout := ⟨.empty, .nil⟩

/-- The pairs of virtual and physical qubits, by virtual qubit. -/
def pairs (l : Layout) : List (Qubit × Qubit) := l.placement.entries

/-- Whether a pair uses neither of two qubits. -/
def isApart (virtual physical : Qubit) (e : Qubit × Qubit) : Bool :=
  e.1 != virtual && e.2 != physical

/-- Places a virtual qubit. The pairs that use either qubit are dropped. -/
def add (l : Layout) (virtual physical : Qubit) : Layout :=
  { placement := (l.placement.filter (isApart virtual physical)).insert virtual physical
    injective := by
      have hp : ∀ e ∈ (l.placement.filter (isApart virtual physical)).entries, e.2 ≠ physical :=
        fun e he => by
          have := (List.mem_filter.1 he).2
          rw [isApart, Bool.and_eq_true, bne_iff_ne, bne_iff_ne] at this
          exact this.2
      exact pairwise_insertEntry (l.injective.filter _) (fun e he h => hp e he h.symm)
        (fun e he => hp e he) }

/-- The physical qubit of a virtual qubit. -/
def physical? (l : Layout) (virtual : Qubit) : Option Qubit := l.placement.find? virtual

/-- The virtual qubit on a physical qubit. -/
def virtual? (l : Layout) (physical : Qubit) : Option Qubit :=
  (l.pairs.find? fun e => e.2 == physical).map (·.1)

/-- The virtual qubit of each physical qubit in use. -/
def inverse (l : Layout) : SortedMap Qubit Qubit := .ofList (l.pairs.map fun (v, p) => (p, v))

/-- The highest physical qubit in use. -/
def maxPhysical? (l : Layout) : Option Qubit := (l.pairs.map (·.2)).max?

/-- The number of placed qubits. -/
def size (l : Layout) : Nat := l.placement.size

def isEmpty (l : Layout) : Bool := l.placement.isEmpty

/-- The listed placements, one after the other; later ones drop earlier ones. -/
def ofList (pairs : List (Qubit × Qubit)) : Layout :=
  pairs.foldl (fun l e => l.add e.1 e.2) empty

/-- Each of the first `n` virtual qubits on the physical qubit of the same number. -/
def trivial (n : Qubit) : Layout :=
  .ofList ((List.range n.toNat).map fun i => (i.toUInt32, i.toUInt32))

/-- The listed placements on top of others, or the first pair that uses a qubit again. -/
def addAll : Layout → List (Qubit × Qubit) → Except LayoutFault Layout
  | l, [] => .ok l
  | l, (v, p) :: rest =>
    match l.virtual? p with
    | some w => .error (.physicalTaken p w v)
    | none =>
      match l.physical? v with
      | some _ => .error (.virtualTwice v)
      | none => addAll (l.add v p) rest

def ofPairs (pairs : List (Qubit × Qubit)) : Except LayoutFault Layout := addAll empty pairs

/-- Each virtual qubit on the physical qubit at its place in the list. -/
def ofPhysical (physical : List Qubit) : Except LayoutFault Layout :=
  ofPairs (physical.zipIdx.map fun (p, i) => (i.toUInt32, p))

/-- Every physical qubit in use is below the count. -/
def checkFits (l : Layout) (numQubits : Qubit) : Except LayoutFault Unit :=
  match l.maxPhysical? with
  | some p => if numQubits ≤ p then .error (.outside p numQubits) else .ok ()
  | none => .ok ()

instance : Std.LawfulOrderMax Qubit where
  max_eq_or a b := by
    show (if a ≤ b then b else a) = a ∨ (if a ≤ b then b else a) = b
    split
    · exact .inr rfl
    · exact .inl rfl
  max_le_iff a b c := by
    show (if a ≤ b then b else a) ≤ c ↔ a ≤ c ∧ b ≤ c
    simp only [UInt32.le_iff_toNat_le]
    split <;> omega

theorem maxPhysical?_eq_none {l : Layout} (h : l.maxPhysical? = none) : l.pairs = [] := by
  unfold maxPhysical? at h
  rw [List.max?_eq_none_iff, List.map_eq_nil_iff] at h
  exact h

theorem maxPhysical?_eq_some_iff {l : Layout} {p : Qubit} :
    l.maxPhysical? = some p ↔ (∃ v, (v, p) ∈ l.pairs) ∧ ∀ e ∈ l.pairs, e.2 ≤ p := by
  unfold maxPhysical?
  rw [List.max?_eq_some_iff, List.forall_mem_map]
  simp

/-- A layout fits exactly if each of its physical qubits does. -/
theorem checkFits_eq_ok_iff {l : Layout} {n : Qubit} :
    l.checkFits n = .ok () ↔ ∀ e ∈ l.pairs, e.2 < n := by
  unfold checkFits
  split
  · rename_i p hp
    obtain ⟨⟨v, htop⟩, hle⟩ := maxPhysical?_eq_some_iff.1 hp
    split
    · rename_i hn
      simp only [reduceCtorEq, false_iff]
      intro hall
      exact UInt32.not_le.2 (hall _ htop) hn
    · rename_i hn
      simp only [true_iff]
      intro e he
      exact UInt32.lt_of_le_of_lt (hle e he) (UInt32.not_le.1 hn)
  · rename_i hp
    rw [maxPhysical?_eq_none hp]
    simp

end Layout

end PresetPipeline
