import PresetPipeline.Device.Durations
import PresetPipeline.Device.Schedule

/-!
# Tables by name

A table of instructions can be kept in two levels: the names of the operations, and below each name the
tuples of qubits. The flat table says the same.

* `NestedTable`, `NestedTable.insertValue` — the two levels, and an insertion, which makes a row for a new
  name.
* `NestedTable.flatten` — the entries, row after row. `keysSorted_flatten` — they are in order.
* `NestedTable.Unfolds` — both answer every look-up alike, and no row is empty. `Unfolds.insertValue`,
  `Unfolds.insertAll` — this is kept by an insertion, and by any run of insertions.
* `Unfolds.flatten_eq`, `Unfolds.count_eq`, `Unfolds.keys_eq`, `Unfolds.keys_row_eq` — the entries, their
  number, the names and the tuples of a name are the same.
* `NestedTable.ofTable` — the two levels of a flat table. `ofTable_exact` — every table has them.
* `Durations.find?_eq_nested` — a duration is looked up in the row of its name.
-/

set_option autoImplicit false

namespace PresetPipeline

variable {β : Type}

/-- A row for each name, with the values on tuples of qubits. -/
abbrev NestedTable (β : Type) := SortedMap String (SortedMap (List Qubit) β)

namespace NestedTable

/-- The row of a name. A name that has no row has an empty one. -/
def row (t : NestedTable β) (name : String) : SortedMap (List Qubit) β :=
  (SortedMap.find? t name).getD .empty

/-- The value of an instruction, in the row of its name. -/
def value? (t : NestedTable β) (i : Instruction) : Option β := (t.row i.name).find? i.qubits

/-- Sets a value, in a new row if there is none. -/
def insertValue (t : NestedTable β) (i : Instruction) (v : β) : NestedTable β :=
  SortedMap.insert t i.name ((t.row i.name).insert i.qubits v)

/-- Sets the listed values one after the other. -/
def insertAll (t : NestedTable β) (l : List (Instruction × β)) : NestedTable β :=
  l.foldl (fun t e => t.insertValue e.1 e.2) t

/-- The entries, row after row. -/
def flatten (t : NestedTable β) : List (Instruction × β) :=
  t.entries.flatMap fun e => e.2.entries.map fun f => (⟨e.1, f.1⟩, f.2)

/-- The number of values in all rows. -/
def count (t : NestedTable β) : Nat := t.entries.foldr (fun e n => e.2.size + n) 0

variable {t : NestedTable β} {m : SortedMap Instruction β} {i : Instruction} {v : β}

theorem row_insertValue (t : NestedTable β) (i : Instruction) (v : β) (name : String) :
    (t.insertValue i v).row name =
      if name = i.name then (t.row i.name).insert i.qubits v else t.row name := by
  rw [row, insertValue, SortedMap.find?_insert]
  split <;> rfl

/-- An insertion changes the look-up of its own instruction only. -/
theorem value?_insertValue (t : NestedTable β) (i j : Instruction) (v : β) :
    (t.insertValue i v).value? j = if j = i then some v else t.value? j := by
  obtain ⟨name, qubits⟩ := i
  obtain ⟨name', qubits'⟩ := j
  rw [value?, row_insertValue]
  by_cases hname : name' = name
  · subst hname
    simp [SortedMap.find?_insert, value?]
  · simp [hname, value?]

/-! ## The entries -/

theorem value?_eq_some_iff :
    t.value? i = some v ↔ ∃ row, (i.name, row) ∈ t.entries ∧ (i.qubits, v) ∈ row.entries := by
  simp only [← SortedMap.find?_eq_some_iff]
  unfold value? row
  cases SortedMap.find? t i.name with
  | none => simp
  | some row => simp

theorem mem_flatten : (i, v) ∈ t.flatten ↔ t.value? i = some v := by
  rw [value?_eq_some_iff, flatten, List.mem_flatMap]
  constructor
  · rintro ⟨⟨name, row⟩, hrow, hmem⟩
    obtain ⟨⟨qubits, w⟩, hw, heq⟩ := List.mem_map.1 hmem
    cases heq
    exact ⟨row, hrow, hw⟩
  · rintro ⟨row, hrow, hv⟩
    exact ⟨(i.name, row), hrow, List.mem_map.2 ⟨(i.qubits, v), hv, rfl⟩⟩

theorem compare_of_name_lt {i j : Instruction} (h : compare i.name j.name = .lt) :
    compare i j = .lt :=
  Ordering.then_eq_lt.2 (.inl h)

/-- Instructions of one name are in the order of their tuples. -/
theorem compare_of_name_eq {i j : Instruction} (h : i.name = j.name) :
    compare i j = .lt ↔ compare i.qubits j.qubits = .lt := by
  have hname : compare i.name j.name = .eq := by rw [h, compare_self_eq]
  constructor
  · intro hlt
    rcases Ordering.then_eq_lt.1 hlt with hlt | ⟨-, hlt⟩
    · cases hname.symm.trans hlt
    · exact hlt
  · exact fun hlt => Ordering.then_eq_lt.2 (.inr ⟨hname, hlt⟩)

/-- The rows are in the order of the names, and the entries of a row in the order of the tuples. -/
theorem keysSorted_flatten (t : NestedTable β) : KeysSorted t.flatten := by
  rw [KeysSorted, flatten, List.pairwise_flatMap]
  constructor
  · intro e _
    rw [List.pairwise_map]
    refine e.2.sorted.imp fun {f f'} hlt => ?_
    exact (compare_of_name_eq (Eq.refl e.1)).2 hlt
  · refine t.sorted.imp fun {e e'} hlt => ?_
    intro x hx y hy
    obtain ⟨f, -, rfl⟩ := List.mem_map.1 hx
    obtain ⟨f', -, rfl⟩ := List.mem_map.1 hy
    exact compare_of_name_lt hlt

theorem length_flatten (t : NestedTable β) : t.flatten.length = t.count := by
  rw [flatten, count]
  induction t.entries with
  | nil => rfl
  | cons e rest ih =>
    rw [List.flatMap_cons, List.length_append, List.length_map, ih]
    rfl

/-! ## The flat table -/

/-- A nested table unfolds to a flat one: they answer every look-up alike, and no row is empty. -/
structure Unfolds (t : NestedTable β) (m : SortedMap Instruction β) : Prop where
  value : ∀ i, t.value? i = m.find? i
  inhabited : ∀ e ∈ t.entries, e.2.entries ≠ []

theorem unfolds_empty : Unfolds (.empty : NestedTable β) .empty where
  value _ := rfl
  inhabited _ he := by cases he

/-- An insertion into both keeps them alike. -/
theorem Unfolds.insertValue (h : t.Unfolds m) (i : Instruction) (v : β) :
    (t.insertValue i v).Unfolds (m.insert i v) where
  value j := by rw [value?_insertValue, SortedMap.find?_insert, h.value]
  inhabited e he := by
    rcases mem_insertEntry he with rfl | he
    · intro hnil
      have hfind := SortedMap.find?_insert (t.row i.name) i.qubits i.qubits v
      rw [if_pos rfl, SortedMap.find?_eq_some_iff, hnil] at hfind
      cases hfind
    · exact h.inhabited e he

/-- Any run of insertions keeps them alike. -/
theorem Unfolds.insertAll (h : t.Unfolds m) (l : List (Instruction × β)) :
    (t.insertAll l).Unfolds (m.insertAll l) := by
  induction l generalizing t m with
  | nil => exact h
  | cons e rest ih => exact ih (h.insertValue e.1 e.2)

namespace Unfolds

/-- The entries are the same, in the same order. -/
theorem flatten_eq (h : t.Unfolds m) : t.flatten = m.entries := by
  refine eq_of_pairwise_of_mem (fun _ _ => Std.OrientedCmp.not_lt_of_lt) t.keysSorted_flatten m.sorted ?_
  rintro ⟨i, v⟩
  rw [mem_flatten, h.value, SortedMap.find?_eq_some_iff]

theorem count_eq (h : t.Unfolds m) : t.count = m.size := by
  rw [SortedMap.size, ← h.flatten_eq, length_flatten]

/-- The names that have a row are the operations. -/
theorem keys_eq (h : t.Unfolds m) : t.keys = operations m := by
  have hsorted : StrictlySorted t.keys := List.pairwise_map.2 t.sorted
  refine eq_of_pairwise_of_mem (fun _ _ => Std.OrientedCmp.not_lt_of_lt) hsorted
    (strictlySorted_sortUnique _) fun name => ?_
  rw [operations, mem_sortUnique, SortedMap.keys, SortedMap.keys, ← h.flatten_eq, List.map_map, List.mem_map,
    List.mem_map]
  constructor
  · rintro ⟨⟨name, row⟩, hrow, rfl⟩
    obtain ⟨⟨qubits, v⟩, rest, hrest⟩ := List.exists_cons_of_ne_nil (h.inhabited _ hrow)
    have hv : (qubits, v) ∈ row.entries := by
      rw [hrest]
      exact List.mem_cons_self
    exact ⟨(⟨name, qubits⟩, v), mem_flatten.2 (value?_eq_some_iff.2 ⟨row, hrow, hv⟩), rfl⟩
  · rintro ⟨⟨i, v⟩, hmem, rfl⟩
    obtain ⟨row, hrow, -⟩ := value?_eq_some_iff.1 (mem_flatten.1 hmem)
    exact ⟨(i.name, row), hrow, rfl⟩

/-- The tuples in the row of a name are those that the operation has. -/
theorem keys_row_eq (h : t.Unfolds m) (name : String) : (t.row name).keys = tuplesOf m name := by
  have hrow : StrictlySorted (t.row name).keys := List.pairwise_map.2 (t.row name).sorted
  have htuples : StrictlySorted (tuplesOf m name) := by
    have hkeys : m.keys.Pairwise fun i j => compare i j = .lt := List.pairwise_map.2 m.sorted
    refine List.pairwise_map.2 ((hkeys.filter _).imp_of_mem fun {i j} hi hj hlt => ?_)
    have hname : i.name = j.name := by
      rw [beq_iff_eq.1 (List.mem_filter.1 hi).2, beq_iff_eq.1 (List.mem_filter.1 hj).2]
    exact (compare_of_name_eq hname).1 hlt
  refine eq_of_pairwise_of_mem (fun _ _ => Std.OrientedCmp.not_lt_of_lt) hrow htuples fun qubits => ?_
  have hvalue : (t.row name).find? qubits = m.find? ⟨name, qubits⟩ := h.value ⟨name, qubits⟩
  rw [SortedMap.mem_keys_iff, hvalue, ← SortedMap.mem_keys_iff, tuplesOf, List.mem_map]
  simp only [List.mem_filter, beq_iff_eq]
  constructor
  · intro hmem
    exact ⟨⟨name, qubits⟩, ⟨hmem, rfl⟩, rfl⟩
  · rintro ⟨i, ⟨hmem, rfl⟩, rfl⟩
    exact hmem

end Unfolds

/-- The two levels of a table. -/
def ofTable (m : SortedMap Instruction β) : NestedTable β := insertAll .empty m.entries

/-- Every table has its two levels. -/
theorem unfolds_ofTable (m : SortedMap Instruction β) : (ofTable m).Unfolds m := by
  have h := unfolds_empty.insertAll m.entries
  rwa [← SortedMap.ofList, SortedMap.ofList_entries] at h

/-- **Two levels say what a flat table says.** The entries in order, every look-up, the number of entries,
the names and the tuples of each name are the same, and no name has an empty row. -/
theorem ofTable_exact (m : SortedMap Instruction β) :
    (ofTable m).flatten = m.entries ∧ (∀ i, (ofTable m).value? i = m.find? i) ∧
      (ofTable m).count = m.size ∧ (ofTable m).keys = operations m ∧
      (∀ name, ((ofTable m).row name).keys = tuplesOf m name) ∧
      ∀ e ∈ (ofTable m).entries, e.2.entries ≠ [] :=
  have h := unfolds_ofTable m
  ⟨h.flatten_eq, h.value, h.count_eq, h.keys_eq, h.keys_row_eq, h.inhabited⟩

end NestedTable

/-- A duration is looked up in the row of its name, and there first for the qubits and then for any. -/
theorem Durations.find?_eq_nested (d : Durations) (name : String) (qubits : List Qubit) :
    d.find? name qubits =
      (SortedMap.find? (NestedTable.ofTable d.table) name).bind fun row =>
        (row.find? qubits).or (row.find? []) := by
  have hvalue : ∀ qubits, d.table.find? ⟨name, qubits⟩ =
      (SortedMap.find? (NestedTable.ofTable d.table) name).bind fun row => row.find? qubits := by
    intro qubits
    rw [← (NestedTable.unfolds_ofTable d.table).value, NestedTable.value?, NestedTable.row]
    cases SortedMap.find? (NestedTable.ofTable d.table) name <;> rfl
  rw [Durations.find?, hvalue, hvalue]
  cases SortedMap.find? (NestedTable.ofTable d.table) name <;> rfl

end PresetPipeline
