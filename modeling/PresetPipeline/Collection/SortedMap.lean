import PresetPipeline.Collection.SortedSet

/-!
# Sorted maps

A finite map kept as a list of entries with strictly increasing keys, so that the order in which
keys were written cannot be seen.

* `SortedMap.insert` — sets the value of a key; a later value replaces an earlier one.
* `find?_insert` — what a look-up answers after an insertion.
* `find?_eq_some_iff` — a look-up answers exactly the entries of the map.
* `find?_ofList` — in a map made from a list the last entry of a key counts.
* `insertAll_congr` — if the listed entries of a key agree, neither their order nor their repetitions
  count.
* `find?_ofList_filterMap` — a look-up in what a function makes of the values of a map.
* `find?_filter`, `find?_filter_key` — a look-up in a map that is restricted to some entries or keys.
* `find?_erase` — what a look-up answers when a key is gone.
* `SortedMap.ext_find?` — two maps with the same look-ups are equal.
* `nodup_keys`, `ofList_entries` — every key has one entry, and the entries make the map.
-/

set_option autoImplicit false

namespace PresetPipeline

variable {κ : Type} {β : Type}

/-- The only element that passes a test is the one that is found. -/
theorem find?_eq_of_mem_iff {α : Type} {l : List α} {test : α → Bool} {o : Option α}
    (h : ∀ a, (a ∈ l ∧ test a = true) ↔ o = some a) : l.find? test = o := by
  cases hl : l.find? test with
  | some a => exact ((h a).1 ⟨List.mem_of_find?_eq_some hl, List.find?_some hl⟩).symm
  | none =>
    cases ho : o with
    | none => rfl
    | some a =>
      obtain ⟨hmem, htest⟩ := (h a).2 ho
      exact absurd htest (List.find?_eq_none.1 hl a hmem)

/-- A list that has at most one value of a key answers it. -/
theorem lookup_eq_of_mem_iff [DecidableEq κ] {l : List (κ × β)} {k : κ} {o : Option β}
    (h : ∀ v, (k, v) ∈ l ↔ o = some v) : l.lookup k = o := by
  cases hl : l.lookup k with
  | some v =>
    obtain ⟨before, after, rfl, -⟩ := List.lookup_eq_some_iff.1 hl
    have hv := (h v).1 (List.mem_append_right _ List.mem_cons_self)
    exact hv.symm
  | none =>
    cases ho : o with
    | none => rfl
    | some v =>
      have hne := List.lookup_eq_none_iff.1 hl _ ((h v).2 ho)
      simp at hne

/-- Of the values that a function has for the records of a key, the last one stays. -/
theorem lookup_reverse_filterMap [DecidableEq κ] {ρ : Type} (key : ρ → κ) (f : ρ → Option β) (k : κ)
    (records : List ρ) :
    (records.filterMap fun r => (f r).map (key r, ·)).reverse.lookup k =
      ((records.filter (key · == k)).filterMap f).getLast? := by
  rw [List.getLast?_eq_head?_reverse, ← List.filterMap_reverse, ← List.filterMap_reverse,
    ← List.filter_reverse]
  induction records.reverse with
  | nil => rfl
  | cons r rest ih =>
    by_cases hk : key r = k
    · cases hf : f r with
      | none => simp [hf, hk, ih]
      | some v => simp [hf, hk]
    · have hb : (k == key r) = false := beq_eq_false_iff_ne.2 fun h => hk h.symm
      cases hf : f r with
      | none => simp [hf, hk, ih]
      | some v => simp [hf, hk, hb, ih, List.lookup_cons]

variable [Ord κ]

/-- Sets the value of `k` in a list of entries with increasing keys. -/
def insertEntry (k : κ) (v : β) : List (κ × β) → List (κ × β)
  | [] => [(k, v)]
  | e :: rest =>
    match compare k e.1 with
    | .lt => (k, v) :: e :: rest
    | .eq => (k, v) :: rest
    | .gt => e :: insertEntry k v rest

/-- The value of `k` in a list of entries. -/
def findEntry (k : κ) : List (κ × β) → Option β
  | [] => none
  | e :: rest => if compare k e.1 = .eq then some e.2 else findEntry k rest

/-- Keys increase strictly along the list. -/
abbrev KeysSorted (l : List (κ × β)) : Prop :=
  l.Pairwise fun a b => compare a.1 b.1 = .lt

theorem mem_insertEntry {k : κ} {v : β} {l : List (κ × β)} {e : κ × β}
    (h : e ∈ insertEntry k v l) : e = (k, v) ∨ e ∈ l := by
  induction l with
  | nil => exact .inl (List.mem_singleton.1 h)
  | cons a rest ih =>
    rw [insertEntry] at h
    split at h
    · exact List.mem_cons.1 h
    · rcases List.mem_cons.1 h with h | h
      · exact .inl h
      · exact .inr (List.mem_cons_of_mem _ h)
    · rcases List.mem_cons.1 h with h | h
      · exact .inr (h ▸ List.mem_cons_self)
      · rcases ih h with h | h
        · exact .inl h
        · exact .inr (List.mem_cons_of_mem _ h)

theorem keysSorted_insertEntry [Std.TransOrd κ] {l : List (κ × β)} (k : κ) (v : β)
    (h : KeysSorted l) : KeysSorted (insertEntry k v l) := by
  induction l with
  | nil => exact List.pairwise_singleton _ _
  | cons a rest ih =>
    obtain ⟨ha, hr⟩ := List.pairwise_cons.1 h
    rw [insertEntry]
    split
    · rename_i hk
      refine List.pairwise_cons.2 ⟨fun e he => ?_, h⟩
      rcases List.mem_cons.1 he with rfl | he
      · exact hk
      · exact Std.TransCmp.lt_trans hk (ha e he)
    · rename_i hk
      exact List.pairwise_cons.2 ⟨fun e he => Std.TransCmp.lt_of_eq_of_lt hk (ha e he), hr⟩
    · rename_i hk
      refine List.pairwise_cons.2 ⟨fun e he => ?_, ih hr⟩
      rcases mem_insertEntry he with rfl | he
      · exact Std.OrientedCmp.gt_iff_lt.1 hk
      · exact ha e he

theorem findEntry_insertEntry [Std.TransOrd κ] [Std.LawfulEqOrd κ] [DecidableEq κ]
    {l : List (κ × β)} (k k' : κ) (v : β) (h : KeysSorted l) :
    findEntry k' (insertEntry k v l) = if k' = k then some v else findEntry k' l := by
  induction l with
  | nil =>
    by_cases hk : k' = k
    · simp [insertEntry, findEntry, hk]
    · have hc : ¬compare k' k = .eq := fun hc => hk (Std.LawfulEqOrd.eq_of_compare hc)
      simp [insertEntry, findEntry, hk, hc]
  | cons a rest ih =>
    obtain ⟨ha, hr⟩ := List.pairwise_cons.1 h
    rw [insertEntry]
    split
    · by_cases hk : k' = k
      · simp [findEntry, hk]
      · rw [if_neg hk, findEntry, if_neg fun hc => hk (Std.LawfulEqOrd.eq_of_compare hc)]
    · rename_i hka
      have hka := Std.LawfulEqOrd.eq_of_compare hka
      by_cases hk : k' = k
      · simp [findEntry, hk]
      · have hc : ¬compare k' k = .eq := fun hc => hk (Std.LawfulEqOrd.eq_of_compare hc)
        rw [if_neg hk, findEntry, findEntry, if_neg hc, ← hka, if_neg hc]
    · rename_i hka
      by_cases hk : k' = k
      · subst hk
        rw [if_pos rfl, findEntry, if_neg (by rw [hka]; decide), ih hr, if_pos rfl]
      · rw [if_neg hk, findEntry, findEntry, ih hr, if_neg hk]

theorem findEntry_eq_some_iff [Std.TransOrd κ] [Std.LawfulEqOrd κ] {l : List (κ × β)} {k : κ}
    {v : β} (h : KeysSorted l) : findEntry k l = some v ↔ (k, v) ∈ l := by
  induction l with
  | nil => simp [findEntry]
  | cons a rest ih =>
    obtain ⟨ha, hr⟩ := List.pairwise_cons.1 h
    rw [findEntry]
    split
    · rename_i hc
      have hc := Std.LawfulEqOrd.eq_of_compare hc
      constructor
      · intro hv
        rw [Option.some.injEq] at hv
        subst hc hv
        exact List.mem_cons_self
      · intro hm
        rcases List.mem_cons.1 hm with hm | hm
        · rw [← hm]
        · have hlt := ha _ hm
          rw [hc, compare_self_eq] at hlt
          exact absurd hlt (by decide)
    · rename_i hc
      rw [ih hr, List.mem_cons]
      constructor
      · exact .inr
      · rintro (hm | hm)
        · rw [← hm, compare_self_eq] at hc
          exact absurd rfl hc
        · exact hm

/-- A finite map, as its entries in increasing order of keys. -/
structure SortedMap (κ : Type) (β : Type) [Ord κ] where
  entries : List (κ × β)
  sorted : KeysSorted entries
  deriving DecidableEq

instance [BEq κ] [BEq β] : BEq (SortedMap κ β) := ⟨fun m n => m.entries == n.entries⟩

namespace SortedMap

/-- The map without entries. -/
def empty : SortedMap κ β := ⟨[], .nil⟩

/-- Sets the value of a key. -/
def insert [Std.TransOrd κ] (m : SortedMap κ β) (k : κ) (v : β) : SortedMap κ β :=
  ⟨insertEntry k v m.entries, keysSorted_insertEntry k v m.sorted⟩

/-- The value of a key. -/
def find? (m : SortedMap κ β) (k : κ) : Option β := findEntry k m.entries

def contains (m : SortedMap κ β) (k : κ) : Bool := (m.find? k).isSome

/-- Sets the listed values one after the other, so the last one of a key stays. -/
def insertAll [Std.TransOrd κ] (m : SortedMap κ β) (l : List (κ × β)) : SortedMap κ β :=
  l.foldl (fun m e => m.insert e.1 e.2) m

/-- The map of the listed entries; of a repeated key the last value stays. -/
def ofList [Std.TransOrd κ] (l : List (κ × β)) : SortedMap κ β := empty.insertAll l

/-- The entries whose key and value pass a test. -/
def filter (m : SortedMap κ β) (p : κ × β → Bool) : SortedMap κ β :=
  ⟨m.entries.filter p, m.sorted.filter p⟩

/-- The entries of all other keys. -/
def erase [DecidableEq κ] (m : SortedMap κ β) (k : κ) : SortedMap κ β := m.filter fun e => e.1 != k

/-- The keys in increasing order. -/
def keys (m : SortedMap κ β) : List κ := m.entries.map (·.1)

def size (m : SortedMap κ β) : Nat := m.entries.length

def isEmpty (m : SortedMap κ β) : Bool := m.entries.isEmpty

@[simp] theorem find?_empty (k : κ) : (empty : SortedMap κ β).find? k = none := rfl

/-- An insertion changes the look-up of its own key only. -/
theorem find?_insert [Std.TransOrd κ] [Std.LawfulEqOrd κ] [DecidableEq κ] (m : SortedMap κ β)
    (k k' : κ) (v : β) : (m.insert k v).find? k' = if k' = k then some v else m.find? k' :=
  findEntry_insertEntry k k' v m.sorted

/-- A look-up answers exactly the entries. -/
theorem find?_eq_some_iff [Std.TransOrd κ] [Std.LawfulEqOrd κ] {m : SortedMap κ β} {k : κ} {v : β} :
    m.find? k = some v ↔ (k, v) ∈ m.entries :=
  findEntry_eq_some_iff m.sorted

theorem find?_insertAll [Std.TransOrd κ] [Std.LawfulEqOrd κ] [DecidableEq κ] (l : List (κ × β)) (k : κ) :
    ∀ m : SortedMap κ β, (m.insertAll l).find? k = (l.reverse.lookup k).or (m.find? k) := by
  induction l with
  | nil => intro m; rfl
  | cons e rest ih =>
    intro m
    obtain ⟨k', v⟩ := e
    have hstep : m.insertAll ((k', v) :: rest) = (m.insert k' v).insertAll rest := rfl
    rw [hstep, ih, find?_insert, List.reverse_cons, List.lookup_append, Option.or_assoc]
    by_cases hk : k = k'
    · subst hk
      rw [if_pos rfl, List.lookup_cons_self, Option.some_or]
    · have hb : (k == k') = false := beq_eq_false_iff_ne.2 hk
      simp [hk, hb, List.lookup_cons]

/-- A look-up in a map made from a list answers the last entry of the key. -/
theorem find?_ofList [Std.TransOrd κ] [Std.LawfulEqOrd κ] [DecidableEq κ] (l : List (κ × β)) (k : κ) :
    (ofList l).find? k = l.reverse.lookup k := by
  rw [ofList, find?_insertAll, find?_empty, Option.or_none]

theorem insertAll_append [Std.TransOrd κ] (m : SortedMap κ β) (l l' : List (κ × β)) :
    m.insertAll (l ++ l') = (m.insertAll l).insertAll l' :=
  List.foldl_append

theorem mem_keys_iff [Std.TransOrd κ] [Std.LawfulEqOrd κ] {m : SortedMap κ β} {k : κ} :
    k ∈ m.keys ↔ (m.find? k).isSome = true := by
  rw [keys, List.mem_map, Option.isSome_iff_exists]
  constructor
  · rintro ⟨⟨k', v⟩, he, rfl⟩
    exact ⟨v, find?_eq_some_iff.2 he⟩
  · rintro ⟨v, hv⟩
    exact ⟨(k, v), find?_eq_some_iff.1 hv, rfl⟩

theorem find?_eq_none_iff [Std.TransOrd κ] [Std.LawfulEqOrd κ] {m : SortedMap κ β} {k : κ} :
    m.find? k = none ↔ k ∉ m.keys := by
  rw [mem_keys_iff, Option.not_isSome_iff_eq_none]

/-- A map of what a function makes of the values of another. -/
theorem find?_ofList_filterMap [Std.TransOrd κ] [Std.LawfulEqOrd κ] [DecidableEq κ] {γ : Type}
    (m : SortedMap κ β) (f : β → Option γ) (k : κ) :
    (ofList (m.entries.filterMap fun (k, v) => (f v).map (k, ·))).find? k = (m.find? k).bind f := by
  rw [find?_ofList]
  apply lookup_eq_of_mem_iff
  intro w
  rw [List.mem_reverse, List.mem_filterMap, Option.bind_eq_some_iff]
  constructor
  · rintro ⟨⟨k', v⟩, hv, hw⟩
    obtain ⟨w', hw', heq⟩ := Option.map_eq_some_iff.1 hw
    cases heq
    exact ⟨v, find?_eq_some_iff.2 hv, hw'⟩
  · rintro ⟨v, hv, hw⟩
    exact ⟨(k, v), find?_eq_some_iff.1 hv, Option.map_eq_some_iff.2 ⟨w, hw, rfl⟩⟩

/-- The keys of a map made from a list are those of the list. -/
theorem mem_keys_ofList [Std.TransOrd κ] [Std.LawfulEqOrd κ] [DecidableEq κ] {l : List (κ × β)} {k : κ} :
    k ∈ (ofList l).keys ↔ ∃ v, (k, v) ∈ l := by
  rw [mem_keys_iff, find?_ofList, List.lookup_isSome_iff]
  simp

/-- What a map made from a list answers is an entry of the list. -/
theorem mem_of_find?_ofList [Std.TransOrd κ] [Std.LawfulEqOrd κ] [DecidableEq κ] {l : List (κ × β)}
    {k : κ} {v : β} (h : (ofList l).find? k = some v) : (k, v) ∈ l := by
  rw [find?_ofList, List.lookup_eq_some_iff] at h
  obtain ⟨before, after, heq, -⟩ := h
  rw [← List.mem_reverse, heq]
  exact List.mem_append_right _ List.mem_cons_self

/-- A map that is restricted to some entries answers a value if its entry is among them. -/
theorem find?_filter [Std.TransOrd κ] [Std.LawfulEqOrd κ] (m : SortedMap κ β) (p : κ × β → Bool)
    (k : κ) : (m.filter p).find? k = (m.find? k).filter fun v => p (k, v) := by
  apply Option.ext
  intro v
  rw [find?_eq_some_iff, Option.filter_eq_some_iff, find?_eq_some_iff]
  exact List.mem_filter

/-- A map that is restricted to some keys answers these as before, and no others. -/
theorem find?_filter_key [Std.TransOrd κ] [Std.LawfulEqOrd κ] (m : SortedMap κ β) (p : κ → Bool)
    (k : κ) : (m.filter fun e => p e.1).find? k = if p k then m.find? k else none := by
  rw [find?_filter]
  show (m.find? k).filter (fun _ => p k) = _
  cases p k with
  | false => simp
  | true => cases m.find? k <;> rfl

theorem find?_erase [Std.TransOrd κ] [Std.LawfulEqOrd κ] [DecidableEq κ] (m : SortedMap κ β)
    (k k' : κ) : (m.erase k).find? k' = if k' = k then none else m.find? k' := by
  rw [erase, find?_filter_key m (· != k)]
  by_cases h : k' = k
  · simp [h]
  · simp [h]

/-- Maps that answer every look-up alike are equal. -/
theorem ext_find? [Std.TransOrd κ] [Std.LawfulEqOrd κ] {m n : SortedMap κ β}
    (h : ∀ k, m.find? k = n.find? k) : m = n := by
  have hmem : ∀ e, e ∈ m.entries ↔ e ∈ n.entries := fun e => by
    rw [← find?_eq_some_iff (m := m), ← find?_eq_some_iff (m := n), h]
  cases m with
  | mk l₁ h₁ =>
    cases n with
    | mk l₂ h₂ =>
      congr 1
      exact eq_of_pairwise_of_mem (fun _ _ => Std.OrientedCmp.not_lt_of_lt) h₁ h₂ hmem

theorem nodup_keys [Std.TransOrd κ] (m : SortedMap κ β) : m.keys.Nodup := by
  rw [List.Nodup, keys, List.pairwise_map]
  refine m.sorted.imp fun {a b} hlt heq => ?_
  rw [heq, compare_self_eq] at hlt
  cases hlt

/-- The entries of a map make the same map again. -/
theorem ofList_entries [Std.TransOrd κ] [Std.LawfulEqOrd κ] [DecidableEq κ] (m : SortedMap κ β) :
    ofList m.entries = m := by
  apply ext_find?
  intro k
  rw [find?_ofList]
  apply lookup_eq_of_mem_iff
  intro v
  rw [List.mem_reverse, find?_eq_some_iff]

/-- Lists with the same entries set the same values, if no key has two values. -/
theorem insertAll_congr [Std.TransOrd κ] [Std.LawfulEqOrd κ] [DecidableEq κ] {l l' : List (κ × β)}
    (m : SortedMap κ β) (hvalue : ∀ k v v', (k, v) ∈ l → (k, v') ∈ l → v = v')
    (h : ∀ e, e ∈ l ↔ e ∈ l') : m.insertAll l = m.insertAll l' := by
  have hlookup : ∀ k, l.reverse.lookup k = l'.reverse.lookup k := by
    intro k
    apply lookup_eq_of_mem_iff
    intro v
    rw [List.mem_reverse]
    constructor
    · intro hv
      have hsome : (l'.reverse.lookup k).isSome = true :=
        List.lookup_isSome_iff.2 ⟨(k, v), List.mem_reverse.2 ((h _).1 hv), beq_self_eq_true k⟩
      obtain ⟨w, hw⟩ := Option.isSome_iff_exists.1 hsome
      have hmem := mem_of_find?_ofList ((find?_ofList l' k).trans hw)
      rw [hw, hvalue k v w hv ((h _).2 hmem)]
    · intro hv
      exact (h _).2 (mem_of_find?_ofList ((find?_ofList l' k).trans hv))
  apply ext_find?
  intro k
  rw [find?_insertAll, find?_insertAll, hlookup]

end SortedMap

end PresetPipeline
