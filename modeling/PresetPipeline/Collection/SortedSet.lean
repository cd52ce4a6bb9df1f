/-!
# Sorted sets

A finite set kept as a strictly increasing array, so that equal sets are equal values and a member
is found by halving.

* `SortedSet.ofList` — sorts a list and keeps each element once.
* `SortedSet.contains` — binary search.
* `mem_ofList`, `contains_iff_mem` — both agree with membership in the list view `toList`.
* `SortedSet.ext_mem` — two sorted sets with the same members are equal.
-/

set_option autoImplicit false

namespace PresetPipeline

variable {α : Type} [Ord α]

/-- Every element of the list comes strictly before the ones after it. -/
abbrev StrictlySorted (l : List α) : Prop :=
  l.Pairwise fun a b => compare a b = .lt

theorem compare_self_eq [Std.TransOrd α] (a : α) : compare a a = .eq :=
  Std.ReflOrd.compare_self

/-- Puts an element in its place, unless it stands there already. -/
def insertUnique (a : α) : List α → List α
  | [] => [a]
  | b :: rest =>
    match compare a b with
    | .lt => a :: b :: rest
    | .eq => b :: rest
    | .gt => b :: insertUnique a rest

/-- Sorts a list and drops repetitions. -/
def sortUnique (l : List α) : List α := l.foldr insertUnique []

theorem mem_insertUnique [Std.TransOrd α] [Std.LawfulEqOrd α] {a b : α} {l : List α} :
    b ∈ insertUnique a l ↔ b = a ∨ b ∈ l := by
  induction l with
  | nil => rw [insertUnique, List.mem_singleton, or_iff_left List.not_mem_nil]
  | cons c rest ih =>
    rw [insertUnique]
    split
    · exact List.mem_cons
    · rename_i heq
      obtain rfl := Std.LawfulEqOrd.eq_of_compare heq
      rw [List.mem_cons, ← or_assoc, or_self]
    · rw [List.mem_cons, ih, List.mem_cons, or_left_comm]

/-- An element that was put in its place keeps the order. -/
theorem strictlySorted_insertUnique [Std.TransOrd α] [Std.LawfulEqOrd α] (a : α) {l : List α}
    (h : StrictlySorted l) : StrictlySorted (insertUnique a l) := by
  induction l with
  | nil => exact List.pairwise_singleton _ _
  | cons b rest ih =>
    obtain ⟨hb, hrest⟩ := List.pairwise_cons.1 h
    rw [insertUnique]
    split
    · rename_i hlt
      refine List.pairwise_cons.2 ⟨fun c hc => ?_, h⟩
      rcases List.mem_cons.1 hc with rfl | hc
      · exact hlt
      · exact Std.TransCmp.lt_trans hlt (hb c hc)
    · exact h
    · rename_i hgt
      refine List.pairwise_cons.2 ⟨fun c hc => ?_, ih hrest⟩
      rcases mem_insertUnique.1 hc with rfl | hc
      · exact Std.OrientedCmp.lt_of_gt hgt
      · exact hb c hc

theorem strictlySorted_sortUnique [Std.TransOrd α] [Std.LawfulEqOrd α] (l : List α) :
    StrictlySorted (sortUnique l) := by
  induction l with
  | nil => exact .nil
  | cons a rest ih => exact strictlySorted_insertUnique a ih

/-- Sorting neither adds nor loses an element. -/
theorem mem_sortUnique [Std.TransOrd α] [Std.LawfulEqOrd α] {a : α} {l : List α} :
    a ∈ sortUnique l ↔ a ∈ l := by
  induction l with
  | nil => rfl
  | cons b rest ih =>
    show a ∈ insertUnique b (sortUnique rest) ↔ _
    rw [mem_insertUnique, ih, List.mem_cons]

/-- A finite set, as the strictly increasing array of its elements. -/
structure SortedSet (α : Type) [Ord α] where
  elems : Array α
  sorted : StrictlySorted elems.toList
  deriving DecidableEq

namespace SortedSet

/-- The elements in increasing order. -/
def toList (s : SortedSet α) : List α := s.elems.toList

/-- The set of the elements of a list. -/
def ofList [Std.TransOrd α] [Std.LawfulEqOrd α] (l : List α) : SortedSet α :=
  ⟨(sortUnique l).toArray, strictlySorted_sortUnique l⟩

/-- The set without elements. -/
def empty : SortedSet α := ⟨#[], .nil⟩

/-- Number of elements. -/
def size (s : SortedSet α) : Nat := s.elems.size

def isEmpty (s : SortedSet α) : Bool := s.elems.isEmpty

/-- Whether `x` occurs in `elems` at an index from `lo` up to, not including, `hi`. -/
def containsBetween (elems : Array α) (x : α) (lo hi : Nat) (hhi : hi ≤ elems.size) : Bool :=
  if h : lo < hi then
    match compare x elems[(lo + hi) / 2] with
    | .lt => containsBetween elems x lo ((lo + hi) / 2) (by omega)
    | .eq => true
    | .gt => containsBetween elems x ((lo + hi) / 2 + 1) hi hhi
  else false
termination_by hi - lo

/-- Whether `x` is an element, by binary search. -/
def contains (s : SortedSet α) (x : α) : Bool :=
  containsBetween s.elems x 0 s.elems.size (Nat.le_refl _)

@[simp] theorem toList_ofList [Std.TransOrd α] [Std.LawfulEqOrd α] (l : List α) : (ofList l).toList = sortUnique l :=
  rfl

theorem mem_ofList [Std.TransOrd α] [Std.LawfulEqOrd α] {a : α} {l : List α} :
    a ∈ (ofList l).toList ↔ a ∈ l :=
  mem_sortUnique

theorem getElem_lt [Std.TransOrd α] (s : SortedSet α) {i j : Nat} (hij : i < j)
    (hi : i < s.elems.size) (hj : j < s.elems.size) : compare s.elems[i] s.elems[j] = .lt := by
  have h := (List.pairwise_iff_getElem.1 s.sorted) i j (by simp; omega) (by simpa using hj) hij
  simpa using h

/-- The search finds exactly the elements of its range. -/
theorem containsBetween_iff [Std.TransOrd α] [Std.LawfulEqOrd α] (s : SortedSet α) (x : α)
    (lo hi : Nat) (hhi : hi ≤ s.elems.size) :
    containsBetween s.elems x lo hi hhi = true ↔
      ∃ i, ∃ h : i < s.elems.size, lo ≤ i ∧ i < hi ∧ s.elems[i] = x := by
  fun_induction containsBetween s.elems x lo hi hhi with
  | case1 lo hi hhi h hlt ih =>
    rw [ih]
    constructor
    · rintro ⟨i, hi', h1, h2, h3⟩
      exact ⟨i, hi', h1, by omega, h3⟩
    · rintro ⟨i, hi', h1, h2, h3⟩
      refine ⟨i, hi', h1, ?_, h3⟩
      rcases Nat.lt_or_ge i ((lo + hi) / 2) with hi'' | hge
      · exact hi''
      · exfalso
        rcases Nat.lt_or_eq_of_le hge with hlt' | heq
        · have := Std.TransCmp.lt_trans hlt (s.getElem_lt hlt' (by omega) hi')
          rw [h3, compare_self_eq] at this
          exact absurd this (by decide)
        · subst heq
          rw [h3, compare_self_eq] at hlt
          exact absurd hlt (by decide)
  | case2 lo hi hhi h heq =>
    simp only [true_iff]
    exact ⟨(lo + hi) / 2, by omega, by omega, by omega, (Std.LawfulEqOrd.eq_of_compare heq).symm⟩
  | case3 lo hi hhi h hgt ih =>
    rw [ih]
    constructor
    · rintro ⟨i, hi', h1, h2, h3⟩
      exact ⟨i, hi', by omega, h2, h3⟩
    · rintro ⟨i, hi', h1, h2, h3⟩
      refine ⟨i, hi', ?_, h2, h3⟩
      rcases Nat.lt_or_ge ((lo + hi) / 2) i with hlt' | hge
      · exact hlt'
      · exfalso
        rw [Std.OrientedCmp.gt_iff_lt] at hgt
        rcases Nat.lt_or_eq_of_le hge with hlt' | heq
        · have := Std.TransCmp.lt_trans (s.getElem_lt hlt' (by omega) (by omega)) hgt
          rw [h3, compare_self_eq] at this
          exact absurd this (by decide)
        · subst heq
          rw [h3, compare_self_eq] at hgt
          exact absurd hgt (by decide)
  | case4 lo hi hhi h =>
    simp only [Bool.false_eq_true, false_iff]
    rintro ⟨i, _, h1, h2, _⟩
    omega

/-- Binary search answers membership. -/
theorem contains_iff_mem [Std.TransOrd α] [Std.LawfulEqOrd α] {s : SortedSet α} {x : α} :
    s.contains x = true ↔ x ∈ s.toList := by
  rw [contains, containsBetween_iff, toList, Array.mem_toList_iff, Array.mem_iff_getElem]
  constructor
  · rintro ⟨i, h, _, _, hx⟩
    exact ⟨i, h, hx⟩
  · rintro ⟨i, h, hx⟩
    exact ⟨i, h, by omega, h, hx⟩

end SortedSet

/-- Lists with the same members, both increasing for an asymmetric relation, are equal. -/
theorem eq_of_pairwise_of_mem {γ : Type} {r : γ → γ → Prop} (asymm : ∀ a b, r a b → ¬r b a)
    {l₁ l₂ : List γ} (h₁ : l₁.Pairwise r) (h₂ : l₂.Pairwise r) (h : ∀ a, a ∈ l₁ ↔ a ∈ l₂) :
    l₁ = l₂ := by
  induction l₁ generalizing l₂ with
  | nil =>
    cases l₂ with
    | nil => rfl
    | cons b _ => exact absurd ((h b).2 List.mem_cons_self) List.not_mem_nil
  | cons a rest₁ ih =>
    cases l₂ with
    | nil => exact absurd ((h a).1 List.mem_cons_self) List.not_mem_nil
    | cons b rest₂ =>
      obtain ⟨ha, hr₁⟩ := List.pairwise_cons.1 h₁
      obtain ⟨hb, hr₂⟩ := List.pairwise_cons.1 h₂
      have hab : a = b := by
        rcases List.mem_cons.1 ((h a).1 List.mem_cons_self) with hab | hab
        · exact hab
        · rcases List.mem_cons.1 ((h b).2 List.mem_cons_self) with hba | hba
          · exact hba.symm
          · exact absurd (ha b hba) (asymm _ _ (hb a hab))
      subst hab
      congr 1
      refine ih hr₁ hr₂ fun x => ⟨fun hx => ?_, fun hx => ?_⟩
      · rcases List.mem_cons.1 ((h x).1 (List.mem_cons_of_mem _ hx)) with hxa | hx'
        · subst hxa
          exact absurd (ha x hx) (asymm _ _ (ha x hx))
        · exact hx'
      · rcases List.mem_cons.1 ((h x).2 (List.mem_cons_of_mem _ hx)) with hxa | hx'
        · subst hxa
          exact absurd (hb x hx) (asymm _ _ (hb x hx))
        · exact hx'

/-- A sorted set is determined by its members. -/
theorem SortedSet.ext_mem [Std.TransOrd α] {s t : SortedSet α}
    (h : ∀ a, a ∈ s.toList ↔ a ∈ t.toList) : s = t := by
  cases s with
  | mk s hs =>
    cases t with
    | mk t ht =>
      have : s = t := Array.ext' (eq_of_pairwise_of_mem (fun _ _ => Std.OrientedCmp.not_lt_of_lt) hs ht h)
      subst this
      rfl

end PresetPipeline
