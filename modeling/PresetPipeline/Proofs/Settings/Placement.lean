import Mathlib.Data.Set.Card
import PresetPipeline.Settings.Layout

/-!
# Placements in both directions

A layout is one-to-one, and a placement drops exactly what is in its way.

* `Layout.Tables` — a placement as two tables, one for each direction. `Tables.place` — both are
  mended, first for the physical qubit and then for the virtual one, before the new pair is written.
* `Tables.Agree` — the tables are inverse to each other. `Agree.place` — one placement keeps this.
* `tables_add`, `tables_ofList` — a layout is in step with its tables, after one placement and after
  any number of them.
* `Layout.AnswersFrom` — a layout answers what its tables answer.
* `Layout.IsOneToOne` — the two look-ups are inverse, and every qubit is listed and counted once.
* `addAll_eq_ok_iff`, `ofPairs_eq_ok_iff` — which lists of pairs are accepted, and what becomes of them.
  `ofPairs_perm` — their order does not count.
* `Layout.Reached` — the ways to come by a layout.
* `reached_oneToOne` — whichever way it was, the layout is one-to-one.
-/

set_option autoImplicit false

namespace PresetPipeline.Layout

/-! ## Two tables -/

/-- The physical qubit of each virtual qubit, and the virtual qubit of each physical one. -/
structure Tables where
  physical : SortedMap Qubit Qubit
  virtual : SortedMap Qubit Qubit

namespace Tables

variable {t : Tables} {v w p q : Qubit}

def empty : Tables := ⟨.empty, .empty⟩

/-- The same placement with the kinds of qubits exchanged. -/
def swap (t : Tables) : Tables := ⟨t.virtual, t.physical⟩

/-- Drops from both tables what stands on a physical qubit. -/
def freePhysical (t : Tables) (p : Qubit) : Tables :=
  match t.virtual.find? p with
  | some v => ⟨t.physical.erase v, t.virtual.erase p⟩
  | none => t

/-- Drops from both tables where a virtual qubit stands. -/
def freeVirtual (t : Tables) (v : Qubit) : Tables := (t.swap.freePhysical v).swap

/-- Frees both qubits, and writes the pair in both directions. -/
def place (t : Tables) (v p : Qubit) : Tables :=
  let free := (t.freePhysical p).freeVirtual v
  ⟨free.physical.insert v p, free.virtual.insert p v⟩

/-- The tables are inverse to each other. -/
def Agree (t : Tables) : Prop := ∀ v p, t.physical.find? v = some p ↔ t.virtual.find? p = some v

theorem Agree.swap (h : t.Agree) : t.swap.Agree := fun p v => (h v p).symm

theorem find?_virtual_freePhysical :
    (t.freePhysical p).virtual.find? q = if q = p then none else t.virtual.find? q := by
  unfold freePhysical
  split
  · exact SortedMap.find?_erase _ _ _
  · rename_i hfree
    split
    · rename_i hq
      rw [hq, hfree]
    · rfl

/-- The entry to be dropped in the other table is found, since the tables agree. -/
theorem Agree.find?_physical_freePhysical (h : t.Agree) :
    (t.freePhysical p).physical.find? w = (t.physical.find? w).filter (· != p) := by
  apply Option.ext
  intro q
  rw [Option.filter_eq_some_iff, bne_iff_ne]
  unfold freePhysical
  split
  · rename_i v hv
    rw [SortedMap.find?_erase]
    by_cases hw : w = v
    · have hp : t.physical.find? w = some p := hw ▸ (h v p).2 hv
      rw [if_pos hw, hp]
      simp [eq_comm]
    · rw [if_neg hw]
      constructor
      · intro hq
        refine ⟨hq, fun hqp => hw ?_⟩
        have hvirtual : t.virtual.find? p = some w := (h w p).1 (hqp ▸ hq)
        rw [hv] at hvirtual
        exact (Option.some.inj hvirtual).symm
      · exact And.left
  · rename_i hfree
    constructor
    · intro hq
      refine ⟨hq, fun hqp => ?_⟩
      have hvirtual : t.virtual.find? p = some w := (h w p).1 (hqp ▸ hq)
      rw [hfree] at hvirtual
      cases hvirtual
    · exact And.left

theorem Agree.freePhysical (h : t.Agree) (p : Qubit) : (t.freePhysical p).Agree := by
  intro w q
  rw [h.find?_physical_freePhysical, find?_virtual_freePhysical, Option.filter_eq_some_iff,
    bne_iff_ne, h w q]
  by_cases hq : q = p
  · simp [hq]
  · simp [hq]

theorem Agree.find?_physical_place (h : t.Agree) :
    (t.place v p).physical.find? w =
      if w = v then some p else (t.physical.find? w).filter (· != p) := by
  show (((t.freePhysical p).freeVirtual v).physical.insert v p).find? w = _
  rw [SortedMap.find?_insert]
  split
  · rfl
  · rename_i hw
    show ((t.freePhysical p).swap.freePhysical v).virtual.find? w = _
    rw [find?_virtual_freePhysical, if_neg hw]
    exact h.find?_physical_freePhysical

theorem Agree.find?_virtual_place (h : t.Agree) :
    (t.place v p).virtual.find? q =
      if q = p then some v else (t.virtual.find? q).filter (· != v) := by
  show (((t.freePhysical p).freeVirtual v).virtual.insert p v).find? q = _
  rw [SortedMap.find?_insert]
  split
  · rfl
  · rename_i hq
    show ((t.freePhysical p).swap.freePhysical v).physical.find? q = _
    rw [(h.freePhysical p).swap.find?_physical_freePhysical]
    show ((t.freePhysical p).virtual.find? q).filter _ = _
    rw [find?_virtual_freePhysical, if_neg hq]

theorem Agree.place (h : t.Agree) (v p : Qubit) : (t.place v p).Agree := by
  intro w q
  rw [h.find?_physical_place, h.find?_virtual_place]
  by_cases hw : w = v
  · subst hw
    by_cases hq : q = p
    · simp [hq]
    · simp [hq, Ne.symm hq, Option.filter_eq_some_iff]
  · by_cases hq : q = p
    · subst hq
      simp [hw, Ne.symm hw, Option.filter_eq_some_iff]
    · simp [hw, hq, Option.filter_eq_some_iff, h w q]

/-- A table has at most one inverse. -/
theorem Agree.ext (ht : t.Agree) {u : Tables} (hu : u.Agree) (h : t.physical = u.physical) :
    t = u := by
  have hvirtual : t.virtual = u.virtual := by
    apply SortedMap.ext_find?
    intro p
    apply Option.ext
    intro v
    rw [← ht v p, ← hu v p, h]
  cases t
  cases u
  rw [mk.injEq]
  exact ⟨h, hvirtual⟩

end Tables

/-! ## Both directions of a layout -/

variable {l : Layout} {v w p q : Qubit}

/-- The two directions of a layout. -/
def tables (l : Layout) : Tables := ⟨l.placement, l.inverse⟩

/-- Of entries with distinct values, only one has a value. -/
theorem eq_of_pairwise_snd_ne {κ β : Type} {entries : List (κ × β)}
    (hl : entries.Pairwise fun a b => a.2 ≠ b.2) {a b : κ × β} (ha : a ∈ entries)
    (hb : b ∈ entries) (h : a.2 = b.2) : a = b := by
  induction hl with
  | nil => cases ha
  | cons hne _ ih =>
    rcases List.mem_cons.1 ha with rfl | ha'
    · rcases List.mem_cons.1 hb with rfl | hb'
      · rfl
      · exact absurd h (hne b hb')
    · rcases List.mem_cons.1 hb with rfl | hb'
      · exact absurd h.symm (hne a ha')
      · exact ih ha' hb'

theorem physical?_eq_some_iff : l.physical? v = some p ↔ (v, p) ∈ l.pairs :=
  SortedMap.find?_eq_some_iff

theorem virtual?_eq_some_iff : l.virtual? p = some v ↔ (v, p) ∈ l.pairs := by
  unfold virtual?
  rw [Option.map_eq_some_iff]
  constructor
  · rintro ⟨⟨w, q⟩, hfind, rfl⟩
    have hq : q = p := by simpa using List.find?_some hfind
    have hmem := List.mem_of_find?_eq_some hfind
    exact hq ▸ hmem
  · intro hmem
    refine ⟨(v, p), find?_eq_of_mem_iff fun e => ?_, rfl⟩
    rw [beq_iff_eq, Option.some_inj]
    constructor
    · rintro ⟨he, hp⟩
      exact (eq_of_pairwise_snd_ne l.injective he hmem hp).symm
    · rintro rfl
      exact ⟨hmem, rfl⟩

theorem find?_inverse : l.inverse.find? p = l.virtual? p := by
  rw [inverse, SortedMap.find?_ofList]
  apply lookup_eq_of_mem_iff
  intro v
  rw [virtual?_eq_some_iff, List.mem_reverse, List.mem_map]
  constructor
  · rintro ⟨⟨w, q⟩, hmem, heq⟩
    cases heq
    exact hmem
  · intro hmem
    exact ⟨(v, p), hmem, rfl⟩

theorem agree_tables (l : Layout) : l.tables.Agree := by
  intro v p
  show l.physical? v = some p ↔ l.inverse.find? p = some v
  rw [find?_inverse, physical?_eq_some_iff, virtual?_eq_some_iff]

/-! ## Placements -/

theorem physical?_add :
    (l.add v p).physical? w = if w = v then some p else (l.physical? w).filter (· != p) := by
  show ((l.placement.filter (isApart v p)).insert v p).find? w = _
  rw [SortedMap.find?_insert]
  split
  · rfl
  · rename_i hw
    rw [SortedMap.find?_filter]
    congr 1
    funext q
    simp [isApart, hw]

/-- A placement changes the pairs that use one of its qubits, and no others. -/
theorem mem_pairs_add :
    (w, q) ∈ (l.add v p).pairs ↔ (w = v ∧ q = p) ∨ ((w, q) ∈ l.pairs ∧ w ≠ v ∧ q ≠ p) := by
  rw [← physical?_eq_some_iff, physical?_add, ← physical?_eq_some_iff]
  by_cases hw : w = v
  · simp [hw, eq_comm]
  · simp [hw]

/-- The step of a layout is the step of its tables. -/
theorem tables_add (l : Layout) (v p : Qubit) : (l.add v p).tables = l.tables.place v p := by
  apply Tables.Agree.ext (agree_tables _) ((agree_tables l).place v p)
  apply SortedMap.ext_find?
  intro w
  rw [(agree_tables l).find?_physical_place]
  exact physical?_add

/-- Any run of placements does to the tables what it does to the layout. -/
theorem tables_foldl_add (steps : List (Qubit × Qubit)) (l : Layout) :
    (steps.foldl (fun l e => l.add e.1 e.2) l).tables =
      steps.foldl (fun t e => t.place e.1 e.2) l.tables := by
  induction steps generalizing l with
  | nil => rfl
  | cons e rest ih => rw [List.foldl_cons, List.foldl_cons, ih, tables_add]

theorem tables_ofList (steps : List (Qubit × Qubit)) :
    (ofList steps).tables = steps.foldl (fun t e => t.place e.1 e.2) .empty :=
  tables_foldl_add steps empty

/-! ## Answers -/

/-- The last of increasing numbers is the highest. -/
theorem getLast?_eq_some_iff {qubits : List Qubit}
    (h : qubits.Pairwise fun a b => compare a b = .lt) :
    qubits.getLast? = some p ↔ p ∈ qubits ∧ ∀ q ∈ qubits, q ≤ p := by
  have hlast : ∀ p, qubits.getLast? = some p → p ∈ qubits ∧ ∀ q ∈ qubits, q ≤ p := by
    intro p hp
    obtain ⟨before, rfl⟩ := List.getLast?_eq_some_iff.1 hp
    obtain ⟨-, -, hlt⟩ := List.pairwise_append.1 h
    refine ⟨List.mem_append_right _ List.mem_cons_self, fun q hq => ?_⟩
    rcases List.mem_append.1 hq with hq | hq
    · exact UInt32.le_of_lt (Std.compare_eq_lt.1 (hlt q hq p List.mem_cons_self))
    · rw [List.mem_singleton.1 hq]
      exact UInt32.le_refl p
  constructor
  · exact hlast p
  · rintro ⟨hmem, hle⟩
    cases htop : qubits.getLast? with
    | none =>
      rw [List.getLast?_eq_none_iff.1 htop] at hmem
      cases hmem
    | some top =>
      obtain ⟨htop_mem, htop_le⟩ := hlast top htop
      rw [UInt32.le_antisymm (hle top htop_mem) (htop_le p hmem)]

theorem mem_keys_inverse : p ∈ l.inverse.keys ↔ ∃ v, (v, p) ∈ l.pairs := by
  rw [SortedMap.mem_keys_iff, find?_inverse, Option.isSome_iff_exists]
  simp only [virtual?_eq_some_iff]

/-- The highest physical qubit stands at the end of the table of the physical qubits. -/
theorem maxPhysical?_eq_getLast? : l.maxPhysical? = l.inverse.keys.getLast? := by
  have hkeys : l.inverse.keys.Pairwise fun a b => compare a b = .lt :=
    List.pairwise_map.2 l.inverse.sorted
  apply Option.ext
  intro p
  rw [maxPhysical?_eq_some_iff, getLast?_eq_some_iff hkeys, mem_keys_inverse]
  refine and_congr_right fun _ => ⟨?_, ?_⟩
  · intro hle q hq
    obtain ⟨v, hmem⟩ := mem_keys_inverse.1 hq
    exact hle _ hmem
  · intro hle e he
    exact hle e.2 (mem_keys_inverse.2 ⟨e.1, he⟩)

/-- A layout answers what two tables answer. -/
structure AnswersFrom (l : Layout) (t : Tables) : Prop where
  physical : ∀ v, l.physical? v = t.physical.find? v
  virtual : ∀ p, l.virtual? p = t.virtual.find? p
  pairs : l.pairs = t.physical.entries
  size : l.size = t.physical.size
  highest : l.maxPhysical? = t.virtual.keys.getLast?

theorem answersFrom_tables (l : Layout) : l.AnswersFrom l.tables where
  physical _ := rfl
  virtual _ := find?_inverse.symm
  pairs := rfl
  size := rfl
  highest := maxPhysical?_eq_getLast?

/-! ## One-to-one -/

/-- The look-ups in the two directions are inverse and answer the listed pairs. Every qubit of either
kind is listed at most once, so the size counts the qubits of both kinds. -/
structure IsOneToOne (l : Layout) : Prop where
  inverse : ∀ v p, l.physical? v = some p ↔ l.virtual? p = some v
  listed : ∀ v p, (v, p) ∈ l.pairs ↔ l.physical? v = some p
  virtuals : (l.pairs.map (·.1)).Nodup
  physicals : (l.pairs.map (·.2)).Nodup
  count_virtuals : {v | (l.physical? v).isSome = true}.ncard = l.size
  count_physicals : {p | (l.virtual? p).isSome = true}.ncard = l.size
  highest : ∀ p, l.maxPhysical? = some p ↔ (∃ v, (v, p) ∈ l.pairs) ∧ ∀ e ∈ l.pairs, e.2 ≤ p

/-- A list without repetitions counts what it lists. -/
theorem ncard_of_nodup {α : Type} [DecidableEq α] {s : Set α} {xs : List α} (hxs : xs.Nodup)
    (h : ∀ a, a ∈ s ↔ a ∈ xs) : s.ncard = xs.length := by
  have hs : s = ↑xs.toFinset := by
    ext a
    simp [h a]
  rw [hs, Set.ncard_coe_finset, List.toFinset_card_of_nodup hxs]

theorem isOneToOne (l : Layout) : l.IsOneToOne := by
  have hvirtuals : (l.pairs.map (·.1)).Nodup := by
    rw [List.Nodup, List.pairwise_map]
    refine l.placement.sorted.imp fun {a b} hlt heq => ?_
    rw [heq, compare_self_eq] at hlt
    cases hlt
  have hphysicals : (l.pairs.map (·.2)).Nodup := by
    rw [List.Nodup, List.pairwise_map]
    exact l.injective
  constructor
  case inverse => exact fun v p => physical?_eq_some_iff.trans virtual?_eq_some_iff.symm
  case listed => exact fun v p => physical?_eq_some_iff.symm
  case virtuals => exact hvirtuals
  case physicals => exact hphysicals
  case count_virtuals =>
    rw [ncard_of_nodup hvirtuals, List.length_map]
    · rfl
    · intro v
      simp [Option.isSome_iff_exists, physical?_eq_some_iff]
  case count_physicals =>
    rw [ncard_of_nodup hphysicals, List.length_map]
    · rfl
    · intro p
      simp [Option.isSome_iff_exists, virtual?_eq_some_iff]
  case highest => exact fun p => maxPhysical?_eq_some_iff

/-! ## Lists of pairs -/

/-- The pairs have no qubit in common. -/
def Apart (e e' : Qubit × Qubit) : Prop := e.1 ≠ e'.1 ∧ e.2 ≠ e'.2

theorem Apart.symm {e e' : Qubit × Qubit} (h : Apart e e') : Apart e' e := ⟨h.1.symm, h.2.symm⟩

/-- A layout is its pairs. -/
theorem ext_pairs {l l' : Layout} (h : ∀ e, e ∈ l.pairs ↔ e ∈ l'.pairs) : l = l' := by
  have hplacement : l.placement = l'.placement := by
    apply SortedMap.ext_find?
    intro v
    apply Option.ext
    intro p
    exact physical?_eq_some_iff.trans ((h (v, p)).trans physical?_eq_some_iff.symm)
  cases l
  cases l'
  rw [mk.injEq]
  exact hplacement

/-- A placement that is in nobody's way drops nothing. -/
theorem mem_pairs_add_of_apart {e : Qubit × Qubit} (h : ∀ e ∈ l.pairs, Apart (v, p) e) :
    e ∈ (l.add v p).pairs ↔ e = (v, p) ∨ e ∈ l.pairs := by
  obtain ⟨w, q⟩ := e
  rw [mem_pairs_add, Prod.mk.injEq]
  refine or_congr_right (and_iff_left_of_imp fun hmem => ?_)
  exact (h _ hmem).symm

/-- A list is accepted exactly if no two of its pairs, and none of them and a placed one, have a qubit
in common; then its pairs are added. -/
theorem addAll_eq_ok_iff {pairs : List (Qubit × Qubit)} {l' : Layout} :
    addAll l pairs = .ok l' ↔
      (pairs.Pairwise Apart ∧ ∀ e ∈ pairs, ∀ e' ∈ l.pairs, Apart e e') ∧
        ∀ e, e ∈ l'.pairs ↔ e ∈ pairs ∨ e ∈ l.pairs := by
  fun_induction addAll l pairs with
  | case1 l =>
    have hends : (List.Pairwise Apart [] ∧ ∀ e ∈ [], ∀ e' ∈ l.pairs, Apart e e') :=
      ⟨.nil, fun e he => absurd he List.not_mem_nil⟩
    rw [Except.ok.injEq, and_iff_right hends]
    constructor
    · rintro rfl
      simp
    · intro hpairs
      exact ext_pairs fun e => by simp [hpairs e]
  | case2 l v p rest w hw =>
    have hmem : (w, p) ∈ l.pairs := virtual?_eq_some_iff.1 hw
    refine iff_of_false (fun h => nomatch h) ?_
    rintro ⟨⟨-, hapart⟩, -⟩
    exact (hapart _ List.mem_cons_self _ hmem).2 rfl
  | case3 l v p rest hp q hq =>
    have hmem : (v, q) ∈ l.pairs := physical?_eq_some_iff.1 hq
    refine iff_of_false (fun h => nomatch h) ?_
    rintro ⟨⟨-, hapart⟩, -⟩
    exact (hapart _ List.mem_cons_self _ hmem).1 rfl
  | case4 l v p rest hp hv ih =>
    have hfree : ∀ e ∈ l.pairs, Apart (v, p) e := by
      rintro ⟨w, q⟩ hmem
      constructor
      · rintro rfl
        rw [physical?_eq_some_iff.2 hmem] at hv
        cases hv
      · rintro rfl
        rw [virtual?_eq_some_iff.2 hmem] at hp
        cases hp
    rw [ih, List.pairwise_cons]
    simp only [mem_pairs_add_of_apart hfree, forall_eq_or_imp, List.mem_cons]
    refine and_congr ⟨?_, ?_⟩ (forall_congr' fun e => iff_congr Iff.rfl ?_)
    · rintro ⟨hrest, hapart⟩
      exact ⟨⟨fun e he => (hapart e he).1.symm, hrest⟩, hfree, fun e he => (hapart e he).2⟩
    · rintro ⟨⟨hhead, hrest⟩, -, hapart⟩
      exact ⟨hrest, fun e he => ⟨(hhead e he).symm, hapart e he⟩⟩
    · rw [or_left_comm, or_assoc]

/-- A list of pairs is accepted if no two of them have a qubit in common, and then they are the pairs of
the layout. -/
theorem ofPairs_eq_ok_iff {pairs : List (Qubit × Qubit)} :
    ofPairs pairs = .ok l ↔ pairs.Pairwise Apart ∧ ∀ e, e ∈ l.pairs ↔ e ∈ pairs := by
  have hempty : empty.pairs = [] := rfl
  rw [ofPairs, addAll_eq_ok_iff]
  simp [hempty]

/-- The order of the pairs decides only how a list is refused. -/
theorem ofPairs_perm {pairs pairs' : List (Qubit × Qubit)} (h : pairs.Perm pairs') :
    (ofPairs pairs).toOption = (ofPairs pairs').toOption := by
  have hok : ∀ l, ofPairs pairs = .ok l ↔ ofPairs pairs' = .ok l := by
    intro l
    rw [ofPairs_eq_ok_iff, ofPairs_eq_ok_iff, h.pairwise_iff Apart.symm]
    simp only [h.mem_iff]
  cases hpairs : ofPairs pairs with
  | ok l => rw [(hok l).1 hpairs]
  | error fault =>
    cases hpairs' : ofPairs pairs' with
    | ok l =>
      rw [(hok l).2 hpairs'] at hpairs
      cases hpairs
    | error fault' => rfl

/-! ## The ways to come by a layout -/

/-- The layouts that the operations lead to. -/
inductive Reached : Layout → Prop where
  | empty : Reached .empty
  | trivial (n : Qubit) : Reached (.trivial n)
  | ofPhysical {physical : List Qubit} {l : Layout} : ofPhysical physical = .ok l → Reached l
  | ofPairs {pairs : List (Qubit × Qubit)} {l : Layout} : ofPairs pairs = .ok l → Reached l
  | ofList (pairs : List (Qubit × Qubit)) : Reached (.ofList pairs)
  | add {l : Layout} (v p : Qubit) : Reached l → Reached (l.add v p)

/-- A list that is accepted is placed pair by pair. -/
theorem addAll_eq_ok {pairs : List (Qubit × Qubit)} {l' : Layout} (h : addAll l pairs = .ok l') :
    l' = pairs.foldl (fun l e => l.add e.1 e.2) l := by
  fun_induction addAll l pairs with
  | case1 l =>
    cases h
    rfl
  | case2 l v p rest w hw => cases h
  | case3 l v p rest hp q hq => cases h
  | case4 l v p rest hp hv ih => exact ih h

/-- Every layout is reached by placements alone. -/
theorem Reached.exists_steps (h : Reached l) : ∃ steps, l = .ofList steps := by
  induction h with
  | empty => exact ⟨[], rfl⟩
  | trivial n => exact ⟨_, rfl⟩
  | ofPhysical hok => exact ⟨_, addAll_eq_ok hok⟩
  | ofPairs hok => exact ⟨_, addAll_eq_ok hok⟩
  | ofList pairs => exact ⟨pairs, rfl⟩
  | @add l v p _ ih =>
    obtain ⟨steps, rfl⟩ := ih
    exact ⟨steps ++ [(v, p)], by rw [Layout.ofList, Layout.ofList, List.foldl_append]; rfl⟩

/-- **A layout is one-to-one, whichever operations led to it.** It answers what two tables answer that
are mended at each placement, and a placement replaces exactly the pairs that use one of its qubits. -/
theorem reached_oneToOne (h : Reached l) :
    l.IsOneToOne ∧
      (∃ steps : List (Qubit × Qubit),
        l.AnswersFrom (steps.foldl (fun t e => t.place e.1 e.2) .empty)) ∧
      ∀ v p, (l.add v p).tables = l.tables.place v p ∧
        ∀ w q, (w, q) ∈ (l.add v p).pairs ↔
          (w = v ∧ q = p) ∨ ((w, q) ∈ l.pairs ∧ w ≠ v ∧ q ≠ p) := by
  refine ⟨l.isOneToOne, ?_, fun v p => ⟨tables_add l v p, fun w q => mem_pairs_add⟩⟩
  obtain ⟨steps, rfl⟩ := h.exists_steps
  refine ⟨steps, ?_⟩
  rw [← tables_ofList]
  exact answersFrom_tables _

/-- Three qubits in place, of which the first moves to the place of the third. -/
def movedLine : Layout := (Layout.trivial 3).add 0 2

theorem reached_oneToOne_movedLine :
    Reached movedLine ∧ movedLine.pairs = [(0, 2), (1, 1)] ∧ movedLine.virtual? 2 = some 0 ∧
      movedLine.maxPhysical? = some 2 := by
  have hreached : Reached movedLine := .add 0 2 (.trivial 3)
  have hpairs : movedLine.pairs = [(0, 2), (1, 1)] := by decide
  obtain ⟨hone, -, -⟩ := reached_oneToOne hreached
  refine ⟨hreached, hpairs, ?_, ?_⟩
  · rw [← hone.inverse, ← hone.listed, hpairs]
    exact List.mem_cons_self
  · rw [hone.highest, hpairs]
    exact ⟨⟨0, List.mem_cons_self⟩, by simp⟩

end PresetPipeline.Layout
